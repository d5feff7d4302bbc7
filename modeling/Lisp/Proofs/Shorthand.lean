import Lisp.Proofs.Eval.Expansion
import Lisp.Shorthand

/-!
# Shorthands and what they stand for

A shorthand is told by the text of its operator: a dot in front, with or without a minus sign behind
it, or a dot at the end. What it stands for is syntax, so that nothing is rewritten twice, and it
has the operands of the shorthand in places of their own, between symbols that come from the
operator. A call and a construction have places for any number of operands. The place of a property
is for one operand only: the others are lost, although the special form itself refuses them.

## Main definitions

* `Shorthand.Abbreviates` — the three shorthands
* `Shorthand.Places` — the operands that a special form for objects has room for

## Main results

* `Shorthand.expand?_eq_some_iff` — exactly the three shorthands are rewritten
* `Shorthand.expand_keeps_operands` — the operands are kept, in order and once
* `Shorthand.property_drops_operand` — except behind the receiver of a property
-/

namespace Lisp.Shorthand

variable {op : Name} {operands : List Value} {form : Value}

/-! ### The three shorthands -/

/-- A list with some operator and some operands is short for a form. -/
inductive Abbreviates : Name → List Value → Value → Prop
  /-- Reading a property; what stands behind the receiver is not looked at. -/
  | property {name : String} (named : name ≠ "") (other : name ≠ "set!") (receiver : Value)
      (unread : List Value) :
      Abbreviates (.simple (".-" ++ name)) (receiver :: unread)
        (.list [.sym ".-", receiver, .sym name])
  /-- Calling a method. -/
  | method {name : String} (named : name ≠ "") (other : name.toList.head? ≠ some '-')
      (receiver : Value) (args : List Value) :
      Abbreviates (.simple ("." ++ name)) (receiver :: args)
        (.list [.sym ".", receiver, .list (.sym name :: args)])
  /-- Making an instance. -/
  | construct {cls : Name} (named : cls.base ≠ "") (other : cls.base.toList.head? ≠ some '.')
      (args : List Value) :
      Abbreviates ⟨cls.space, cls.base ++ "."⟩ args (.list (.sym "new" :: .symbol cls :: args))

/-- The characters of a text that is not empty. -/
theorem exists_cons {text : String} (h : text ≠ "") :
    ∃ c cs, text.toList = c :: cs ∧ String.ofList (c :: cs) = text := by
  obtain ⟨c, cs, htext⟩ := List.exists_cons_of_ne_nil (mt String.toList_eq_nil_iff.1 h)
  exact ⟨c, cs, htext, by rw [← htext, String.ofList_toList]⟩

theorem expand?_nil {c : Char} {cs : List Char} (unqualified : op.space = none)
    (text : op.base.toList = '.' :: c :: cs) : expand? op [] = none := by
  simp only [expand?, unqualified, text]

theorem expand?_property {name : List Char} (unqualified : op.space = none)
    (text : op.base.toList = '.' :: '-' :: name) (receiver : Value) (unread : List Value) :
    expand? op (receiver :: unread) =
      if name = [] ∨ name = "set!".toList then none
      else some (.list [.sym ".-", receiver, .sym (String.ofList name)]) := by
  simp only [expand?, unqualified, text, Bool.or_eq_true, List.isEmpty_iff, decide_eq_true_eq]

theorem expand?_method {c : Char} {cs : List Char} (unqualified : op.space = none)
    (text : op.base.toList = '.' :: c :: cs) (hc : c ≠ '-') (receiver : Value)
    (args : List Value) :
    expand? op (receiver :: args) =
      some (.list [.sym ".", receiver, .list (.sym (String.ofList (c :: cs)) :: args)]) := by
  simp only [expand?, unqualified, text]
  split
  · rename_i name dash _
    exact absurd (List.cons.inj dash).1 hc
  · rfl

/-- The test for a dot at the end. -/
theorem expand?_construct (other : ∀ c cs, op.space = none → op.base.toList ≠ '.' :: c :: cs)
    (operands : List Value) :
    expand? op operands =
      if 1 < op.base.toList.length ∧ op.base.toList.getLast? = some '.' ∧
          op.base.toList.head? ≠ some '.' then
        some (.list (.sym "new" :: .symbol ⟨op.space, String.ofList op.base.toList.dropLast⟩ ::
          operands))
      else none := by
  unfold expand?
  split
  · rename_i unqualified text
    exact absurd text (other _ _ unqualified)
  · simp [and_assoc]

theorem Abbreviates.expand?_eq (h : Abbreviates op operands form) :
    expand? op operands = some form := by
  cases h with
  | @property name named other receiver unread =>
    have text : (".-" ++ name).toList = '.' :: '-' :: name.toList := String.toList_append ..
    rw [expand?_property rfl text, if_neg, String.ofList_toList]
    rw [String.toList_inj, String.toList_eq_nil_iff]
    exact not_or.2 ⟨named, other⟩
  | @method name named other receiver args =>
    obtain ⟨c, cs, hname, stem⟩ := exists_cons named
    have text : ("." ++ name).toList = '.' :: c :: cs := by
      rw [String.toList_append, hname]
      rfl
    have hc : c ≠ '-' := by simpa [hname] using other
    rw [expand?_method rfl text hc, stem]
  | @construct cls named other args =>
    obtain ⟨c, cs, hname, stem⟩ := exists_cons named
    have text : (cls.base ++ ".").toList = cls.base.toList ++ ['.'] := String.toList_append ..
    have hc : c ≠ '.' := by simpa [hname] using other
    rw [expand?_construct, if_pos]
    · simp only [text, List.dropLast_concat, String.ofList_toList]
    · simp only [text, List.getLast?_concat, hname]
      simpa using hc
    · intro d ds _ htext
      rw [text, hname] at htext
      exact hc (List.cons.inj htext).1

/-- A text with known characters. -/
theorem eq_append {text dots : String} {cs : List Char} (h : text.toList = dots.toList ++ cs) :
    text = dots ++ String.ofList cs := by
  apply String.toList_inj.1
  rw [h, String.toList_append, String.toList_ofList]

/-- Exactly the three shorthands are rewritten. -/
theorem expand?_eq_some_iff : expand? op operands = some form ↔ Abbreviates op operands form := by
  refine ⟨fun h => ?_, Abbreviates.expand?_eq⟩
  obtain ⟨space, base⟩ := op
  by_cases dotted : ∃ c cs, space = none ∧ base.toList = '.' :: c :: cs
  · obtain ⟨c, cs, rfl, text⟩ := dotted
    cases operands with
    | nil =>
      rw [expand?_nil rfl text] at h
      cases h
    | cons receiver args =>
      by_cases hc : c = '-'
      · subst hc
        rw [expand?_property rfl text, Option.ite_none_left_eq_some] at h
        obtain ⟨accepted, ⟨⟩⟩ := h
        obtain ⟨named, other⟩ := not_or.1 accepted
        have hbase : base = ".-" ++ String.ofList cs := eq_append text
        rw [hbase]
        apply Abbreviates.property
        · rwa [Ne, ← String.toList_eq_nil_iff, String.toList_ofList]
        · rwa [Ne, ← String.toList_inj, String.toList_ofList]
      · rw [expand?_method rfl text hc] at h
        cases h
        have hbase : base = "." ++ String.ofList (c :: cs) := eq_append text
        rw [hbase]
        apply Abbreviates.method
        · rw [Ne, ← String.toList_eq_nil_iff, String.toList_ofList]
          exact List.cons_ne_nil c cs
        · simpa using hc
  · rw [expand?_construct fun c cs unqualified text => dotted ⟨c, cs, unqualified, text⟩,
      Option.ite_none_right_eq_some] at h
    obtain ⟨⟨long, last, first⟩, ⟨⟩⟩ := h
    obtain ⟨stem, text⟩ := List.getLast?_eq_some_iff.1 last
    dsimp only at long first text ⊢
    have hbase : base = String.ofList stem ++ "." :=
      eq_append (by rw [String.toList_ofList, text])
    -- one character alone is the dot itself, so that there is a first one before it
    obtain ⟨c, cs, rfl⟩ : ∃ c cs, stem = c :: cs := by
      apply List.exists_cons_of_ne_nil
      rintro rfl
      simp [text] at long
    rw [text, List.dropLast_concat, hbase]
    let cls : Name := ⟨space, String.ofList (c :: cs)⟩
    have short := @Abbreviates.construct cls
    apply short
    · rw [Ne, ← String.toList_eq_nil_iff, String.toList_ofList]
      exact List.cons_ne_nil c cs
    · simpa [cls, text] using first

/-! ### Their operands -/

/-- The operands that a special form for objects has room for: the receiver of a property, the
receiver of a method and the arguments of the call, or the arguments for an instance. What else
stands in the form are symbols. -/
inductive Places : Value → List Value → Prop
  | property (receiver : Value) (name : String) :
      Places (.list [.sym ".-", receiver, .sym name]) [receiver]
  | method (receiver : Value) (name : String) (args : List Value) :
      Places (.list [.sym ".", receiver, .list (.sym name :: args)]) (receiver :: args)
  | construct (cls : Name) (args : List Value) :
      Places (.list (.sym "new" :: .symbol cls :: args)) args

/-- A property has room for its receiver only. -/
theorem Places.of_property {receiver : Value} {later : List Value} (h : Places form operands)
    (hform : form = .list (.sym ".-" :: receiver :: later)) : operands = [receiver] := by
  cases h with
  | property first name =>
    cases hform
    rfl
  | method => simp [Value.sym, Name.simple] at hform
  | construct => simp [Value.sym, Name.simple] at hform

/-- The operator is short for reading a property. -/
def ReadsProperty (op : Name) : Prop := ∃ name, op = .simple (".-" ++ name)

/-- Special forms are no shorthands. -/
theorem expand?_special (special : SpecialForm) (operands : List Value) :
    expand? (.simple special.text) operands = none := by
  cases operands <;> cases special <;> rfl

theorem Abbreviates.isSyntax (h : Abbreviates op operands form) :
    ∃ special later, special ∈ [SpecialForm.propertyGet, .methodCall, .new] ∧
      form = .list (.sym special.text :: later) := by
  cases h with
  | property => exact ⟨.propertyGet, _, by simp, rfl⟩
  | method => exact ⟨.methodCall, _, by simp, rfl⟩
  | construct => exact ⟨.new, _, by simp, rfl⟩

theorem Abbreviates.places (h : Abbreviates op operands form)
    (all : ReadsProperty op → operands.length ≤ 1) : Places form operands := by
  cases h with
  | property named other receiver unread =>
    have none : unread = [] := by simpa using all ⟨_, rfl⟩
    rw [none]
    apply Places.property
  | method named other receiver args => apply Places.method
  | construct named other args => apply Places.construct

/-- What a shorthand stands for is a special form that reads a property, calls a method or makes an
instance. It is neither a shorthand nor open to expansion, whatever the operands of the special form
may be. All operands of the shorthand stand in it, in order and each of them once, unless it reads a
property and has operands behind the receiver. -/
theorem expand_keeps_operands (h : expand? op operands = some form) :
    (∃ special later, special ∈ [SpecialForm.propertyGet, .methodCall, .new] ∧
      form = .list (.sym special.text :: later) ∧
      ∀ others, expand? (.simple special.text) others = none) ∧
    form.IsSyntax ∧
    ((ReadsProperty op → operands.length ≤ 1) → Places form operands) := by
  have short := expand?_eq_some_iff.1 h
  obtain ⟨special, later, hspecial, rfl⟩ := short.isSyntax
  refine ⟨⟨special, later, hspecial, rfl, expand?_special special⟩, ?_, short.places⟩
  rintro name ⟨⟩
  exact ⟨special, rfl⟩

/-- A method with two arguments, of which one is a list itself. -/
theorem expand_keeps_operands_method :
    let args : List Value := [.sym "a", .list [.sym "f", .sym "o"]]
    ∃ form, expand? (.simple ".m") (.sym "o" :: args) = some form ∧
      ¬ ReadsProperty (.simple ".m") ∧ form.IsSyntax ∧ Places form (.sym "o" :: args) := by
  intro args
  have other : ¬ ReadsProperty (.simple ".m") := by
    rintro ⟨name, h⟩
    have second := congrArg (·.base.toList[1]?) h
    simp [Name.simple, String.toList_append] at second
  have short : expand? (.simple ".m") (.sym "o" :: args) =
      some (.list [.sym ".", .sym "o", .list (.sym "m" :: args)]) := rfl
  obtain ⟨-, syntactic, places⟩ := expand_keeps_operands short
  exact ⟨_, rfl, other, syntactic, places fun reads => absurd reads other⟩

/-- Behind the receiver of a property an operand is dropped, and so it is not evaluated. -/
theorem property_drops_operand :
    let operands : List Value := [.sym "o", .list [.sym "launch"]]
    ∃ form, expand? (.simple ".-x") operands = some form ∧
      form = .list [.sym ".-", .sym "o", .sym "x"] ∧ ¬ Places form operands := by
  intro operands
  refine ⟨_, rfl, rfl, fun places => ?_⟩
  have kept := places.of_property rfl
  exact absurd (congrArg List.length kept) (by decide)

end Lisp.Shorthand
