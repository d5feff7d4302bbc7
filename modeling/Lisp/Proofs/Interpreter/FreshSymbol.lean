import Lisp.Proofs.Interpreter.Growth

/-!
# Symbols made from numbers

A program asks for a new symbol by a text, and gets the text with the next number behind it. The
number is used up then, and so is that of every lambda, so no number comes a second time in the life
of a session. Still two of these symbols can be one: nothing divides the text from the number, and
digits at the end of one text may be the first digits of a longer number behind another. This is
the only way in which it happens.

## Main definitions

* `Machine.Later` — what becomes of a machine in the life of a session
* `Gensym.Begins` — the text that a new symbol begins with
* `Gensym.call` — a program asks for a new symbol

## Main results

* `append_toString_eq_iff` — when two texts with numbers behind them are the same
* `Machine.Later.counter_le` — numbers do not come back
* `Gensym.made_same_iff` — when two new symbols are the same
* `Gensym.made_twice` — a program that gets one symbol twice
-/

namespace Lisp

/-! ### Numbers behind texts -/

/-- A greater number has at least as many digits. -/
theorem length_toDigits_mono {n k : Nat} (h : n ≤ k) :
    (Nat.toDigits 10 n).length ≤ (Nat.toDigits 10 k).length := by
  have hpos : 0 < (Nat.toDigits 10 k).length := Nat.length_toDigits_pos
  have hk : k < 10 ^ (Nat.toDigits 10 k).length :=
    (Nat.length_toDigits_le_iff (by omega) hpos).1 le_rfl
  exact (Nat.length_toDigits_le_iff (by omega) hpos).2 (Nat.lt_of_le_of_lt h hk)

/-- Two texts, one with a number behind it and the other with a greater one, are the same exactly if
the first text has digits at its end that are the first digits of the greater number. -/
theorem append_toString_eq_iff {p q : String} {n k : Nat} (h : n < k) :
    p ++ toString n = q ++ toString k ↔
      ∃ digits, digits ≠ "" ∧ p = q ++ digits ∧ toString k = digits ++ toString n := by
  constructor
  · intro same
    have chars : p.toList ++ Nat.toDigits 10 n = q.toList ++ Nat.toDigits 10 k := by
      simpa [Nat.toString_eq_repr, Nat.toList_repr] using congrArg String.toList same
    have differ : Nat.toDigits 10 n ≠ Nat.toDigits 10 k := by
      intro digits
      have numbers := congrArg (Nat.ofDigitChars 10 · 0) digits
      simp only [Nat.ofDigitChars_ten_toDigits] at numbers
      exact Nat.ne_of_lt h numbers
    have ends : ∃ digits, p.toList = q.toList ++ digits ∧
        Nat.toDigits 10 k = digits ++ Nat.toDigits 10 n := by
      rcases List.append_eq_append_iff.1 chars with ⟨more, -, hn⟩ | ends
      · -- the smaller number would end in the greater one, and so be the same
        have length := congrArg List.length hn
        have mono := length_toDigits_mono (Nat.le_of_lt h)
        rw [List.length_append] at length
        obtain rfl : more = [] := List.length_eq_zero_iff.1 (by omega)
        exact absurd hn differ
      · exact ends
    obtain ⟨digits, hp, hk⟩ := ends
    refine ⟨String.ofList digits, fun none => ?_, ?_, ?_⟩
    · have none : digits = [] := by simpa using congrArg String.toList none
      exact differ (by simpa [none] using hk.symm)
    · exact String.toList_inj.1 (by simpa using hp)
    · exact String.toList_inj.1 (by simpa [Nat.toString_eq_repr, Nat.toList_repr] using hk)
  · rintro ⟨digits, -, rfl, hk⟩
    rw [hk, String.append_assoc]

/-! ### The life of a session -/

namespace Machine

/-- One machine becomes another in the life of a session: evaluations change it in any number of
ways, and in between its output is taken. -/
def Later : Machine → Machine → Prop :=
  Relation.ReflTransGen fun m m' => m.Change m' ∨ m' = { m with output := "" }

variable {m m' : Machine}

theorem Evolves.later (evolves : m.Evolves m') : m.Later m' := by
  induction evolves with
  | refl => exact .refl
  | tail _ change ih => exact ih.tail (.inl change)

/-- Numbers that have been used up do not come back. -/
theorem Later.counter_le (later : m.Later m') : m.counter ≤ m'.counter := by
  induction later with
  | refl => exact Nat.le_refl _
  | tail _ step ih =>
    rcases step with change | rfl
    · exact Nat.le_trans ih change.grows.counter
    · exact ih

end Machine

namespace Interpreter

/-- Whatever a session is asked leads to a later machine. -/
theorem later_ask [Tables] (i : Interpreter) (fuel : Nat) (request : Request) :
    i.machine.Later (i.ask fuel request).2.machine :=
  (evolves_ask i fuel request).later

theorem later_takeOutput (i : Interpreter) : i.machine.Later i.takeOutput.2.machine :=
  .single (.inr rfl)

end Interpreter

/-! ### New symbols -/

namespace Gensym

/-- The text that a new symbol begins with: the one that is given, or a fixed one. -/
inductive Begins (h : Heap) : List Value → String → Prop
  | default : Begins h [] "G__"
  | given {v : Value} {p : String} (name : Operand.name h v = .ok p) : Begins h [v] p

/-- A program asks for a new symbol, as long as there is fuel for it. -/
def call [Tables] (s : Setting) (fuel : Nat) (args : List Value) (form : Value) : Eval Value :=
  (Engine.ofFuel s (fuel + 1)).call (.entity (.builtin (.procedure .gensym))) args form

/-- The name of a symbol. -/
def name? : Value → Option Name
  | .symbol n => some n
  | _ => none

variable {s s' : Setting} {fuel fuel' : Nat} {form form' : Value} {m m' : Machine}
  {args args' : List Value} {p q : String}

/-- It gets the text with the next number behind it, and the number is used up. -/
theorem call_eq [Tables] (begins : Begins m.heap args p) :
    call s fuel args form m =
      .ok (.sym (p ++ toString m.counter)) { m with counter := m.counter + 1 } := by
  cases begins with
  | default => rfl
  | @given v _ name =>
    have made : call s fuel [v] form m =
        (Eval.ofCause (Operand.name m.heap v) >>= Engine.makeSymbol) m := rfl
    rw [made, name]
    rfl

/-- Two new symbols that a program gets in the life of a session, one at a later moment than the
other, whatever happens in between, are the same exactly if digits at the end of the text for the
first, behind the text for the second, are the first digits of the number in the second, and the
number in the first makes up the others. So symbols for one text are different, and so are symbols
for any texts of which the first does not end in a digit. -/
theorem made_same_iff [Tables] (first : Begins m.heap args p)
    (later : ((call s fuel args form).after m).Later m') (second : Begins m'.heap args' q) :
    ∃ a b, (call s fuel args form).outcome m = .ok (.sym a) ∧
      (call s' fuel' args' form').outcome m' = .ok (.sym b) ∧
      (a = b ↔ ∃ digits, digits ≠ "" ∧ p = q ++ digits ∧
        toString m'.counter = digits ++ toString m.counter) := by
  have used : m.counter < m'.counter := by
    have kept := later.counter_le
    rw [Eval.after, call_eq first] at kept
    exact kept
  refine ⟨p ++ toString m.counter, q ++ toString m'.counter, ?_, ?_, append_toString_eq_iff used⟩
  · rw [Eval.outcome, call_eq first]
  · rw [Eval.outcome, call_eq second]

/-- A symbol for `x1`, then a procedure and another symbol, and when the output has been taken one
for `:x`: the text of the first is that of the last with a digit behind it, but the numbers do not
fit. -/
theorem made_same_iff_apart :
    let i := Interpreter.start {} fun _ => none
    let x1 := call i.setting 40 [.string "x1"] .nil
    let j := ({ i with machine := x1.after i.machine } : Interpreter)
    let k := (j.ask 40 (.text "(define f (lambda [y] y)) (gensym)" "t")).2.takeOutput.2
    let x := call k.setting 40 [.kw "x"] .nil
    Begins i.machine.heap [.string "x1"] "x1" ∧ j.machine.Later k.machine ∧
      Begins k.machine.heap [.kw "x"] "x" ∧
      ∃ a b, x1.outcome i.machine = .ok (.sym a) ∧ x.outcome k.machine = .ok (.sym b) ∧ a ≠ b := by
  intro i x1 j k x
  have first : Begins i.machine.heap [.string "x1"] "x1" := .given rfl
  have later : j.machine.Later k.machine :=
    (j.later_ask 40 _).trans (Interpreter.later_takeOutput _)
  have second : Begins k.machine.heap [.kw "x"] "x" := .given rfl
  have number : k.machine.counter = 3 := by decide +kernel
  obtain ⟨a, b, ha, hb, same⟩ := made_same_iff first later second
  refine ⟨first, later, second, a, b, ha, hb, fun h => ?_⟩
  -- the number in the last symbol has one digit, and would need two
  obtain ⟨digits, nonempty, -, numbers⟩ := same.1 h
  rw [number] at numbers
  have length := congrArg String.length numbers
  rw [String.length_append] at length
  have : digits.length ≠ 0 := fun none => nonempty (String.length_eq_zero_iff.1 none)
  have : (toString i.machine.counter).length = 1 := by decide
  have : (toString 3).length = 1 := by decide
  omega

/-- A program asks for symbols for `x1`, nine times for `a`, and for `x`. The first and the last of
them are the same. -/
theorem made_twice :
    let i := Interpreter.start {} fun _ => none
    let answer := (i.ask 40 (.text "(map gensym '(x1 a a a a a a a a a x))" "t")).1
    let names : Except Signal Value → List String
      | .ok (.list symbols) => (symbols.filterMap name?).map (·.text)
      | _ => []
    i.Reachable ∧ names answer =
      ["x10", "a1", "a2", "a3", "a4", "a5", "a6", "a7", "a8", "a9", "x10"] ∧
      ¬ (names answer).Nodup := by
  intro i answer names
  have found : names answer =
      ["x10", "a1", "a2", "a3", "a4", "a5", "a6", "a7", "a8", "a9", "x10"] := by
    decide +kernel
  refine ⟨.start {} fun _ => none, found, ?_⟩
  rw [found]
  decide

end Gensym

end Lisp
