import Lisp.Proofs.Eval.TailCall

/-!
# Expansion ends where there is nothing to expand

An expander is any lambda: it may print, define further expanders, or take the mark from one that
was there. So whether a form is the call of an expander depends on the machine, and the machine that
counts is the one left behind by the last expander. There the form that has come out names no
expander, which is what makes expansion idempotent, and evaluation of the form that went in is
evaluation of the one that has come out.

Syntax is never open to this. A special form is recognised by its head before anything is looked up,
so that no binding of that name, wherever it is, can take its place.

## Main definitions

* `Value.headName?` — the symbol that a list starts with
* `Machine.NamesMacro` — the head of a form refers to an expander
* `Engine.Expands` — expanders called one after the other, each for what the last one gave

## Main results

* `Engine.expandFrom_eq_ok_iff` — expansion is a number of such calls, up to a form that names none
* `Engine.expand_fixed_point` — what expansion gives is not expanded further, and has the same value
-/

namespace Lisp

/-! ### Forms that are open to expansion -/

/-- The symbol that a list starts with. -/
def Value.headName? : Value → Option Name
  | .list (.symbol name :: _) => some name
  | _ => none

/-- A form that is no list headed by a symbol, or whose head is the name of a special form. -/
def Value.IsSyntax (form : Value) : Prop :=
  ∀ name, form.headName? = some name → ∃ special : SpecialForm, name = .simple special.text

theorem SpecialForm.mem_all (special : SpecialForm) : special ∈ all := by
  cases special <;> decide

/-- Exactly the unqualified names of special forms are recognised as such. -/
theorem SpecialForm.isSome_ofName? {name : Name} :
    (ofName? name).isSome ↔ ∃ special : SpecialForm, name = .simple special.text := by
  obtain ⟨space, base⟩ := name
  cases space with
  | some space => simp [ofName?, Name.isQualified, Name.simple]
  | none =>
    suffices (∃ special, special ∈ all ∧ special.text = base) ↔
        ∃ special : SpecialForm, base = special.text by
      simpa [ofName?, Name.isQualified, Name.simple] using this
    constructor
    · rintro ⟨special, -, rfl⟩
      exact ⟨special, rfl⟩
    · rintro ⟨special, rfl⟩
      exact ⟨special, special.mem_all, rfl⟩

theorem SpecialForm.ofName?_text (special : SpecialForm) :
    ofName? (.simple special.text) = some special := by
  cases special <;> decide

namespace Machine

/-- The head of a form is the name of no special form, and refers to a lambda that is marked as an
expander. -/
def NamesMacro (m : Machine) (scope : ScopeRef) (form : Value) : Prop :=
  ∃ name f metadata, form.headName? = some name ∧ SpecialForm.ofName? name = none ∧
    m.resolve? scope name = .ok (some ⟨.entity (.lambda f), some metadata⟩) ∧
    metadata.flag "macro" = true

variable {m : Machine} {scope : ScopeRef} {form : Value}

/-- A form has an expander exactly if it names one. -/
theorem isSome_expander? : (m.expander? scope form).isSome ↔ m.NamesMacro scope form := by
  constructor
  · intro h
    unfold expander? at h
    split at h
    case h_1 name operands =>
      split at h
      · cases h
      · rename_i special
        split at h
        case h_1 f metadata resolved =>
          by_cases flag : metadata.flag "macro" = true
          · exact ⟨name, f, metadata, rfl, by simpa using special, resolved, flag⟩
          · simp [flag] at h
        case h_2 => cases h
    case h_2 => cases h
  · rintro ⟨name, f, metadata, head, special, resolved, flag⟩
    unfold Value.headName? at head
    split at head
    · cases head
      simp [expander?, special, resolved, flag]
    · cases head

/-- Syntax has no expander, whatever is bound. -/
theorem expander?_of_isSyntax (h : form.IsSyntax) : m.expander? scope form = none := by
  rw [← Option.not_isSome_iff_eq_none, isSome_expander?]
  rintro ⟨name, f, metadata, head, special, -⟩
  have named := SpecialForm.isSome_ofName?.2 (h name head)
  rw [special] at named
  cases named

/-- An expander is a lambda. -/
theorem exists_lambda_of_expander? {f : Value} {operands : List Value}
    (h : m.expander? scope form = some (f, operands)) : ∃ r, f = .entity (.lambda r) := by
  unfold expander? at h
  split at h
  case h_1 =>
    split at h
    · cases h
    · split at h
      case h_1 r _ _ =>
        split at h
        · cases h
          exact ⟨r, rfl⟩
        · cases h
      case h_2 => cases h
  case h_2 => cases h

end Machine

namespace Engine

/-! ### Expansion as a run -/

/-- Expanders called one after the other: each belongs to the form that the last one gave, on the
machine that it left behind. -/
inductive Expands (E : Engine) (scope : ScopeRef) :
    Nat → Value → Machine → Value → Machine → Prop
  | refl (form : Value) (m : Machine) : Expands E scope 0 form m form m
  | step {k : Nat} {form f next r : Value} {operands : List Value} {m m' m'' : Machine}
      (expander : m.expander? scope form = some (f, operands))
      (call : E.call f operands f m = .ok next m')
      (rest : Expands E scope k next m' r m'') : Expands E scope (k + 1) form m r m''

variable {E : Engine} {scope : ScopeRef} {form r : Value} {m m' : Machine}

theorem expandFrom_of_expander?_eq_none (rounds : Nat) (h : m.expander? scope form = none) :
    E.expandFrom scope (rounds + 1) form m = .ok form m := by
  simp only [expandFrom, bind, EStateM.bind, Eval.get_apply, h]
  rfl

theorem expandFrom_of_expander? (rounds : Nat) {f : Value} {operands : List Value}
    (h : m.expander? scope form = some (f, operands)) :
    E.expandFrom scope (rounds + 1) form m =
      (E.call f operands f >>= fun next => E.expandFrom scope rounds next) m := by
  simp only [expandFrom, bind, EStateM.bind, Eval.get_apply, h]

/-- A form comes out of expansion after a number of expanders, less than the bound. -/
theorem exists_expands_of_expandFrom {rounds : Nat}
    (h : E.expandFrom scope rounds form m = .ok r m') :
    (∃ k < rounds, E.Expands scope k form m r m') ∧ m'.expander? scope r = none := by
  induction rounds generalizing form m with
  | zero => cases h
  | succ rounds ih =>
    -- the form either is what comes out, or is followed by what its expander gives
    cases expander : m.expander? scope form with
    | none =>
      rw [expandFrom_of_expander?_eq_none rounds expander] at h
      cases h
      exact ⟨⟨0, rounds.succ_pos, .refl _ _⟩, expander⟩
    | some found =>
      obtain ⟨f, operands⟩ := found
      rw [expandFrom_of_expander? rounds expander] at h
      simp only [bind, EStateM.bind] at h
      split at h
      · rename_i next m₁ call
        obtain ⟨⟨k, hk, rest⟩, ended⟩ := ih h
        exact ⟨⟨k + 1, Nat.succ_lt_succ hk, .step expander call rest⟩, ended⟩
      · cases h

theorem expandFrom_of_expands {k rounds : Nat} (hk : k < rounds)
    (run : E.Expands scope k form m r m') (ended : m'.expander? scope r = none) :
    E.expandFrom scope rounds form m = .ok r m' := by
  obtain ⟨rounds, rfl⟩ := Nat.exists_eq_succ_of_ne_zero (Nat.ne_zero_of_lt hk)
  induction run generalizing rounds with
  | refl form m => exact expandFrom_of_expander?_eq_none rounds ended
  | @step k form f next r operands m m₁ m₂ expander call _ ih =>
    rw [expandFrom_of_expander? rounds expander]
    simp only [bind, EStateM.bind, call]
    have hk := Nat.lt_of_succ_lt_succ hk
    obtain ⟨rounds, rfl⟩ := Nat.exists_eq_succ_of_ne_zero (Nat.ne_zero_of_lt hk)
    exact ih ended rounds hk

/-- Expansion ends with a form exactly if a number of expanders, less than the bound, lead to it and
it names no further one. -/
theorem expandFrom_eq_ok_iff {rounds : Nat} :
    E.expandFrom scope rounds form m = .ok r m' ↔
      (∃ k < rounds, E.Expands scope k form m r m') ∧ ¬ m'.NamesMacro scope r := by
  rw [← Machine.isSome_expander?, Option.not_isSome_iff_eq_none]
  constructor
  · exact exists_expands_of_expandFrom
  · rintro ⟨⟨k, hk, run⟩, ended⟩
    exact expandFrom_of_expands hk run ended

/-- A form that names no expander is what its expansion gives, and nothing is called for it. -/
theorem expand_of_not_namesMacro (rounds : 0 < E.rounds) (h : ¬ m.NamesMacro scope form) :
    E.expand scope form m = .ok form m :=
  expandFrom_eq_ok_iff.2 ⟨⟨0, rounds, .refl form m⟩, h⟩

theorem expand_of_isSyntax (rounds : 0 < E.rounds) (h : form.IsSyntax) :
    E.expand scope form m = .ok form m := by
  refine expand_of_not_namesMacro rounds ?_
  rw [← Machine.isSome_expander?, Machine.expander?_of_isSyntax h]
  exact Bool.false_ne_true

/-- A special form is evaluated by its own rule, whatever its name is bound to. -/
theorem step_special [Tables] (rounds : 0 < E.rounds) (scope : ScopeRef) (special : SpecialForm)
    (operands : List Value) (m : Machine) :
    E.step scope (.list (.sym special.text :: operands)) m =
      E.evalSpecial scope special operands (.list (.sym special.text :: operands)) m := by
  have syntactic : (Value.list (.sym special.text :: operands)).IsSyntax := by
    rintro _ ⟨⟩
    exact ⟨special, rfl⟩
  simp only [step, bind, EStateM.bind, expand_of_isSyntax rounds syntactic]
  simp only [evalExpanded, Value.sym, evalList, special.ofName?_text]

/-- What expansion gives is not expanded further. -/
theorem expand_idempotent (h : E.expand scope form m = .ok r m') :
    E.expand scope r m' = .ok r m' := by
  obtain ⟨⟨k, hk, -⟩, ended⟩ := expandFrom_eq_ok_iff.1 h
  exact expand_of_not_namesMacro (Nat.zero_lt_of_lt hk) ended

/-- Evaluation of a form is that of its expansion, on the machine that expansion leaves behind. -/
theorem step_eq_of_expand [Tables] (h : E.expand scope form m = .ok r m') :
    E.step scope form m = E.step scope r m' := by
  simp only [step, bind, EStateM.bind, h, expand_idempotent h]

/-! ### Expanders leave the module alone that the form is read in -/

theorem callLambda_context {f : LambdaRef} {args : List Value} {v : Value}
    (h : E.callLambda f args m = .ok v m') : m'.context = m.context := by
  rw [callLambda_eq] at h
  split at h <;> cases h
  rfl

theorem Expands.context [Tables] {setting : Setting} {fuel k : Nat}
    (run : (ofFuel setting fuel).Expands scope k form m r m') : m'.context = m.context := by
  induction run with
  | refl form m => rfl
  | step expander call _ ih =>
    obtain ⟨f, rfl⟩ := Machine.exists_lambda_of_expander? expander
    rw [ih]
    cases fuel with
    | zero => cases call
    | succ fuel => exact callLambda_context call

/-- Whatever the expanders do, if expansion ends then the form that comes out names no expander on
the machine that is left behind. Expansion gives this form back and leaves the machine alone, and it
is evaluated there as the form that went in is evaluated here, in the same module. Syntax comes out
as it is, and nothing is called: this is so for every way to call values. -/
theorem expand_fixed_point [Tables] (setting : Setting) (fuel : Nat) (scope : ScopeRef)
    (form : Value) (m : Machine) :
    (∀ r m', (ofFuel setting fuel).expand scope form m = .ok r m' →
      ¬ m'.NamesMacro scope r ∧
      (ofFuel setting fuel).expand scope r m' = .ok r m' ∧
      (ofFuel setting (fuel + 1)).eval scope form m =
        (ofFuel setting (fuel + 1)).eval scope r m' ∧
      m'.context = m.context) ∧
    (form.IsSyntax → ∀ E : Engine, 0 < E.rounds → E.expand scope form m = .ok form m) := by
  refine ⟨fun r m' h => ?_, fun syntactic E rounds => expand_of_isSyntax rounds syntactic⟩
  obtain ⟨⟨k, -, run⟩, ended⟩ := expandFrom_eq_ok_iff.1 h
  exact ⟨ended, expand_idempotent h, step_eq_of_expand h, run.context⟩

/-- An expander whose result is the call of another one, which it has defined itself; and a special
form whose name is that of an expander. -/
theorem expand_fixed_point_defining :
    let E := ofFuel ⟨{}, fun _ => none⟩ 30
    let start := Start.machine {}
    let expander (name param : String) (body : List Value) : Value :=
      .list (.sym "define-macro" :: .sym name :: .vector .native [.sym param] :: body)
    let inner := expander "inner" "y" [.list [.sym "list", .quoted (.sym "quote"), .sym "y"]]
    let outer := expander "outer" "x"
      [inner, .list [.sym "list", .quoted (.sym "inner"), .sym "x"]]
    let s := (E.evalBody start.session.scope [expander "cond" "test" [.nil], outer]).after start
    let scope := s.session.scope
    (∃ r s', E.expand scope (.list [.sym "outer", .kw "k"]) s = .ok r s' ∧
      ¬ s'.NamesMacro scope r ∧ E.expand scope r s' = .ok r s') ∧
    E.expand scope (.list [.sym "cond"]) s = .ok (.list [.sym "cond"]) s := by
  intro E start expander inner outer s scope
  constructor
  · have ends : ((E.expand scope (.list [.sym "outer", .kw "k"])).outcome s).toOption.isSome := by
      decide +kernel
    unfold Eval.outcome at ends
    cases h : E.expand scope (.list [.sym "outer", .kw "k"]) s with
    | error e m' =>
      rw [h] at ends
      cases ends
    | ok r s' =>
      obtain ⟨ended, idempotent, -⟩ := (expand_fixed_point _ 30 _ _ s).1 r s' h
      exact ⟨r, s', rfl, ended, idempotent⟩
  · have syntactic : (Value.list [.sym "cond"]).IsSyntax := by
      rintro name ⟨⟩
      exact ⟨.cond, rfl⟩
    exact (expand_fixed_point ⟨{}, fun _ => none⟩ 30 scope _ s).2 syntactic E (by decide)

end Engine

end Lisp
