import Lisp.Proofs.Eval.Dispatch
import Lisp.Start

/-!
# Handling errors and cleaning up

A `try` form has a body, clauses that handle errors, and perhaps one that cleans up. Its body, the
classes of its clauses, a handler and the last clause can each end with a value, with an error or by
asking for another round. Here it is said case by case what the form makes of that: who is evaluated
after whom, from which machine on and in which scope, and what comes out. A part that has run out of
fuel, or needs a file at which nobody has looked, has not ended; then the form has not ended either.

## Main definitions

* `TryParts.Split` — the grammar of `try` forms
* `Engine.Skips`, `Engine.Catches` — the way of an error through the clauses that handle errors
* `Engine.Guarded` — the body, with these clauses
* `Engine.Finished` — the last clause

## Main results

* `Engine.exists_catches`, `Engine.exists_guarded`, `Engine.exists_finished` — the parts
* `Engine.evalTry_outcomes` — `try` forms
-/

namespace Lisp

/-! ### The grammar of `try` forms -/

namespace TryParts

variable {h : Heap} {form : Value} {operands rest : List Value}

/-- The parts of a row of forms. Clauses that handle errors stay in order, as do the forms of the
body; of the clauses that clean up there is one at most. -/
inductive Split : List Value → TryParts → Prop
  | nil : Split [] {}
  | handler {head name : Name} {rep : Representation} {cls : Value} {body operands : List Value}
      {parts : TryParts} (tag : SpecialForm.ofName? head = some .catch_)
      (later : Split operands parts) :
      Split (.list (.symbol head :: .vector rep [.symbol name, cls] :: body) :: operands)
        { parts with catches := ⟨name, cls, body⟩ :: parts.catches }
  | cleanup {head : Name} {body operands : List Value} {parts : TryParts}
      (tag : SpecialForm.ofName? head = some .finally_) (later : Split operands parts)
      (only : parts.finally? = none) :
      Split (.list (.symbol head :: body) :: operands) { parts with finally? := some body }
  | plain {form : Value} {operands : List Value} {parts : TryParts} (untagged : clause? form = none)
      (later : Split operands parts) :
      Split (form :: operands) { parts with body := form :: parts.body }

theorem clause?_eq_some {sf : SpecialForm} (hform : clause? form = some (sf, rest)) :
    ∃ head, form = .list (.symbol head :: rest) ∧ SpecialForm.ofName? head = some sf ∧
      (sf = .catch_ ∨ sf = .finally_) := by
  unfold clause? at hform
  split at hform
  · next head rest =>
    split at hform
    · next htag =>
      cases hform
      exact ⟨head, rfl, htag, .inl rfl⟩
    · next htag =>
      cases hform
      exact ⟨head, rfl, htag, .inr rfl⟩
    · cases hform
  · cases hform

theorem parseCatch_eq_ok {c : CatchClause} (hc : parseCatch h form rest = .ok c) :
    ∃ rep, rest = .vector rep [.symbol c.binding, c.cls] :: c.body := by
  unfold parseCatch at hc
  split at hc
  · cases hc
  · next rep binding cls body =>
    cases binding with
    | symbol name =>
      cases hc
      exact ⟨rep, rfl⟩
    | _ => cases hc
  · cases hc

/-- The parts so far, which are kept in reverse, with further ones. -/
def extendBy (parts later : TryParts) : TryParts where
  body := later.body.reverse ++ parts.body
  catches := later.catches.reverse ++ parts.catches
  finally? := parts.finally?.or later.finally?

theorem split_of_foldlM {parts result : TryParts}
    (hfold : operands.foldlM (add h) parts = .ok result) :
    ∃ later, Split operands later ∧ result = parts.extendBy later ∧
      (parts.finally? = none ∨ later.finally? = none) := by
  induction operands generalizing parts with
  | nil =>
    cases hfold
    exact ⟨{}, .nil, by simp [extendBy], .inr rfl⟩
  | cons form operands ih =>
    rw [List.foldlM_cons] at hfold
    cases hadd : add h parts form with
    | error cause =>
      rw [hadd] at hfold
      cases hfold
    | ok next =>
      rw [hadd] at hfold
      obtain ⟨later, split, rfl, once⟩ := ih hfold
      unfold add at hadd
      split at hadd
      · next rest hform =>
        obtain ⟨head, rfl, tag, -⟩ := clause?_eq_some hform
        cases hc : parseCatch h (.list (.symbol head :: rest)) rest with
        | error cause =>
          rw [hc] at hadd
          cases hadd
        | ok c =>
          rw [hc] at hadd
          cases hadd
          obtain ⟨rep, rfl⟩ := parseCatch_eq_ok hc
          exact ⟨_, .handler tag split, by simp [extendBy], once⟩
      · next sf rest hsf hform =>
        obtain ⟨head, rfl, tag, rfl | rfl⟩ := clause?_eq_some hform
        · exact absurd rfl hsf
        · split at hadd
          · cases hadd
          · next hnone =>
            cases hadd
            have unset : parts.finally? = none := by simpa using hnone
            have only : later.finally? = none := by simpa using once
            exact ⟨_, .cleanup tag split only, by simp [extendBy, unset], .inl unset⟩
      · next hform =>
        cases hadd
        exact ⟨_, .plain hform split, by simp [extendBy], once⟩

/-- A form is taken apart as the grammar says, and has a clause. -/
theorem split_of_parse {parts : TryParts} (hparse : parse h operands = .ok parts) :
    Split operands parts ∧ (parts.catches ≠ [] ∨ parts.finally?.isSome) := by
  unfold parse at hparse
  cases hfold : operands.foldlM (add h) {} with
  | error cause =>
    rw [hfold] at hparse
    cases hparse
  | ok result =>
    obtain ⟨later, split, rfl, -⟩ := split_of_foldlM hfold
    rw [hfold] at hparse
    simp only [bind, Except.bind, extendBy, List.append_nil, List.reverse_reverse,
      List.isEmpty_reverse, Option.none_or] at hparse
    by_cases bare : (later.catches.isEmpty && later.finally?.isNone) = true
    · rw [if_pos bare] at hparse
      cases hparse
    · rw [if_neg bare] at hparse
      cases hparse
      refine ⟨split, ?_⟩
      by_contra clauses
      simp_all

end TryParts

/-! ### The parts of a `try` form -/

/-- The evaluation ends with an outcome and leaves a machine behind. -/
def Eval.Ends {α : Type} (act : Eval α) (m : Machine) (o : Except Signal α) (m' : Machine) : Prop :=
  act m = Eval.ofOutcome o m'

theorem Eval.ends_self {α : Type} (act : Eval α) (m : Machine) :
    act.Ends m (act.outcome m) (act.after m) := by
  unfold Ends outcome after
  cases act m with
  | ok a m' => rfl
  | error s m' => rfl

theorem Scopes.get?_bindAll_singleton (name : String) (v : Value) :
    (bindAll [name] [v]).get? = fun n => if n = name then some ⟨v, none⟩ else none := by
  funext n
  exact Dict.get?_insert ({} : Dict Binding) name n ⟨v, none⟩

namespace Engine

variable (E : Engine) (scope : ScopeRef)

/-- The classes of clauses are evaluated in order, and the value thrown is an instance of none. -/
inductive Skips (thrown : Value) : List CatchClause → Machine → Machine → Prop
  | nil (m : Machine) : Skips thrown [] m m
  | cons {c : CatchClause} {rest : List CatchClause} {cls : Value} {m m' m'' : Machine}
      (class_ : E.eval scope c.cls m = .ok cls m')
      (other : m'.heap.isInstance thrown cls = .ok false) (later : Skips thrown rest m' m'') :
      Skips thrown (c :: rest) m m''

/-- What becomes of an error. It meets the clauses in order, until its value is an instance of the
class of one. -/
inductive Catches (e : Error) (thrown : Value) (catches : List CatchClause) (m : Machine) :
    Except Signal Value → Machine → Prop
  /-- No clause is for the error, so it comes out as it is. -/
  | unmatched {m' : Machine} (skipped : E.Skips scope thrown catches m m') :
      Catches e thrown catches m (.error (.fault e)) m'
  /-- The class of a clause cannot be had. -/
  | stopped {before after : List CatchClause} {c : CatchClause} {s : Signal} {m' m'' : Machine}
      (clauses : catches = before ++ c :: after) (skipped : E.Skips scope thrown before m m')
      (class_ : E.eval scope c.cls m' = .error s m'') :
      Catches e thrown catches m (.error s) m''
  /-- The class of a clause is none. -/
  | notClass {before after : List CatchClause} {c : CatchClause} {cls : Value} {m' m'' : Machine}
      (clauses : catches = before ++ c :: after) (skipped : E.Skips scope thrown before m m')
      (class_ : E.eval scope c.cls m' = .ok cls m'') (type : ∀ t, cls ≠ .entity (.type t))
      (protocol : ∀ p, cls ≠ .entity (.protocol p)) :
      Catches e thrown catches m
        (.error (.fault { cause := .mismatch (.notClass (m''.heap.print cls)) })) m''
  /-- The body of a clause is evaluated, in a new scope in which its name stands for the error. -/
  | matched {before after : List CatchClause} {c : CatchClause} {cls : Value}
      {o : Except Signal Value} {m' m'' m₁ m₂ : Machine}
      (clauses : catches = before ++ c :: after) (skipped : E.Skips scope thrown before m m')
      (class_ : E.eval scope c.cls m' = .ok cls m'')
      (belongs : m''.heap.isInstance thrown cls = .ok true)
      (opens : m''.Opens scope
        (fun name => if name = c.binding.base then some ⟨thrown, none⟩ else none) m₁)
      (handled : (E.evalBody m''.heap.scopes.next c.body).Ends m₁ o m₂) :
      Catches e thrown catches m o m₂

/-- What becomes of the body of a form: only an error meets the clauses that handle errors. -/
inductive Guarded (parts : TryParts) (m : Machine) : Except Signal Value → Machine → Prop
  | value {v : Value} {m' : Machine} (body : E.evalBody scope parts.body m = .ok v m') :
      Guarded parts m (.ok v) m'
  | again {vs : List Value} {m' : Machine}
      (body : E.evalBody scope parts.body m = .error (.again vs) m') :
      Guarded parts m (.error (.again vs)) m'
  | unended {s : Signal} {m' : Machine} (body : E.evalBody scope parts.body m = .error s m')
      (final : s.isFinal = true) : Guarded parts m (.error s) m'
  | unhandled {e : Error} {m' : Machine}
      (body : E.evalBody scope parts.body m = .error (.fault e) m') (none : parts.catches = []) :
      Guarded parts m (.error (.fault e)) m'
  | handled {e : Error} {thrown : Value} {o : Except Signal Value} {m' m'' m₁ : Machine}
      (body : E.evalBody scope parts.body m = .error (.fault e) m') (some : parts.catches ≠ [])
      (reified : Eval.reify e m' = .ok thrown m'')
      (catches : E.Catches scope e thrown parts.catches m'' o m₁) : Guarded parts m o m₁

/-- What comes out after cleaning up. Whatever has come out before, as long as it has ended, the
clause is evaluated once, in a new scope. If it does not end with a value, that comes out. If it
does, its value takes the place of a value, unless there is nothing in the clause. -/
inductive Finished (m : Machine) : Option (List Value) → Except Signal Value →
    Except Signal Value → Machine → Prop
  | absent (o : Except Signal Value) : Finished m none o o m
  | unended {cleanup : List Value} {s : Signal} (final : s.isFinal = true) :
      Finished m (some cleanup) (.error s) (.error s) m
  | replaced {cleanup : List Value} {o : Except Signal Value} {s : Signal} {m₁ m' : Machine}
      (ended : ∀ s, o = .error s → s.isFinal = false) (opens : m.Opens scope (fun _ => none) m₁)
      (stops : E.evalBody m.heap.scopes.next cleanup m₁ = .error s m') :
      Finished m (some cleanup) o (.error s) m'
  | kept {cleanup : List Value} {s : Signal} {w : Value} {m₁ m' : Machine}
      (ended : s.isFinal = false) (opens : m.Opens scope (fun _ => none) m₁)
      (cleaned : E.evalBody m.heap.scopes.next cleanup m₁ = .ok w m') :
      Finished m (some cleanup) (.error s) (.error s) m'
  | value {cleanup : List Value} {v w : Value} {m₁ m' : Machine} (nonempty : cleanup ≠ [])
      (opens : m.Opens scope (fun _ => none) m₁)
      (cleaned : E.evalBody m.heap.scopes.next cleanup m₁ = .ok w m') :
      Finished m (some cleanup) (.ok v) (.ok w) m'
  | empty {v : Value} {m' : Machine} (opens : m.Opens scope (fun _ => none) m') :
      Finished m (some []) (.ok v) (.ok v) m'

variable {E scope} {e : Error} {thrown : Value} {m : Machine}

/-- A clause that is skipped is skipped before all others. -/
theorem Catches.skip {c : CatchClause} {rest : List CatchClause} {cls : Value}
    {o : Except Signal Value} {m' m'' : Machine} (class_ : E.eval scope c.cls m = .ok cls m')
    (other : m'.heap.isInstance thrown cls = .ok false)
    (later : E.Catches scope e thrown rest m' o m'') :
    E.Catches scope e thrown (c :: rest) m o m'' := by
  have past {clauses : List CatchClause} {m₁ : Machine}
      (skipped : E.Skips scope thrown clauses m' m₁) :
      E.Skips scope thrown (c :: clauses) m m₁ := .cons class_ other skipped
  cases later with
  | unmatched skipped => exact .unmatched (past skipped)
  | stopped clauses skipped class' =>
    exact .stopped (congrArg (c :: ·) clauses) (past skipped) class'
  | notClass clauses skipped class' type protocol =>
    exact .notClass (congrArg (c :: ·) clauses) (past skipped) class' type protocol
  | matched clauses skipped class' belongs opens handled =>
    exact .matched (congrArg (c :: ·) clauses) (past skipped) class' belongs opens handled

/-- Only what is neither a type nor a protocol has no instances to speak of. -/
theorem isInstance_eq_error {cls : Value} {cause : Cause}
    (h : m.heap.isInstance thrown cls = .error cause) :
    (∀ t, cls ≠ .entity (.type t)) ∧ (∀ p, cls ≠ .entity (.protocol p)) ∧
      cause = .mismatch (.notClass (m.heap.print cls)) := by
  unfold Heap.isInstance at h
  split at h
  · cases h
  · cases h
  · cases h
  · cases h
  · next htype hprotocol _ _ =>
    cases h
    exact ⟨fun t ht => htype t ht, fun p hp => hprotocol p hp, rfl⟩

theorem exists_catches (hE : E.Confined) (e : Error) (thrown : Value)
    (catches : List CatchClause) (hscope : m.heap.scopes.Has scope) :
    ∃ o m', (E.evalCatches scope e thrown catches).Ends m o m' ∧
      E.Catches scope e thrown catches m o m' := by
  induction catches generalizing m with
  | nil => exact ⟨.error (.fault e), m, rfl, .unmatched (.nil m)⟩
  | cons c rest ih =>
    cases hcls : E.eval scope c.cls m with
    | error s m' =>
      refine ⟨.error s, m', ?_, .stopped (List.nil_append _).symm (.nil m) hcls⟩
      simp only [Eval.Ends, evalCatches, bind, EStateM.bind, hcls]
      rfl
    | ok cls m' =>
      have after : (E.eval scope c.cls).after m = m' := by rw [Eval.after, hcls]
      have grown : m.Grows m' := after ▸ (hE.eval scope c.cls m).grows
      have hscope' : m'.heap.scopes.Has scope := Nat.lt_of_lt_of_le hscope grown.scopes_size
      have goes : E.evalCatches scope e thrown (c :: rest) m =
          match m'.heap.isInstance thrown cls with
          | .error cause => .error (.fault { cause }) m'
          | .ok true => E.evalBody m'.heap.scopes.next c.body
            ((Eval.newScope scope "catch" (Scopes.bindAll [c.binding.base] [thrown])).after m')
          | .ok false => E.evalCatches scope e thrown rest m' := by
        simp only [evalCatches, bind, EStateM.bind, hcls, Eval.heap, Eval.get_apply, pure,
          EStateM.pure]
        cases m'.heap.isInstance thrown cls with
        | error cause => rfl
        | ok belongs => cases belongs <;> rfl
      unfold Eval.Ends
      rw [goes]
      cases hbelongs : m'.heap.isInstance thrown cls with
      | error cause =>
        obtain ⟨type, protocol, rfl⟩ := isInstance_eq_error hbelongs
        exact ⟨.error _, m', rfl, .notClass (List.nil_append _).symm (.nil m) hcls type protocol⟩
      | ok belongs =>
        cases belongs with
        | false =>
          obtain ⟨o, m'', ends, catches⟩ := ih hscope'
          exact ⟨o, m'', ends, catches.skip hcls hbelongs⟩
        | true =>
          have opens := Machine.opens_newScope hscope' "catch"
            (Scopes.bindAll [c.binding.base] [thrown])
          refine ⟨_, _, Eval.ends_self _ _, ?_⟩
          exact .matched (List.nil_append _).symm (.nil m) hcls hbelongs
            (Scopes.get?_bindAll_singleton _ _ ▸ opens) (Eval.ends_self _ _)

/-- Reifying an error does not fail. -/
theorem exists_reify (e : Error) (m : Machine) : ∃ thrown m', Eval.reify e m = .ok thrown m' := by
  obtain ⟨cause, trace⟩ := e
  cases cause with
  | _ => exact ⟨_, _, rfl⟩

theorem attempt_of_ends {act : Eval Value} {o : Except Signal Value} {m' : Machine}
    (ends : act.Ends m o m') : Eval.attempt act m = .ok o m' := by
  unfold Eval.attempt
  rw [ends]
  cases o with
  | ok v => rfl
  | error s => rfl

/-- A scope that is there stays there while code runs. -/
theorem has_of_ends {act : Eval Value} (confined : act.Confined) {o : Except Signal Value}
    {m' : Machine} (ends : act.Ends m o m') (hscope : m.heap.scopes.Has scope) :
    m'.heap.scopes.Has scope := by
  have grown : m.Grows m' := Eval.after_of_eq ends ▸ (confined m).grows
  exact Nat.lt_of_lt_of_le hscope grown.scopes_size

theorem exists_guarded (hE : E.Confined) (parts : TryParts) (hscope : m.heap.scopes.Has scope) :
    ∃ o m', E.evalGuarded scope parts m = .ok o m' ∧ E.Guarded scope parts m o m' ∧
      m'.heap.scopes.Has scope := by
  have confined := confined_evalBody hE scope parts.body
  obtain ⟨o, m', ends⟩ : ∃ o m', (E.evalBody scope parts.body).Ends m o m' :=
    ⟨_, _, Eval.ends_self _ m⟩
  have hscope' := has_of_ends confined ends hscope
  simp only [evalGuarded, bind, EStateM.bind, attempt_of_ends ends]
  cases o with
  | ok v => exact ⟨_, _, rfl, .value ends, hscope'⟩
  | error s =>
    cases s with
    | again vs => exact ⟨_, _, rfl, .again ends, hscope'⟩
    | exhausted | unknownFile path => exact ⟨_, _, rfl, .unended ends rfl, hscope'⟩
    | fault e =>
      by_cases hnone : parts.catches = []
      · rw [hnone]
        exact ⟨_, _, rfl, .unhandled ends hnone, hscope'⟩
      · have some : parts.catches.isEmpty = false := by simpa using hnone
        obtain ⟨thrown, m'', reified⟩ := exists_reify e m'
        have hscope'' : m''.heap.scopes.Has scope :=
          has_of_ends (o := .ok thrown) (relates_reify (S := Eval.confinement) e) reified hscope'
        obtain ⟨o, m₁, ends', catches⟩ := exists_catches hE e thrown parts.catches hscope''
        have handles : (E.handle scope parts.catches e).Ends m' o m₁ := by
          simp only [Eval.Ends, handle, bind, EStateM.bind, reified]
          exact ends'
        refine ⟨o, m₁, ?_, .handled ends hnone reified catches, ?_⟩
        · simp only [some]
          exact attempt_of_ends handles
        · exact has_of_ends (relates_handle hE.related trivial parts.catches e) handles hscope'

theorem newScope_apply (outer : ScopeRef) (ident : String) (bindings : Dict Binding) (m : Machine) :
    Eval.newScope outer ident bindings m =
      .ok m.heap.scopes.next ((Eval.newScope outer ident bindings).after m) := rfl

theorem exists_finished (cleanup : List Value) (o : Except Signal Value)
    (ended : ∀ s, o = .error s → s.isFinal = false) (hscope : m.heap.scopes.Has scope) :
    ∃ o' m', (E.cleanUp scope cleanup o).Ends m o' m' ∧
      E.Finished scope m (some cleanup) o o' m' := by
  have opens := Machine.opens_newScope hscope "finally" {}
  have goes : E.cleanUp scope cleanup o m =
      match E.evalBody m.heap.scopes.next cleanup ((Eval.newScope scope "finally").after m) with
      | .error s m' => .error s m'
      | .ok w m' => Eval.ofOutcome (o.map fun v => if cleanup.isEmpty then v else w) m' := by
    simp only [cleanUp, bind, EStateM.bind, newScope_apply]
    cases E.evalBody m.heap.scopes.next cleanup ((Eval.newScope scope "finally").after m) with
    | error s m' => rfl
    | ok w m' => cases o <;> rfl
  unfold Eval.Ends
  rw [goes]
  cases hclean : E.evalBody m.heap.scopes.next cleanup
      ((Eval.newScope scope "finally").after m) with
  | error s m' => exact ⟨.error s, m', rfl, .replaced ended opens hclean⟩
  | ok w m' =>
    refine ⟨_, m', rfl, ?_⟩
    cases o with
    | error s => exact .kept (ended s rfl) opens hclean
    | ok v =>
      cases cleanup with
      | nil =>
        cases hclean
        exact .empty opens
      | cons form rest => exact .value (List.cons_ne_nil form rest) opens hclean

/-- The parts of a form are evaluated one after the other, in a new scope. -/
theorem exists_outcomes (hE : E.Confined) {operands : List Value} {parts : TryParts}
    (hscope : m.heap.scopes.Has scope) (hparse : TryParts.parse m.heap operands = .ok parts) :
    ∃ m₁ o m₂ o' m', m.Opens scope (fun _ => none) m₁ ∧
      E.Guarded m.heap.scopes.next parts m₁ o m₂ ∧
      E.Finished m.heap.scopes.next m₂ parts.finally? o o' m' ∧
      (E.evalTry scope operands).Ends m o' m' := by
  have opens := Machine.opens_newScope hscope "try" {}
  have there : ((Eval.newScope scope "try").after m).heap.scopes.Has m.heap.scopes.next := by
    refine Nat.lt_of_lt_of_le (Nat.lt_succ_self _) (Nat.le_of_eq ?_)
    exact (Eval.size_newScope m scope "try" {}).symm
  obtain ⟨o, m₂, goes, guarded, there'⟩ := exists_guarded hE parts there
  refine ⟨(Eval.newScope scope "try").after m, o, m₂, ?_⟩
  simp only [Eval.Ends, evalTry, bind, EStateM.bind, Eval.heap, Eval.get_apply, pure, EStateM.pure,
    hparse, Eval.ofCause, newScope_apply, goes]
  cases hfinally : parts.finally? with
  | none =>
    refine ⟨o, m₂, opens, guarded, .absent o, ?_⟩
    cases o with
    | ok v => rfl
    | error s => rfl
  | some cleanup =>
    cases o with
    | ok v =>
      have ended : ∀ s : Signal, Except.ok v = .error s → s.isFinal = false := by
        rintro s ⟨⟩
      obtain ⟨o', m', ends, finished⟩ := exists_finished (E := E) cleanup (.ok v) ended there'
      exact ⟨o', m', opens, guarded, finished, ends⟩
    | error s =>
      cases hfinal : s.isFinal with
      | true =>
        refine ⟨.error s, m₂, opens, guarded, .unended hfinal, ?_⟩
        simp only [hfinal, if_true]
        rfl
      | false =>
        have ended : ∀ s', Except.error (α := Value) s = .error s' → s'.isFinal = false := by
          rintro _ ⟨⟩
          exact hfinal
        obtain ⟨o', m', ends, finished⟩ := exists_finished (E := E) cleanup (.error s) ended there'
        refine ⟨o', m', opens, guarded, finished, ?_⟩
        simp only [hfinal, Bool.false_eq_true, if_false]
        exact ends

/-- Every `try` form is taken apart as the grammar says, and evaluated part by part in a new scope:
its body; the clauses that handle errors, if the body ends with one; and the clause that cleans up,
if there is one and the rest has ended. -/
theorem evalTry_outcomes [Tables] (setting : Setting) (fuel : Nat) {scope : ScopeRef} {m : Machine}
    {operands : List Value} {parts : TryParts} (hscope : m.heap.scopes.Has scope)
    (hparse : TryParts.parse m.heap operands = .ok parts) :
    TryParts.Split operands parts ∧ (parts.catches ≠ [] ∨ parts.finally?.isSome) ∧
      ∃ m₁ o m₂ o' m', m.Opens scope (fun _ => none) m₁ ∧
        (ofFuel setting fuel).Guarded m.heap.scopes.next parts m₁ o m₂ ∧
        (ofFuel setting fuel).Finished m.heap.scopes.next m₂ parts.finally? o o' m' ∧
        ((ofFuel setting fuel).evalTry scope operands).Ends m o' m' := by
  obtain ⟨split, clauses⟩ := TryParts.split_of_parse hparse
  exact ⟨split, clauses, exists_outcomes (confined_ofFuel setting fuel) hscope hparse⟩

/-- A body that fails, since it calls a truth value. The first clause is for other errors and is
skipped; it would fail too. The second one is for all errors and is evaluated, and what it makes of
the error is replaced when the last clause cleans up. -/
theorem evalTry_outcomes_caught :
    let E := ofFuel ⟨{}, fun _ => none⟩ 4
    let m := Start.machine {}
    let failing : Value := .list [.bool true]
    let mismatches : CatchClause :=
      ⟨.simple "e", .entity (.type ErrorClass.mismatch.ref), [failing]⟩
    let errors : CatchClause :=
      ⟨.simple "e", .entity (.type ErrorClass.error.ref), [.string "caught"]⟩
    let clause (c : CatchClause) : Value :=
      .list (.sym "catch" :: .vector .native [.symbol c.binding, c.cls] :: c.body)
    let operands := [failing, clause mismatches, clause errors,
      .list [.sym "finally", .string "cleaned"]]
    let parts : TryParts := ⟨[failing], [mismatches, errors], some [.string "cleaned"]⟩
    m.heap.scopes.Has Start.sessionScope ∧ TryParts.parse m.heap operands = .ok parts ∧
      ∃ m₁ e thrown m₂ m₃ m₄ m₅ m',
        E.evalBody m.heap.scopes.next parts.body m₁ = .error (.fault e) m₂ ∧
        Eval.reify e m₂ = .ok thrown m₃ ∧
        E.Skips m.heap.scopes.next thrown [mismatches] m₃ m₄ ∧
        E.Finished m.heap.scopes.next m₅ parts.finally? (.ok (.string "caught"))
          (.ok (.string "cleaned")) m' ∧
        (E.evalTry Start.sessionScope operands).Ends m (.ok (.string "cleaned")) m' := by
  intro E m failing mismatches errors clause operands parts
  have there : m.heap.scopes.Has Start.sessionScope := Nat.lt_of_sub_eq_succ rfl
  have parsed : TryParts.parse m.heap operands = .ok parts := rfl
  have fails (scope : ScopeRef) (m : Machine) :
      ∃ e, E.evalBody scope [failing] m = .error (.fault e) m := ⟨_, rfl⟩
  obtain ⟨-, -, m₁, o, m₂, o', m', -, guarded, finished, ends⟩ :=
    evalTry_outcomes ⟨{}, fun _ => none⟩ 4 there parsed
  have shown : (E.evalTry Start.sessionScope operands).outcome m = .ok (.string "cleaned") := by
    with_unfolding_all rfl
  have cleaned : o' = .ok (.string "cleaned") := (Eval.outcome_of_eq ends).symm.trans shown
  subst cleaned
  refine ⟨there, parsed, ?_⟩
  cases finished with
  | value _ opens cleaned =>
    cases guarded with
    | value body =>
      obtain ⟨e, stops⟩ := fails m.heap.scopes.next m₁
      cases body.symm.trans stops
    | handled body _ reified catches =>
      cases catches with
      | @matched before _ _ _ _ _ _ _ _ clauses skipped _ _ _ handled =>
        -- the clause that is evaluated is the second one: the first would not end with a value
        rcases before with _ | ⟨_, _ | ⟨_, before⟩⟩
        · cases clauses
          obtain ⟨e, stops⟩ := fails _ _
          cases handled.symm.trans stops
        · cases clauses
          cases handled
          exact ⟨_, _, _, _, _, _, _, _, body, reified, skipped,
            .value (List.cons_ne_nil _ _) opens cleaned, ends⟩
        · simp [parts] at clauses

end Engine

end Lisp
