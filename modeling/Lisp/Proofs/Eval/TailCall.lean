import Lisp.Proofs.Eval.Confinement
import Lisp.Start

/-!
# Starting again is a tail call

A body that asks for its lambda to be run again is run again in place of the call. Nothing but the
arguments and the machine goes from one round to the next, so that the call goes on as a new call
with these arguments would: it selects a clause for their number, and binds its parameters in a new
scope within the one that the lambda was made in. There is one difference. A new call begins in the
module that the lambda was made in, while a round begins where the last one has ended. So the two
agree if that is the same, and need not agree otherwise.

## Main definitions

* `Engine.runBody` — one round of a lambda
* `Engine.Restarts` — any number of rounds, each of which asks for another one

## Main results

* `Engine.runClauses_of_restarts` — rounds that have been run can be left out
* `Engine.again_is_tail_call` — a call that starts again is a call with the new arguments
* `Engine.again_keeps_module` — it need not be if a body has made another module active
-/

namespace Lisp.Engine

variable (E : Engine) (r : LambdaRef)

/-- One round of a lambda: the body of the clause that fits the arguments is evaluated in a scope of
its own, within the scope that the lambda was made in. -/
def runBody (args : List Value) : Eval Value := do
  let l := (← get).heap.lambda r
  let clause ← Eval.ofCause (l.select args.length)
  let scope ← Eval.newScope l.scope l.displayName (Lambda.bindings clause args)
  E.evalBody scope clause.body

/-- Rounds of a lambda, each of which ends by asking for the next one with new arguments. -/
inductive Restarts : Nat → List Value → Machine → List Value → Machine → Prop
  | refl (args : List Value) (m : Machine) : Restarts 0 args m args m
  | step {k : Nat} {args next vs : List Value} {m m' m'' : Machine}
      (again : E.runBody r args m = .error (.again next) m')
      (rest : Restarts k next m' vs m'') : Restarts (k + 1) args m vs m''

variable {E r} {args vs : List Value} {m m' : Machine}

/-! ### Rounds -/

/-- How a round goes on when its clause is known and its scope is made. -/
theorem runBody_of_select {clause : Clause}
    (h : (m.heap.lambda r).select args.length = .ok clause) :
    E.runBody r args m = E.evalBody m.heap.scopes.next clause.body
      ((Eval.newScope (m.heap.lambda r).scope (m.heap.lambda r).displayName
        (Lambda.bindings clause args)).after m) := by
  simp only [runBody, bind, EStateM.bind, Eval.get_apply, h]
  rfl

theorem runClauses_of_select {clause : Clause} (n : Nat)
    (h : (m.heap.lambda r).select args.length = .ok clause) :
    E.runClauses r (n + 1) args m =
      match E.runBody r args m with
      | .ok v m' => .ok v m'
      | .error (.again vs) m' => E.runClauses r n vs m'
      | .error (.fault e) m' => Eval.failIn m.heap.scopes.next e m'
      | .error s m' => .error s m' := by
  have hclause : Eval.ofCause (.ok clause) m = .ok clause m := rfl
  obtain ⟨m₁, hscope⟩ : ∃ m₁, Eval.newScope (m.heap.lambda r).scope (m.heap.lambda r).displayName
      (Lambda.bindings clause args) m = .ok m.heap.scopes.next m₁ := ⟨_, rfl⟩
  rw [runBody_of_select h, Eval.after, hscope]
  simp only [runClauses, bind, EStateM.bind, Eval.get_apply, h, hclause,
    hscope, Eval.attempt]
  cases E.evalBody m.heap.scopes.next clause.body m₁ with
  | ok v m' => rfl
  | error s m' => cases s <;> rfl

/-- A round that asks for another one is followed by that one; any other round is the last. -/
theorem round_cases (args : List Value) (m : Machine) :
    (∃ vs m', E.runBody r args m = .error (.again vs) m' ∧
      ∀ n, E.runClauses r (n + 1) args m = E.runClauses r n vs m') ∨
    ((∀ vs m', E.runBody r args m ≠ .error (.again vs) m') ∧
      ∀ n k, E.runClauses r (n + 1) args m = E.runClauses r (k + 1) args m) := by
  cases hselect : (m.heap.lambda r).select args.length with
  | error c =>
    refine .inr ⟨fun vs m' h => ?_, fun n k => ?_⟩
    · simp only [runBody, bind, EStateM.bind, Eval.get_apply,
        hselect] at h
      cases h
    · simp only [runClauses, bind, EStateM.bind, Eval.get_apply,
        hselect]
      rfl
  | ok clause =>
    have hrun n := runClauses_of_select (E := E) n hselect
    cases hbody : E.runBody r args m with
    | ok v m' => exact .inr ⟨by rintro vs m'' ⟨⟩, fun n k => by rw [hrun, hrun, hbody]⟩
    | error s m' =>
      cases s with
      | again vs => exact .inl ⟨vs, m', rfl, fun n => by rw [hrun, hbody]⟩
      | fault e => exact .inr ⟨by rintro vs m'' ⟨⟩, fun n k => by rw [hrun, hrun, hbody]⟩
      | exhausted => exact .inr ⟨by rintro vs m'' ⟨⟩, fun n k => by rw [hrun, hrun, hbody]⟩
      | unknownFile path => exact .inr ⟨by rintro vs m'' ⟨⟩, fun n k => by rw [hrun, hrun, hbody]⟩

theorem runClauses_of_again (h : E.runBody r args m = .error (.again vs) m') (n : Nat) :
    E.runClauses r (n + 1) args m = E.runClauses r n vs m' := by
  obtain ⟨vs', m₁, hbody, hrun⟩ | ⟨hbody, -⟩ := round_cases (E := E) (r := r) args m
  · rw [h] at hbody
    cases hbody
    exact hrun n
  · exact absurd h (hbody vs m')

/-- Rounds that have been run can be left out. -/
theorem runClauses_of_restarts {k : Nat} (h : E.Restarts r k args m vs m') (n : Nat) :
    E.runClauses r (n + k) args m = E.runClauses r n vs m' := by
  induction h with
  | refl args m => rfl
  | step again _ ih => exact (runClauses_of_again again _).trans ih

/-- No more rounds are run than are allowed. -/
theorem exhausted_of_restarts {k : Nat} (h : E.Restarts r k args m vs m') {n : Nat} (hn : n < k) :
    ∃ m₁, E.runClauses r n args m = .error .exhausted m₁ := by
  induction h generalizing n with
  | refl args m => exact absurd hn (Nat.not_lt_zero n)
  | @step k args next vs m m' m'' again _ ih =>
    cases n with
    | zero => exact ⟨m, rfl⟩
    | succ n =>
      rw [runClauses_of_again again]
      exact ih (Nat.lt_of_succ_lt_succ hn)

/-- Fewer rounds than are allowed end as they would if more were. -/
theorem runClauses_add {n : Nat} (h : ∀ m', E.runClauses r n args m ≠ .error .exhausted m')
    (k : Nat) : E.runClauses r (n + k) args m = E.runClauses r n args m := by
  induction n generalizing args m with
  | zero => exact absurd rfl (h m)
  | succ n ih =>
    rw [Nat.add_right_comm]
    obtain ⟨vs, m', -, hrun⟩ | ⟨-, hrun⟩ := round_cases (E := E) (r := r) args m
    · rw [hrun, hrun]
      rw [hrun] at h
      exact ih h
    · exact hrun (n + k) n

/-! ### The lambda stays what it is -/

theorem confined_runBody (hE : E.Confined) (r : LambdaRef) (args : List Value) :
    (E.runBody r args).Confined := by
  unfold runBody
  refine Eval.confined_get.bind fun m => ?_
  refine (Eval.confined_ofCause _).bind fun clause => ?_
  refine (Eval.confined_newScope _ _ _).bind fun scope => ?_
  exact confined_evalBody hE scope clause.body

/-- Only a lambda that is there has a body that can ask for another round. -/
theorem exists_lambda_of_again (h : E.runBody r args m = .error (.again vs) m') :
    ∃ l, m.heap.lambdas[r.index]? = some l := by
  cases hl : m.heap.lambdas[r.index]? with
  | some l => exact ⟨l, rfl⟩
  | none =>
    have hdefault : m.heap.lambda r = default := by
      rw [Heap.lambda, Array.getD_eq_getD_getElem?, hl, Option.getD_none]
    unfold runBody at h
    simp only [bind, EStateM.bind, Eval.get_apply, hdefault] at h
    cases h

/-- Rounds leave the lambda its clauses, the scope it was made in and its context. -/
theorem Restarts.grows (hE : E.Confined) {k : Nat} (h : E.Restarts r k args m vs m') :
    (m.heap.lambda r).Grows (m'.heap.lambda r) := by
  induction h with
  | refl args m => exact .refl _
  | @step k args next vs m m' m'' again _ ih =>
    have grown : m.Grows m' := by
      have confined := confined_runBody hE r args m
      rw [Eval.after, again] at confined
      exact confined.grows
    obtain ⟨l, hl⟩ := exists_lambda_of_again again
    obtain ⟨l', hl', hgrows⟩ := grown.lambdas r.index l hl
    refine Lambda.Grows.trans ?_ ih
    simpa only [Heap.lambda, Array.getD_eq_getD_getElem?, hl, hl', Option.getD_some] using hgrows

/-! ### Calls -/

/-- A call runs its rounds in the context of the lambda. -/
theorem callLambda_eq (r : LambdaRef) (args : List Value) (m : Machine) :
    E.callLambda r args m =
      match E.runClauses r E.rounds args { m with context := (m.heap.lambda r).context } with
      | .ok v m' => .ok v { m' with context := m.context }
      | .error s m' => .error s { m' with context := m.context } := by
  simp only [callLambda, bind, EStateM.bind, Eval.get_apply,
    Eval.inContext_eq, Eval.outcome, Eval.after]
  cases E.runClauses r E.rounds args { m with context := (m.heap.lambda r).context } with
  | ok v m' => rfl
  | error s m' => rfl

/-- Calls from the same context are the same if their rounds are. -/
theorem callLambda_congr {s s₁ : Machine} (context : s₁.context = s.context)
    (rounds : E.runClauses r E.rounds args { s with context := (s.heap.lambda r).context } =
      E.runClauses r E.rounds vs { s₁ with context := (s₁.heap.lambda r).context }) :
    E.callLambda r args s = E.callLambda r vs s₁ := by
  rw [callLambda_eq, callLambda_eq, rounds, context]

/-- As long as rounds last, those that have been run make no difference. -/
theorem runClauses_eq_of_restarts {k : Nat} (h : E.Restarts r k args m vs m') {n : Nat}
    (ends : ∀ m₁, E.runClauses r n args m ≠ .error .exhausted m₁) :
    E.runClauses r n args m = E.runClauses r n vs m' := by
  obtain hlt | hle := Nat.lt_or_ge n k
  · obtain ⟨m₁, hrun⟩ := exhausted_of_restarts h hlt
    exact absurd hrun (ends m₁)
  · obtain ⟨n, rfl⟩ := Nat.exists_eq_add_of_le' hle
    rw [runClauses_of_restarts h] at ends ⊢
    exact (runClauses_add ends k).symm

/-- If the body of a lambda asks to start again with new arguments, any number of times, and ends
in the context it has begun in, then the call is a call with these arguments on the machine as it is
then: it has the same result and leaves the same machine behind. The lambda is still what it was, so
the clause is selected in the same way, and run in the same scope and module. -/
theorem again_is_tail_call [Tables] (setting : Setting) (fuel : Nat) {r : LambdaRef} {k : Nat}
    {args vs : List Value} {s s' : Machine}
    (restarts : (ofFuel setting fuel).Restarts r k args
      { s with context := (s.heap.lambda r).context } vs s')
    (home : s'.context = (s.heap.lambda r).context)
    (ends : ∀ m, (ofFuel setting fuel).callLambda r args s ≠ .error .exhausted m) :
    (s.heap.lambda r).Grows (s'.heap.lambda r) ∧
      (ofFuel setting fuel).callLambda r args s =
        (ofFuel setting fuel).callLambda r vs { s' with context := s.context } := by
  have kept := restarts.grows (confined_ofFuel setting fuel)
  refine ⟨kept, ?_⟩
  generalize ofFuel setting fuel = E at restarts ends ⊢
  -- the new call begins where the last round has ended
  have begins : ({ s' with context := (s'.heap.lambda r).context } : Machine) = s' := by
    rw [kept.context, ← home]
  refine callLambda_congr rfl ?_
  rw [begins]
  refine runClauses_eq_of_restarts restarts fun m h => ?_
  refine ends { m with context := s.context } ?_
  rw [callLambda_eq, h]

/-! ### Lambdas of a session -/

/-- The arguments that an evaluation asks for another round with, if it does. -/
def nextArgs? (act : Eval Value) (m : Machine) : Option (List Value) :=
  match act m with
  | .error (.again vs) _ => some vs
  | _ => none

theorem eq_again_of_nextArgs? {act : Eval Value} (h : nextArgs? act m = some vs) :
    act m = .error (.again vs) (act.after m) := by
  unfold nextArgs? at h
  cases hact : act m with
  | ok v m' =>
    rw [hact] at h
    cases h
  | error s m' =>
    rw [hact] at h
    cases s with
    | again next =>
      cases h
      rw [Eval.after, hact]
    | fault e => cases h
    | exhausted => cases h
    | unknownFile path => cases h

theorem restarts_once (h : nextArgs? (E.runBody r args) m = some vs) :
    E.Restarts r 1 args m vs ((E.runBody r args).after m) :=
  .step (eq_again_of_nextArgs? h) (.refl vs _)

/-- A lambda that starts again without its argument, after which it is done. -/
theorem again_is_tail_call_once :
    let E := ofFuel ⟨{}, fun _ => none⟩ 30
    let s := (E.evalText "(define f (lambda [more] (cond more (again nil) :else :done)))" "a").after
      (Start.machine {})
    let s₀ := { s with context := (s.heap.lambda ⟨0⟩).context }
    let s' := (E.runBody ⟨0⟩ [.bool true]).after s₀
    ∃ vs, E.Restarts ⟨0⟩ 1 [.bool true] s₀ vs s' ∧
      (s.heap.lambda ⟨0⟩).Grows (s'.heap.lambda ⟨0⟩) ∧
      E.callLambda ⟨0⟩ [.bool true] s = E.callLambda ⟨0⟩ vs { s' with context := s.context } := by
  intro E s s₀ s'
  obtain ⟨again, home, value⟩ : (nextArgs? (E.runBody ⟨0⟩ [.bool true]) s₀).isSome ∧
      s'.context = (s.heap.lambda ⟨0⟩).context ∧
      ((E.callLambda ⟨0⟩ [.bool true]).outcome s).toOption.isSome := by decide +kernel
  obtain ⟨vs, hvs⟩ := Option.isSome_iff_exists.1 again
  have ends : ∀ m, E.callLambda ⟨0⟩ [.bool true] s ≠ .error .exhausted m := by
    intro m h
    unfold Eval.outcome at value
    rw [h] at value
    cases value
  exact ⟨vs, restarts_once hvs, again_is_tail_call _ 30 (restarts_once hvs) home ends⟩

/-- The module of a keyword that an evaluation gives. -/
def keywordModule? (act : Eval Value) (m : Machine) : Option String :=
  match act m with
  | .ok (.keyword name) _ => name.space
  | _ => none

/-- A body that makes another module active before it starts again: what follows is read in that
module, while in a call with the new arguments it would be read in that of the lambda. -/
theorem again_keeps_module :
    let E := ofFuel ⟨{}, fun _ => none⟩ 30
    let s := (E.evalText "(module b) (module a)
      (define f (lambda [more] (cond more (do (use b) (again nil)) :else ::k)))" "a").after
      (Start.machine {})
    let s₀ := { s with context := (s.heap.lambda ⟨0⟩).context }
    let s' := (E.runBody ⟨0⟩ [.bool true]).after s₀
    ∃ vs, E.Restarts ⟨0⟩ 1 [.bool true] s₀ vs s' ∧
      E.callLambda ⟨0⟩ [.bool true] s ≠ E.callLambda ⟨0⟩ vs { s' with context := s.context } := by
  intro E s s₀ s'
  obtain ⟨again, module, module'⟩ : (nextArgs? (E.runBody ⟨0⟩ [.bool true]) s₀).isSome ∧
      keywordModule? (E.callLambda ⟨0⟩ [.bool true]) s = some "b" ∧
      keywordModule? (E.callLambda ⟨0⟩ ((nextArgs? (E.runBody ⟨0⟩ [.bool true]) s₀).getD []))
        { s' with context := s.context } = some "a" := by decide +kernel
  obtain ⟨vs, hvs⟩ := Option.isSome_iff_exists.1 again
  refine ⟨vs, restarts_once hvs, fun same => ?_⟩
  rw [hvs, Option.getD_some] at module'
  unfold keywordModule? at module module'
  rw [same, module'] at module
  exact absurd module (by decide)

end Lisp.Engine
