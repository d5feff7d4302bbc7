import Lisp.Proofs.Interpreter.Session
import Lisp.Proofs.Scope.Lexical

/-!
# Forms run in the module that is named

A host can ask a session which module is active. The next form should run there: its scope should be
within that of the active module, so that a symbol which the scope itself does not bind means what
it means in the module. Texts and forms that are given a scope see to this, whatever state the
session was in. Other requests leave the scope of the session as it is. So they keep a session in
order unless a form in them makes another module active.

## Main definitions

* `Machine.Consistent` — the scope of the session is within that of the active module
* `Interpreter.InStep` — what sequences of requests lead to as long as those that do not move the
  session leave the active module alone

## Main results

* `Machine.Consistent.resolve?_eq` — what symbols then refer to
* `Interpreter.session_consistent` — all interpreters that are in step are consistent
* `Interpreter.form_leaves_scope_behind` — other requests need not keep them so
-/

namespace Lisp

namespace Machine

variable {m : Machine}

/-- The scope of the session is within that of the module that is active in it. -/
def Consistent (m : Machine) : Prop :=
  m.heap.scopes.outer? m.session.scope = some (m.moduleScope m.session.context.module)

/-- What a symbol refers to where the next form runs. -/
def sessionResolve? (m : Machine) (scope : ScopeRef) (name : Name) :
    Except Cause (Option Binding) :=
  { m with context := m.session.context }.resolve? scope name

theorem Settled.consistent (h : m.Settled) : m.Consistent := by
  rw [Consistent, h.session.outer, h.current]

/-- A name that the scope of the session does not bind means what it means in the module. -/
theorem Consistent.resolve?_eq (h : m.Consistent) {base : String}
    (free : m.heap.scopes.own? m.session.scope base = none) :
    m.sessionResolve? m.session.scope ⟨none, base⟩ =
      m.sessionResolve? (m.moduleScope m.session.context.module) ⟨none, base⟩ := by
  have same := Scopes.binding?_of_free h free
  simp only [sessionResolve?, resolve?, same]

end Machine

namespace Interpreter

/-- The interpreters that sequences of requests lead to, as long as requests that do not move the
session leave the module alone that is active in it. -/
inductive InStep [Tables] : Interpreter → Prop
  | start (options : Options) (files : Files) : InStep (start options files)
  | follow {i : Interpreter} (h : i.Reachable) (fuel : Nat) {request : Request}
      (follows : request.Follows) : InStep (i.ask fuel request).2
  | stay {i : Interpreter} (h : i.InStep) (fuel : Nat) (request : Request)
      (same : (i.ask fuel request).2.machine.session.context.module =
        i.machine.session.context.module) : InStep (i.ask fuel request).2
  | takeOutput {i : Interpreter} (h : i.InStep) : InStep i.takeOutput.2
  | files {i : Interpreter} (h : i.InStep) (files : Files) :
      InStep { i with setting.files := files }

theorem InStep.settled [Tables] {i : Interpreter} (h : i.InStep) : i.machine.Settled := by
  induction h with
  | start options files => exact ⟨steady_start options, rfl⟩
  | follow h fuel follows => exact settled_of_follows h.steady fuel follows
  | @stay i _ fuel request same ih =>
    by_cases follows : request.Follows
    · exact settled_of_follows ih.toSteady fuel follows
    · have confined := confined_of_not_follows i fuel follows
      refine ⟨ih.toSteady.confined confined, ?_⟩
      rw [same, confined.session]
      exact ih.current
  | takeOutput _ ih => exact ⟨⟨{ ih.placed with }, { ih.session with }⟩, ih.current⟩
  | files _ files ih => exact ih

/-- In every interpreter that is in step, the scope of the session is within that of the module that
is active, and a symbol that is not bound by the scope itself refers to what it refers to in the
module. -/
theorem session_consistent [Tables] {i : Interpreter} (h : i.InStep) :
    i.machine.Consistent ∧ ∀ base,
      i.machine.heap.scopes.own? i.machine.session.scope base = none →
      i.machine.sessionResolve? i.machine.session.scope ⟨none, base⟩ =
        i.machine.sessionResolve? (i.machine.moduleScope i.machine.session.context.module)
          ⟨none, base⟩ := by
  have consistent := h.settled.consistent
  exact ⟨consistent, fun base free => consistent.resolve?_eq free⟩

/-- Two modules that bind one name; a form reads it in the module that the last text has chosen. -/
theorem session_consistent_reading :
    let i := ((start {} fun _ => none).ask 30
      (.text "(module a) (define x :a) (module b) (define x :b)" "t")).2
    let j := (i.ask 30 (.form (.sym "x"))).2
    j.InStep ∧ j.machine.Consistent ∧
      ∀ base, j.machine.heap.scopes.own? j.machine.session.scope base = none →
        j.machine.sessionResolve? j.machine.session.scope ⟨none, base⟩ =
          j.machine.sessionResolve? (j.machine.moduleScope j.machine.session.context.module)
            ⟨none, base⟩ := by
  intro i j
  have hi : i.InStep := .follow (.start {} fun _ => none) 30 trivial
  have hj : j.InStep := .stay hi 30 (.form (.sym "x")) (by decide +kernel)
  exact ⟨hj, session_consistent hj⟩

/-- A form that makes another module active leaves the session where it was: its scope is still
within that of the module before, and a symbol means what it means there. -/
theorem form_leaves_scope_behind :
    let i := ((start {} fun _ => none).ask 30
      (.text "(module a) (define x :a) (module b) (define x :b) (module a)" "t")).2
    let j := (i.ask 30 (.form (.list [.sym "use", .sym "b"]))).2
    let x : Name := ⟨none, "x"⟩
    j.Reachable ∧ j.currentModule = "b" ∧ ¬ j.machine.Consistent ∧
      j.machine.sessionResolve? j.machine.session.scope x ≠
        j.machine.sessionResolve? (j.machine.moduleScope j.machine.session.context.module) x := by
  intro i j x
  have hj : j.Reachable := ((Reachable.start {} fun _ => none).ask 30 _).ask 30 _
  have current : j.currentModule = "b" := by decide +kernel
  have behind : j.machine.heap.scopes.outer? j.machine.session.scope ≠
      some (j.machine.moduleScope j.machine.session.context.module) := by decide +kernel
  let shown (found : Except Cause (Option Binding)) : Option String :=
    (found.toOption.bind id).map (j.machine.heap.print ·.value)
  have old : shown (j.machine.sessionResolve? j.machine.session.scope x) = some ":a" := by
    decide +kernel
  have new : shown (j.machine.sessionResolve?
      (j.machine.moduleScope j.machine.session.context.module) x) = some ":b" := by
    decide +kernel
  refine ⟨hj, current, behind, fun same => ?_⟩
  rw [same, new] at old
  exact absurd old (by decide)

end Interpreter

end Lisp
