import Lisp.Proofs.Eval.Watch
import Lisp.Proofs.Interpreter.Session

/-!
# What a file does to the session

A file is run at a place of its own, so whatever modules it makes active, the session stays where it
is. There is one way around this: a procedure evaluates forms in the session for programs, and so
for files too, and a form that makes another module active moves the session there. Nothing else
does, and even so only the context of the session changes.

## Main definitions

* `Interpreter.Unmoved` — files that do not move the session by that procedure

## Main results

* `Interpreter.loadFile_keeps_session` — the session after a file
* `Interpreter.file_moves_session` — a file that moves it
-/

namespace Lisp

namespace Interpreter

/-- While the file runs, the procedure that evaluates a form in the session never leaves it in
another module: the run that is watched for this comes to its end. -/
def Unmoved [Tables] (i : Interpreter) (fuel : Nat) (path : String) : Prop :=
  ¬ ((Watch.engine { session := true } i.setting fuel).loadFile path).Stops i.machine

instance [Tables] (i : Interpreter) (fuel : Nat) (path : String) :
    Decidable (i.Unmoved fuel path) :=
  inferInstanceAs (Decidable (¬ Eval.Stops _ _))

/-- Whatever a file does, and however that ends, the session goes on in the scope that it was in,
which hangs where it hung and belongs to the same source. It also goes on in the same module, unless
the file has a form evaluated in the session that makes another one active. -/
theorem loadFile_keeps_session [Tables] {i : Interpreter} (h : i.Reachable) (fuel : Nat)
    (path : String) :
    let m := i.machine
    let m' := (i.ask fuel (.file path)).2.machine
    m'.session = { m.session with context := m'.session.context } ∧
      m'.heap.scopes.outer? m.session.scope = m.heap.scopes.outer? m.session.scope ∧
      m'.heap.scopes.source? m.session.scope = m.heap.scopes.source? m.session.scope ∧
      (i.Unmoved fuel path → m'.session = m.session) := by
  intro m m'
  have there : m.session.scope.index < m.heap.scopes.size := h.steady.session.there
  -- of all requests, loading a file is one that does not move the place of the session
  have confined : m.Confined m' := confined_of_not_follows i fuel id
  refine ⟨confined.session, confined.grows.outer? there, confined.sources _ there,
    fun unmoved => ?_⟩
  have related := Watch.related_engine { session := true } i.setting fuel
  have fits : Watch.Fits { session := true } m := fun _ hp => nomatch hp
  obtain stops | ⟨-, kept⟩ := Watch.relates_loadFile related path m fits
  · exact absurd stops unmoved
  · have after : m' = ((Engine.ofFuel i.setting fuel).loadFile path).after m := machine_run ..
    rw [after]
    exact kept.session_eq rfl

/-- A file that switches modules, defines something there and fails half way. -/
theorem loadFile_keeps_session_failing :
    let files : Files := fun path =>
      if path = "m.ws" then some (.ok "(module b) (define x (eval '(list :x))) (use c)") else none
    let i := ((start {} files).ask 30 (.text "(module a)" "t")).2
    i.Reachable ∧ i.Unmoved 30 "m.ws" ∧
      (i.ask 30 (.file "m.ws")).2.machine.session = i.machine.session := by
  intro files i
  have hi : i.Reachable := (Reachable.start {} files).ask 30 _
  have unmoved : i.Unmoved 30 "m.ws" := by decide +kernel
  exact ⟨hi, unmoved, (loadFile_keeps_session hi 30 "m.ws").2.2.2 unmoved⟩

/-- A file that has a form evaluated in the session moves it to another module. -/
theorem file_moves_session :
    let files : Files := fun path =>
      if path = "m.ws" then some (.ok "(eval '(module b))") else none
    let i := ((start {} files).ask 30 (.text "(module a)" "t")).2
    let j := (i.ask 30 (.file "m.ws")).2
    i.Reachable ∧ i.currentModule = "a" ∧ j.currentModule = "b" ∧
      j.machine.session.context.module ≠ i.machine.session.context.module := by
  intro files i j
  have hi : i.Reachable := (Reachable.start {} files).ask 30 _
  exact ⟨hi, by decide +kernel⟩

end Interpreter

end Lisp
