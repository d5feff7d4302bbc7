import Lisp.Interpreter
import Lisp.Proofs.Eval.Confinement
import Lisp.Proofs.Machine.Growth

/-!
# Interpreters only grow

A host asks an interpreter to run texts, forms and files and to call values. Whatever it asks, and
however the evaluation ends, nothing that the machine holds is lost, and in every interpreter that
requests can lead to lambdas have numbers of their own and objects have the fields of their types.

## Main definitions

* `Request`, `Interpreter.ask` — what a host can ask
* `Interpreter.Reachable` — the interpreters that requests lead to

## Main results

* `Interpreter.evolves_ask` — requests change machines in the known ways only
* `Interpreter.state_only_grows` — a request loses nothing and keeps the invariant
-/

namespace Lisp

/-- What an interpreter can be asked. -/
inductive Request where
  /-- To run the forms of a text. -/
  | text (text source : String)
  /-- To evaluate a form in the session. -/
  | form (form : Value)
  /-- To evaluate a form in a scope. -/
  | formIn (scope : ScopeRef) (form : Value)
  /-- To run the forms of a file. -/
  | file (path : String)
  /-- To call a value with arguments. -/
  | call (f : Value) (args : List Value)

/-- The evaluation that a request is for. -/
def Request.act [Tables] (E : Engine) : Request → Eval Value
  | .text words source => E.evalText words source
  | .form v => E.evalForm v
  | .formIn scope v => E.evalFormIn scope v
  | .file path => E.loadFile path
  | .call f args => E.apply f args

namespace Interpreter

/-- The answer to a request, as far as the fuel lasts, and the interpreter as it is then. -/
def ask [Tables] (i : Interpreter) (fuel : Nat) (request : Request) :
    Except Signal Value × Interpreter :=
  i.run (request.act (.ofFuel i.setting fuel))

/-- The interpreters that a host can have: a new one, and what becomes of one when it is asked
something, when its output is taken and when there are other files. -/
inductive Reachable [Tables] : Interpreter → Prop
  | start (options : Options) (files : Files) : Reachable (start options files)
  | ask {i : Interpreter} (h : i.Reachable) (fuel : Nat) (request : Request) :
      Reachable (i.ask fuel request).2
  | takeOutput {i : Interpreter} (h : i.Reachable) : Reachable i.takeOutput.2
  | files {i : Interpreter} (h : i.Reachable) (files : Files) :
      Reachable { i with setting.files := files }

theorem machine_run {α : Type} (i : Interpreter) (act : Eval α) :
    (i.run act).2.machine = act.after i.machine := by
  unfold run Eval.after
  cases act i.machine with
  | ok a m => rfl
  | error s m => rfl

theorem setting_ask [Tables] (i : Interpreter) (fuel : Nat) (request : Request) :
    (i.ask fuel request).2.setting = i.setting := by
  unfold ask run
  cases request.act (.ofFuel i.setting fuel) i.machine with
  | ok a m => rfl
  | error s m => rfl

/-- Whatever is asked, the machine changes in the known ways only. -/
theorem evolves_ask [Tables] (i : Interpreter) (fuel : Nat) (request : Request) :
    i.machine.Evolves (i.ask fuel request).2.machine := by
  have hE := Engine.confined_ofFuel i.setting fuel
  unfold ask
  rw [machine_run]
  cases request with
  | text text source => exact Engine.evolves_evalText hE text source i.machine
  | form form => exact (Engine.confined_evalForm hE form i.machine).evolves
  | formIn scope form => exact Engine.evolves_evalFormIn hE scope form i.machine
  | file path => exact (Engine.confined_loadFile hE path i.machine).evolves
  | call f args => exact (Engine.confined_apply hE f args i.machine).evolves

/-- A session starts without lambdas, and with objects whose types declare no fields. -/
theorem sound_start (options : Options) : (Start.machine options).Sound where
  taken i l hl := by simp [Start.machine] at hl
  distinct i j l l' hl := by simp [Start.machine] at hl
  errorClasses c := by
    cases c <;> exact ⟨_, rfl, rfl⟩
  objects i o ho := by
    match i with
    | 0 =>
      obtain rfl : _ = o := Option.some.inj ho
      exact ⟨_, rfl, fun _ h => absurd h List.not_mem_nil⟩
    | 1 =>
      obtain rfl : _ = o := Option.some.inj ho
      exact ⟨_, rfl, fun _ h => absurd h List.not_mem_nil⟩
    | i + 2 => simp [Start.machine, Start.objects] at ho

/-- The invariant holds of every interpreter that a host can have. -/
theorem Reachable.sound [Tables] {i : Interpreter} (h : i.Reachable) : i.machine.Sound := by
  induction h with
  | start options files => exact sound_start options
  | ask _ fuel request ih => exact (evolves_ask _ fuel request).sound ih
  | takeOutput _ ih => exact ih.mono { Machine.Grows.refl _ with } rfl rfl
  | files _ files ih => exact ih

/-- Whatever a host asks, and however the evaluation ends, the machine keeps all that it holds:
scopes stay where they hang and lose no name, lambdas keep everything but a missing name, types keep
their fields and lose no method, objects lose no field, and modules stay filed. Before and after, no
two lambdas have the same number and no object lacks a field of its type. -/
theorem state_only_grows [Tables] {i : Interpreter} (h : i.Reachable) (fuel : Nat)
    (request : Request) :
    i.machine.Grows (i.ask fuel request).2.machine ∧
      i.machine.Sound ∧ (i.ask fuel request).2.machine.Sound :=
  ⟨(evolves_ask i fuel request).grows, h.sound, (h.ask fuel request).sound⟩

/-- A session in which a procedure and a type were defined goes on with a text that fails. -/
theorem state_only_grows_failing :
    let i := start {} fun _ => none
    let j := (i.ask 1000 (.text "(define f (lambda [x] x)) (define-type P [x])" "a")).2
    let k := (j.ask 1000 (.text "(define p (new P (f 1))) (.-set! p y 2) (f)" "b")).2
    j.Reachable ∧ j.machine.Grows k.machine ∧ j.machine.Sound ∧ k.machine.Sound := by
  intro i j k
  have hj : j.Reachable := (Reachable.start {} fun _ => none).ask 1000 _
  exact ⟨hj, state_only_grows hj 1000 _⟩

end Interpreter

end Lisp
