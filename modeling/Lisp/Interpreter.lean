import Lisp.Eval.Step
import Lisp.Start

/-!
# Interpreters

An interpreter is a machine together with what is fixed for it. Every way in runs an evaluation on
the machine and gives back what it answers and the interpreter as it is then.

## Main definitions

* `Interpreter` — a session that can be asked
* `Interpreter.start` — a new one
* `Interpreter.evalText`, `evalForm`, `evalFormIn`, `loadFile`, `apply` — the ways in
-/

namespace Lisp

variable [Tables]

/-- A session that can be asked. -/
structure Interpreter where
  setting : Setting
  machine : Machine

namespace Interpreter

/-- A new session. -/
def start (options : Options) (files : Files) : Interpreter :=
  ⟨⟨options, files⟩, Start.machine options⟩

/-- How far evaluations go. It is beyond what any run can use up. -/
def fuel : Nat := 1 <<< 60

variable (i : Interpreter)

/-- The engine of the session. -/
def engine : Engine := .ofFuel i.setting fuel

/-- Runs an evaluation on the machine. -/
def run {α : Type} (act : Eval α) : Except Signal α × Interpreter :=
  match act i.machine with
  | .ok a machine => (.ok a, { i with machine })
  | .error s machine => (.error s, { i with machine })

/-- Runs the forms of a text; the answer is the value of the last one. -/
def evalText (text source : String) : Except Signal Value × Interpreter :=
  i.run (i.engine.evalText text source)

/-- Evaluates a form in the session. -/
def evalForm (form : Value) : Except Signal Value × Interpreter :=
  i.run (i.engine.evalForm form)

/-- Evaluates a form in a scope. -/
def evalFormIn (scope : ScopeRef) (form : Value) : Except Signal Value × Interpreter :=
  i.run (i.engine.evalFormIn scope form)

/-- Runs the forms of a file. -/
def loadFile (path : String) : Except Signal Value × Interpreter :=
  i.run (i.engine.loadFile path)

/-- Calls a value with arguments. -/
def apply (f : Value) (args : List Value) : Except Signal Value × Interpreter :=
  i.run (i.engine.apply f args)

/-- The name of the module that the next form runs in. -/
def currentModule : String :=
  (i.machine.heap.module i.machine.session.context.module).name.text

/-- What has been printed since this was last asked. -/
def takeOutput : String × Interpreter :=
  (i.machine.output, { i with machine := { i.machine with output := "" } })

end Interpreter

end Lisp
