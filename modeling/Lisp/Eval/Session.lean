import Lisp.Eval.Expansion
import Lisp.Eval.Toplevel

/-!
# What can be asked of a session

These are the ways in from outside; some of them are open to programs as well.

## Main definitions

* `Engine.evalText` — runs the forms of a text
* `Engine.evalForm`, `Engine.evalFormIn` — evaluate one form
* `Engine.loadFile` — runs the forms of a file
* `Engine.expandForm` — expands a form
* `Engine.apply` — calls a value
-/

namespace Lisp.Engine

variable [Tables]

variable (E : Engine)

/-- Runs the forms of a text in the session; the value is that of the last one. -/
def evalText (text source : String) : Eval Value := do
  E.evalSource true text source (← get).session

/-- Evaluates a form in the session. -/
def evalForm (form : Value) : Eval Value := do
  let (outcome, top) ← E.evalAt (← get).session form
  Eval.saveSession top
  Eval.ofOutcome outcome

/-- Evaluates a form in a scope, in the context of the session. -/
def evalFormIn (scope : ScopeRef) (form : Value) : Eval Value := do
  let (outcome, context) ← Eval.inContext (← get).session.context (E.evalTop scope form)
  let top ← Eval.follow { (← get).session with context }
  Eval.saveSession top
  Eval.ofOutcome outcome

/-- Runs the forms of a file, starting in the context of the session. -/
def loadFile (path : String) : Eval Value := do
  E.evalFile (← get).session.context path

/-- Expands a form as the session sees it. -/
def expandForm (form : Value) : Eval Value := do
  let top := (← get).session
  let (outcome, _) ← Eval.inContext top.context (E.expand top.scope form)
  Eval.ofOutcome outcome

/-- Calls a value with arguments. -/
def apply (f : Value) (args : List Value) : Eval Value := E.call f args f

end Lisp.Engine
