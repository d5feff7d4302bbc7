import Lisp.Files
import Lisp.Machine
import Lisp.Options

/-!
# Engines

The rules of evaluation refer to evaluation itself. An engine is what they refer to: a way to
evaluate forms and to call values. The rules take an engine as an argument and never call
themselves, so each of them can be read alone; the knot is tied once, where the rules are put
together.

## Main definitions

* `Setting` — what is fixed for a session
* `Engine` — evaluating and calling, as the rules see them
* `Engine.evalAll`, `Engine.evalBody` — several forms in order
-/

namespace Lisp

/-- What is fixed for a session. -/
structure Setting where
  options : Options
  files : Files

/-- Evaluating and calling, as the rules see them. -/
structure Engine where
  setting : Setting
  /-- How many times a loop may go round. -/
  rounds : Nat
  /-- Evaluates a form in a scope. -/
  eval : ScopeRef → Value → Eval Value
  /-- Calls a value with arguments; the form is what a message calls the value. -/
  call : Value → List Value → Value → Eval Value

namespace Engine

variable (E : Engine)

/-- The representation of what is made from nothing. -/
def mode : Representation := E.setting.options.representation

/-- The values of several forms, evaluated in order. -/
def evalAll (scope : ScopeRef) (forms : List Value) : Eval (List Value) :=
  forms.mapM (E.eval scope)

/-- Evaluates forms in order; the value is that of the last one, or `nil`. -/
def evalBody (scope : ScopeRef) : List Value → Eval Value
  | [] => return .nil
  | [form] => E.eval scope form
  | form :: rest => do
    let _ ← E.eval scope form
    evalBody scope rest

/-- The contents of a file. -/
def read (path : String) : Eval Contents :=
  match E.setting.files path with
  | some contents => return contents
  | none => throw (.unknownFile path)

end Engine

/-- The name of a symbol; `context` says what needs one. -/
def expectSymbol (h : Heap) (context : String) : Value → Except Cause Name
  | .symbol name => .ok name
  | form => .error (.invalid (.symbolExpected context (h.print form)))

end Lisp
