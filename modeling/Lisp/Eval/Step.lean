import Lisp.Eval.Call
import Lisp.Eval.Control
import Lisp.Eval.Lambda
import Lisp.Eval.Module
import Lisp.Shorthand

/-!
# Evaluation

A form is expanded first. Symbols are looked up, literals of collections evaluate their elements,
lists are special forms or calls, and everything else stands for itself.

## Main definitions

* `Engine.evalSpecial` — special forms
* `Engine.evalCall` — calls
* `Engine.step` — any form, given an engine for its parts
* `Engine.ofFuel` — the engine that follows these rules as far as its fuel lasts
-/

namespace Lisp

variable [Tables]

namespace Engine

variable (E : Engine)

/-- Evaluates a special form; `source` is the whole list. -/
def evalSpecial (scope : ScopeRef) (form : SpecialForm) (operands : List Value) (source : Value) :
    Eval Value :=
  match form with
  | .quote =>
    match operands with
    | [quoted] => return quoted
    | _ => Eval.failArity "quote" "1" operands.length
  | .define => E.evalDefine scope operands
  | .cond => E.evalCond scope operands
  | .lambda => evalLambda scope operands source
  | .do_ => E.evalDo scope operands
  | .try_ => E.evalTry scope operands
  | .catch_ | .finally_ => do Eval.failForm (.outsideTry form (← Eval.print source))
  | .loop => E.evalLoop scope operands
  | .again => E.evalAgain scope operands
  | .assign => E.evalAssign scope operands
  | .defineProtocol => evalDefineProtocol scope operands
  | .defineType => E.evalDefineType scope operands
  | .defineMacro => evalDefineMacro scope operands
  | .throw_ => E.evalThrow scope operands
  | .propertyGet => E.evalPropertyGet scope source operands
  | .propertySet => E.evalPropertySet scope operands
  | .methodCall => E.evalMethodCall scope source operands
  | .new => E.evalNew scope operands
  | .module_ => evalModule operands
  | .require => E.evalRequire operands
  | .use => evalUse operands

/-- Evaluates a call: the arguments first, then the operator. An unqualified symbol that names one
of the operators means that operator, whatever it is bound to. -/
def evalOperation (scope : ScopeRef) (head : Value) (operands : List Value) : Eval Value := do
  let args ← E.evalAll scope operands
  let operator := match head with
    | .symbol ⟨none, text⟩ => Operator.ofText? text
    | _ => none
  match operator with
  | some op => Eval.ofCause (op.run (← Eval.heap) args)
  | none => do
    let f ← E.eval scope head
    E.call f args head

/-- Evaluates a list that is no special form: a shorthand is written out first. -/
def evalCall (scope : ScopeRef) (head : Value) (operands : List Value) : Eval Value :=
  match head with
  | .symbol name =>
    match Shorthand.expand? name operands with
    | some form => E.eval scope form
    | none => E.evalOperation scope head operands
  | _ => E.evalOperation scope head operands

/-- Evaluates a list; an empty one stands for itself. -/
def evalList (scope : ScopeRef) (items : List Value) : Eval Value :=
  match items with
  | [] => return .list []
  | head :: operands =>
    match head with
    | .symbol name =>
      match SpecialForm.ofName? name with
      | some form => E.evalSpecial scope form operands (.list items)
      | none => E.evalCall scope head operands
    | _ => E.evalCall scope head operands

/-- Evaluates the entries of a map in order, each key before its value, and sets each in a table as
soon as it is evaluated. -/
def evalEntries (scope : ScopeRef) (entries : List (Filed Value × Value)) (s : Shelf) :
    Eval Shelf :=
  entries.foldlM (fun s e => do
    let key ← E.eval scope e.1.value
    let value ← E.eval scope e.2
    return s.insert (← Eval.heap).text key value) s

/-- Evaluates the elements of a set in order, and adds each to a table as soon as it is
evaluated. -/
def evalItems (scope : ScopeRef) (items : List (Filed Value)) (s : Shelf) : Eval Shelf :=
  items.foldlM (fun s x => do
    let element ← E.eval scope x.value
    return s.insert (← Eval.heap).text element .nil) s

/-- Evaluates a form that has been expanded. -/
def evalExpanded (scope : ScopeRef) (form : Value) : Eval Value := do
  match form with
  | .nil | .bool _ | .number _ | .string _ | .regex _ | .entity _ => return form
  | .keyword name =>
    let m ← get
    return .keyword (name.resolveAuto (m.heap.module m.context.module).name.text)
  | .symbol name => Eval.variable scope name
  | .quoted inner => return inner
  | .list items => E.evalList scope items
  | .vector rep items => return .vector rep (← E.evalAll scope items)
  | .map table entries => return (← E.evalEntries scope entries (.opened table.rep 0)).toMap
  | .set table items => return (← E.evalItems scope items (.opened table.rep 0)).toSet

/-- Evaluates a form, given an engine for its parts. -/
def step (scope : ScopeRef) (form : Value) : Eval Value := do
  E.evalExpanded scope (← E.expand scope form)

end Engine

mutual

/-- Evaluates a form as far as the fuel lasts. -/
def evalFuel (s : Setting) : Nat → ScopeRef → Value → Eval Value
  | 0, _, _ => throw .exhausted
  | fuel + 1, scope, form => Engine.step ⟨s, fuel, evalFuel s fuel, callFuel s fuel⟩ scope form

/-- Calls a value as far as the fuel lasts. -/
def callFuel (s : Setting) : Nat → Value → List Value → Value → Eval Value
  | 0, _, _, _ => throw .exhausted
  | fuel + 1, f, args, form =>
    Engine.callValue ⟨s, fuel, evalFuel s fuel, callFuel s fuel⟩ f args form

end

/-- The engine that follows the rules as far as its fuel lasts: the fuel bounds both how deeply
evaluations nest and how often a loop goes round. -/
def Engine.ofFuel (s : Setting) (fuel : Nat) : Engine :=
  ⟨s, fuel, evalFuel s fuel, callFuel s fuel⟩

end Lisp
