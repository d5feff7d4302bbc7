import Lisp.Eval.Type
import Lisp.SpecialForm

/-!
# Control

Conditions, sequences, and the raising and handling of errors.

## Main definitions

* `Engine.evalCond`, `Engine.evalDo`
* `TryParts` — the parts of a `try` form
* `Engine.evalTry`, `Engine.evalThrow`
-/

namespace Lisp

/-- A clause that handles errors of a class. -/
structure CatchClause where
  binding : Name
  /-- The form whose value is the class. -/
  cls : Value
  body : List Value

/-- The parts of a `try` form. -/
structure TryParts where
  body : List Value := []
  catches : List CatchClause := []
  finally? : Option (List Value) := none

namespace TryParts

variable (h : Heap)

/-- The clause that a form is, if its head says so. -/
def clause? : Value → Option (SpecialForm × List Value)
  | .list (.symbol name :: rest) =>
    match SpecialForm.ofName? name with
    | some .catch_ => some (.catch_, rest)
    | some .finally_ => some (.finally_, rest)
    | _ => none
  | _ => none

/-- A clause that handles errors, from what follows its head. -/
def parseCatch (form : Value) : List Value → Except Cause CatchClause
  | [] => .error (.invalid (.catchWithoutBinding (h.print form)))
  | .vector _ [binding, cls] :: body => do
    return { binding := ← expectSymbol h "catch" binding, cls, body }
  | spec :: _ => .error (.invalid (.catchBinding (h.print spec)))

/-- Adds a form of the body to the parts so far, which are kept in reverse. -/
def add (parts : TryParts) (form : Value) : Except Cause TryParts :=
  match clause? form with
  | some (.catch_, rest) => do
    return { parts with catches := (← parseCatch h form rest) :: parts.catches }
  | some (_, rest) =>
    if parts.finally?.isSome then .error (.invalid .repeatedFinally)
    else .ok { parts with finally? := some rest }
  | none => .ok { parts with body := form :: parts.body }

/-- The parts of a `try` form; it needs a clause that handles errors or one that cleans up. -/
def parse (operands : List Value) : Except Cause TryParts := do
  let parts ← operands.foldlM (add h) {}
  if parts.catches.isEmpty && parts.finally?.isNone then .error (.invalid .bareTry)
  else
    return { parts with body := parts.body.reverse, catches := parts.catches.reverse }

end TryParts

namespace Engine

variable (E : Engine)

/-- Evaluates the tests of a `cond` form in order, up to the first that counts as true. -/
def evalCases (scope : ScopeRef) : List (Value × Value) → Eval Value
  | [] => return .nil
  | (test, form) :: rest => do
    match test with
    | .keyword ⟨none, "else"⟩ => E.eval scope form
    | _ =>
      if (← E.eval scope test).isTruthy then E.eval scope form else evalCases scope rest

/-- Evaluates a `cond` form. -/
def evalCond (scope : ScopeRef) (operands : List Value) : Eval Value :=
  if operands.length % 2 = 0 then E.evalCases scope (Value.pairUp operands)
  else Eval.failForm .oddCond

/-- Evaluates forms in a scope of their own. -/
def evalDo (scope : ScopeRef) (operands : List Value) : Eval Value := do
  let inner ← Eval.newScope scope "do"
  E.evalBody inner operands

/-- Runs the first clause whose class the error belongs to; without one the error goes on. -/
def evalCatches (scope : ScopeRef) (e : Error) (thrown : Value) : List CatchClause → Eval Value
  | [] => throw (.fault e)
  | c :: rest => do
    let cls ← E.eval scope c.cls
    if ← Eval.ofCause ((← Eval.heap).isInstance thrown cls) then
      let handler ← Eval.newScope scope "catch" (Scopes.bindAll [c.binding.base] [thrown])
      E.evalBody handler c.body
    else evalCatches scope e thrown rest

/-- Handles an error by the clauses of a `try` form. -/
def handle (scope : ScopeRef) (catches : List CatchClause) (e : Error) : Eval Value := do
  let thrown ← Eval.reify e
  E.evalCatches scope e thrown catches

/-- The outcome of the body of a `try` form, or of the clause that handles its error. -/
def evalGuarded (scope : ScopeRef) (parts : TryParts) : Eval (Except Signal Value) := do
  match ← Eval.attempt (E.evalBody scope parts.body) with
  | .error (.fault e) =>
    if parts.catches.isEmpty then return .error (.fault e)
    else Eval.attempt (E.handle scope parts.catches e)
  | outcome => return outcome

/-- Evaluates the clause that cleans up after an outcome. Its value replaces a value, unless the
clause is empty, but no signal. -/
def cleanUp (scope : ScopeRef) (body : List Value) (outcome : Except Signal Value) :
    Eval Value := do
  let inner ← Eval.newScope scope "finally"
  let value ← E.evalBody inner body
  match outcome with
  | .ok v => return if body.isEmpty then v else value
  | .error s => throw s

/-- Evaluates a `try` form. -/
def evalTry (scope : ScopeRef) (operands : List Value) : Eval Value := do
  let parts ← Eval.ofCause (TryParts.parse (← Eval.heap) operands)
  let inner ← Eval.newScope scope "try"
  let outcome ← E.evalGuarded inner parts
  match outcome, parts.finally? with
  | .error s, some body => if s.isFinal then throw s else E.cleanUp inner body (.error s)
  | .ok v, some body => E.cleanUp inner body (.ok v)
  | outcome, none => Eval.ofOutcome outcome

/-- What is raised for a value: a string becomes the message of an error object, and an object
remembers where it was thrown first. -/
def raise (scope : ScopeRef) (v : Value) : Eval Value := do
  match v with
  | .string message => Eval.makeError .error message (Error.traceText (← Eval.trace scope))
  | .entity (.object r) => do
    if ((← get).heap.object r).fields.contains "stack" then return v
    Eval.setField r "stack" (.string (Error.traceText (← Eval.trace scope)))
    return v
  | _ => return v

/-- Evaluates a `throw` form. -/
def evalThrow (scope : ScopeRef) : List Value → Eval Value
  | [form] => do
    let v ← E.eval scope form
    let thrown ← raise scope v
    Eval.failIn scope { cause := .thrown thrown }
  | operands => Eval.failArity "throw" "1" operands.length

end Engine

end Lisp
