import Lisp.Engine

/-!
# Lambdas and loops

A lambda has one clause for each arity. A call picks the clause that fits, binds its parameters in a
new scope within the scope the lambda was made in, and evaluates the body in the context the lambda
was made in. A body that asks to start again is run again with new arguments, in place of the call.
Loops start again in the same way, each time in a fresh scope.

## Main definitions

* `Lambda.parseClauses` — the clauses of a lambda form
* `Lambda.select` — the clause for a number of arguments
* `Engine.callLambda` — a call
* `Engine.evalLoop`, `Engine.evalAgain` — loops
-/

namespace Lisp

namespace Lambda

variable (h : Heap)

/-- The end of a parameter vector: the rest parameter has to be the last. -/
def endParams (form : Value) (params : List String) (rest : String) :
    List Value → Except Cause (List String × Option String)
  | [] => .ok (params.reverse, some rest)
  | _ :: _ => .error (.invalid (.restNotLast (h.print form)))

/-- The parameters of a vector and the one that takes further arguments, which is marked by an
ampersand in front of it, with or without a blank. Parameters so far are given in reverse. -/
def parseItems (form : Value) :
    List String → List Value → Except Cause (List String × Option String)
  | params, [] => .ok (params.reverse, none)
  | params, item :: items => do
    let name ← expectSymbol h "lambda" item
    match name.base.toList with
    | ['&'] =>
      match items with
      | [] => .error (.invalid (.restWithoutName (h.print form)))
      | item :: items => do
        let rest ← expectSymbol h "lambda" item
        endParams h form params rest.base items
    | '&' :: rest => endParams h form params (String.ofList rest) items
    | _ => parseItems form (name.base :: params) items

/-- One clause: a vector of parameters and a body. -/
def parseClause (params : Value) (body : List Value) : Except Cause Clause :=
  match params with
  | .vector _ items => do
    let (names, rest) ← parseItems h params [] items
    let arity := if rest.isSome then .atLeast names.length else .exact names.length
    return { arity, params := names, rest, body }
  | _ => .error (.invalid (.parameterVector (h.print params)))

/-- One clause of several, which is a list. -/
def parseListed : Value → Except Cause Clause
  | .list (params :: body) => parseClause h params body
  | form => .error (.invalid (.lambdaClause (h.print form)))

/-- The clauses of a lambda form: either one vector and one body, or a row of lists. -/
def parseClauses (operands : List Value) : Except Cause (List Clause) :=
  match operands with
  | [] => .error (.invalid .lambdaWithoutParameters)
  | params@(.vector ..) :: body => return [← parseClause h params body]
  | .list _ :: _ => operands.mapM (parseListed h)
  | form :: _ => .error (.invalid (.lambdaParameters (h.print form)))

/-- Files a clause under its arity, unless there is one already. -/
def fileClause (source : Value) (filed : List Clause) (c : Clause) : Except Cause (List Clause) :=
  if filed.any (·.arity = c.arity) then
    .error (.invalid (.repeatedArity c.arity (h.print source)))
  else .ok (c :: filed)

/-- The clauses of a lambda form in order of arities; no two have the same. -/
def clauseTable (operands : List Value) (source : Value) : Except Cause (List Clause) := do
  let filed ← (← parseClauses h operands).foldlM (fileClause h source) []
  return filed.mergeSort fun a b => a.arity.le b.arity

/-- The clause for a number of arguments: the one for exactly that many or, failing that, the one
with the largest least number that is not above it. -/
def select (l : Lambda) (argc : Nat) : Except Cause Clause :=
  match l.clauses.find? (·.arity = .exact argc) with
  | some c => .ok c
  | none =>
    match (l.clauses.filter (·.arity.accepts argc)).getLast? with
    | some c => .ok c
    | none =>
      .error (.arity l.displayName (" or ".intercalate (l.arities.map (·.text))) argc)

/-- What a clause binds for arguments. -/
def bindings (c : Clause) (args : List Value) : Dict Binding :=
  let fixed := Scopes.bindAll c.params args
  match c.rest with
  | some rest => fixed.insert rest ⟨.list (args.drop c.params.length), none⟩
  | none => fixed

end Lambda

/-- A new lambda; forms that are no clauses use up no number. -/
def Eval.makeLambda (scope : ScopeRef) (operands : List Value) (source : Value)
    (ident : Option Name) : Eval LambdaRef := do
  let clauses ← Eval.ofCause (Lambda.clauseTable (← Eval.heap) operands source)
  let id ← Eval.fresh
  Eval.newLambda { id, clauses, scope, context := ← Eval.context, source, ident }

/-- A new lambda from the operands that a lambda form would have, with a name. -/
def Eval.makeNamed (scope : ScopeRef) (operands : List Value) (name : Name) : Eval Value := do
  let r ← Eval.makeLambda scope operands (.list (.sym "lambda" :: operands)) (some name)
  return .entity (.lambda r)

namespace Engine

variable (E : Engine)

/-- Runs the clause of a lambda that fits the arguments, and again as often as its body asks for it.
The first argument bounds how often. -/
def runClauses (r : LambdaRef) : Nat → List Value → Eval Value
  | 0, _ => throw .exhausted
  | rounds + 1, args => do
    let l := (← get).heap.lambda r
    let clause ← Eval.ofCause (l.select args.length)
    let scope ← Eval.newScope l.scope l.displayName (Lambda.bindings clause args)
    match ← Eval.attempt (E.evalBody scope clause.body) with
    | .ok v => return v
    | .error (.again args) => runClauses r rounds args
    | .error (.fault e) => Eval.failIn scope e
    | .error s => throw s

/-- Calls a lambda. -/
def callLambda (r : LambdaRef) (args : List Value) : Eval Value := do
  let home := ((← get).heap.lambda r).context
  let (outcome, _) ← Eval.inContext home (E.runClauses r E.rounds args)
  Eval.ofOutcome outcome

/-- Evaluates a lambda form. -/
def evalLambda (scope : ScopeRef) (operands : List Value) (source : Value) : Eval Value := do
  return .entity (.lambda (← Eval.makeLambda scope operands source none))

/-- Binds the names of a loop one after the other; later values see earlier names. -/
def bindLoop (scope : ScopeRef) : List (Value × Value) → Eval (List String)
  | [] => return []
  | (target, form) :: rest => do
    let name ← Eval.ofCause (expectSymbol (← Eval.heap) "loop" target)
    let value ← E.eval scope form
    Eval.define scope name.base (some value)
    return name.base :: (← bindLoop scope rest)

/-- Runs the body of a loop, and again as often as it asks for it, each time in a fresh scope. The
first argument bounds how often. -/
def runLoop (base : ScopeRef) (names : List String) (body : List Value) :
    Nat → ScopeRef → Eval Value
  | 0, _ => throw .exhausted
  | rounds + 1, scope => do
    match ← Eval.attempt (E.evalBody scope body) with
    | .error (.again values) =>
      if values.length = names.length then
        let next ← Eval.newScope base "loop" (Scopes.bindAll names values)
        runLoop base names body rounds next
      else Eval.failArity "loop" (toString names.length) values.length
    | outcome => Eval.ofOutcome outcome

/-- Evaluates a loop. -/
def evalLoop (scope : ScopeRef) : List Value → Eval Value
  | [] => Eval.failArity "loop" "at least 1" 0
  | bindings :: body =>
    match bindings with
    | .vector _ items => do
      if items.length % 2 = 0 then
        let base ← Eval.newScope scope "loop"
        let names ← E.bindLoop base (Value.pairUp items)
        E.runLoop base names body E.rounds base
      else Eval.failForm (.loopBindings (← Eval.print bindings))
    | _ => do Eval.failForm (.loopBindings (← Eval.print bindings))

/-- Asks the nearest lambda or loop to start again. -/
def evalAgain (scope : ScopeRef) (operands : List Value) : Eval Value := do
  throw (.again (← E.evalAll scope operands))

end Engine

end Lisp
