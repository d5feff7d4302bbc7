import Lisp.ErrorClass
import Lisp.Heap
import Lisp.ModuleTree

/-!
# The machine

Everything that evaluation can change, and the monad it runs in. An evaluation that stops short
keeps what it has changed until then.

## Main definitions

* `Toplevel` — where top-level forms run
* `Machine` — the state of an interpreter
* `Signal` — why an evaluation stops short of a value
* `Eval` — evaluations
-/

namespace Lisp

/-- Where the top-level forms of a source run. -/
structure Toplevel where
  /-- The context of the next form. -/
  context : Context
  /-- The scope of the next form. -/
  scope : ScopeRef
  /-- The module that the scope was made for. -/
  module : ModuleRef
  /-- What every top-level scope of the source binds. -/
  locals : List (String × Value) := []
deriving Inhabited

/-- The state of an interpreter. -/
structure Machine where
  heap : Heap
  /-- The modules by name. -/
  registry : ModuleTree ModuleRef
  /-- The next fresh number. -/
  counter : Nat := 0
  /-- Where code runs at the moment. -/
  context : Context
  /-- Where the next form given from outside runs. -/
  session : Toplevel
  /-- What has been printed. -/
  output : String := ""
deriving Inhabited

/-- Why an evaluation stops short of a value. -/
inductive Signal where
  /-- It has failed. -/
  | fault (e : Error)
  /-- The nearest lambda or loop is to start again with these arguments. -/
  | again (args : List Value)
  /-- It has taken more steps than it was allowed. -/
  | exhausted
  /-- It needs a file at which nobody has looked. -/
  | unknownFile (path : String)

/-- Whether a signal ends the evaluation for good, so that no form can intercept it. -/
def Signal.isFinal : Signal → Bool
  | exhausted | unknownFile _ => true
  | fault _ | again _ => false

/-- Evaluations: they change the machine and end with a value or a signal. -/
abbrev Eval := EStateM Signal Machine

/-- The scope of the module that a session starts in; every other module's scope is within it. -/
def globalScope : ScopeRef := ⟨0⟩

namespace Eval

variable {α : Type}

/-- Fails for a cause. -/
def fail (c : Cause) : Eval α := throw (.fault { cause := c })

/-- Fails because a form breaks a rule of its kind. -/
def failForm (f : InvalidForm) : Eval α := fail (.invalid f)

/-- Fails because an operand is of the wrong kind. -/
def failMismatch (m : Mismatch) : Eval α := fail (.mismatch m)

/-- Fails because of the number of operands. -/
def failArity (callee expected : String) (actual : Nat) : Eval α :=
  fail (.arity callee expected actual)

/-- A computation that may fail for a cause, as an evaluation. -/
def ofCause : Except Cause α → Eval α
  | .ok a => pure a
  | .error c => fail c

instance : MonadLift (Except Cause) Eval := ⟨ofCause⟩

/-- Ends with a given outcome. -/
def ofOutcome : Except Signal α → Eval α
  | .ok a => pure a
  | .error s => throw s

/-- The outcome of an evaluation, whatever it is. -/
def attempt (act : Eval α) : Eval (Except Signal α) := fun m =>
  match act m with
  | .ok a m => .ok (.ok a) m
  | .error s m => .ok (.error s) m

/-- The outcome of an evaluation in another context, and the context it ends in. -/
def inContext (c : Context) (act : Eval α) : Eval (Except Signal α × Context) := do
  let outer := (← get).context
  modify fun m => { m with context := c }
  let outcome ← attempt act
  let inner := (← get).context
  modify fun m => { m with context := outer }
  return (outcome, inner)

/-- The heap. -/
def heap : Eval Heap := return (← get).heap

/-- The text of a value. -/
def print (v : Value) : Eval String := return (← get).heap.print v

/-- Where code runs at the moment. -/
def context : Eval Context := return (← get).context

/-- Changes the heap. -/
def modifyHeap (f : Heap → Heap) : Eval Unit :=
  modify fun m => { m with heap := f m.heap }

/-- Changes the heap and gives something back. -/
def updateHeap (f : Heap → α × Heap) : Eval α :=
  modifyGet fun m =>
    let (a, heap) := f m.heap
    (a, { m with heap })

/-- Changes the scopes. -/
def modifyScopes (f : Scopes → Scopes) : Eval Unit :=
  modifyHeap fun h => { h with scopes := f h.scopes }

/-- A new scope within another that traces call by a name. -/
def newScope (outer : ScopeRef) (ident : String) (bindings : Dict Binding := {}) :
    Eval ScopeRef :=
  updateHeap fun h =>
    let (r, scopes) := h.scopes.extendBy outer bindings
    (r, { h with scopes := scopes.setIdent r ident })

/-- Defines a name in a scope itself. -/
def define (scope : ScopeRef) (name : String) (value : Option Value)
    (metadata : Option Metadata := none) : Eval Unit :=
  modifyScopes fun s => s.define scope name value metadata

/-- The named scopes around a scope, itself included. -/
def trace (scope : ScopeRef) : Eval (List TraceFrame) :=
  return (← get).heap.scopes.trace scope

/-- Fails with an error that gets the trace of a scope unless it has one. -/
def failIn (scope : ScopeRef) (e : Error) : Eval α := do
  throw (.fault (e.withTrace (← trace scope)))

/-- The next fresh number. -/
def fresh : Eval Nat :=
  modifyGet fun m => (m.counter, { m with counter := m.counter + 1 })

/-- A new lambda. -/
def newLambda (l : Lambda) : Eval LambdaRef :=
  updateHeap fun h => (⟨h.lambdas.size⟩, { h with lambdas := h.lambdas.push l })

/-- Names a lambda. -/
def nameLambda (r : LambdaRef) (name : Name) : Eval Unit :=
  modifyHeap fun h =>
    { h with lambdas := h.lambdas.modify r.index fun l => { l with ident := some name } }

/-- A new protocol. -/
def newProtocol (p : Protocol) : Eval ProtocolRef :=
  updateHeap fun h => (⟨h.protocols.size⟩, { h with protocols := h.protocols.push p })

/-- A new type without a parent. -/
def newType (t : TypeInfo) : Eval TypeRef :=
  updateHeap fun h => (⟨h.types.size⟩, { h with types := h.types.push none t })

/-- Changes a type. -/
def modifyType (r : TypeRef) (f : TypeInfo → TypeInfo) : Eval Unit :=
  modifyHeap fun h => { h with types := h.types.update r.index f }

/-- A new object. -/
def newObject (o : Object) : Eval Value :=
  updateHeap fun h =>
    (.entity (.object ⟨h.objects.size⟩), { h with objects := h.objects.push o })

/-- A new module. -/
def newModule (module : Module) : Eval ModuleRef :=
  updateHeap fun h => (⟨h.modules.size⟩, { h with modules := h.modules.push module })

/-- Sets a field of an object. -/
def setField (r : ObjectRef) (field : String) (value : Value) : Eval Unit :=
  modifyHeap fun h =>
    let objects := h.objects.modify r.index fun o =>
      { o with fields := o.fields.insert field value }
    { h with objects }

/-- Prints a line. -/
def printLine (line : String) : Eval Unit :=
  modify fun m => { m with output := m.output ++ line ++ "\n" }

end Eval

end Lisp
