import Lisp.Eval.Definition

/-!
# Protocols and types

A protocol is a named row of methods. A type has fields and methods, its own and those of protocols
mixed into it; whatever was installed last under a name counts.

## Main definitions

* `Eval.install` — mixes a protocol into a type
* `Eval.construct` — makes an instance
* `Heap.isInstance` — whether a value belongs to a type or carries a protocol
* `Engine.evalDefineProtocol`, `Engine.evalDefineType`
-/

namespace Lisp

/-- The name and the clauses of a method written in the body of a protocol or type. -/
def Heap.methodSpec (h : Heap) : Value → Except Cause (Name × List Value)
  | .list (name :: clauses@(_ :: _)) => return (← expectSymbol h "method" name, clauses)
  | form => .error (.invalid (.methodShape (h.print form)))

/-- Whether a value belongs to a type, or to one of its descendants, or carries a protocol. -/
def Heap.isInstance (h : Heap) (v cls : Value) : Except Cause Bool :=
  match v, cls with
  | .entity (.object o), .entity (.type t) => .ok (h.isSubtype (h.object o).type t)
  | .entity (.object o), .entity (.protocol p) =>
    .ok ((h.type (h.object o).type).mixins.contains (h.protocol p).name)
  | _, .entity (.type _) | _, .entity (.protocol _) => .ok false
  | _, other => .error (.mismatch (.notClass (h.print other)))

/-- The instance of a type with the given values of its fields. Error classes take an empty message
if they get no argument; what refers to no type has no instances. -/
def Heap.instanceOf (h : Heap) (t : TypeRef) (args : List Value) : Except Cause Object :=
  let args := if args.isEmpty && h.isSubtype t ErrorClass.error.ref then [.string ""] else args
  match h.types.get? t.index with
  | none => .error (.mismatch (.notConstructor (h.print (.entity (.type t)))))
  | some type =>
    if args.length = type.fields.length then .ok ⟨t, .ofPairs (type.fields.zip args)⟩
    else .error (.arity type.name.text (toString type.fields.length) args.length)

/-- A type with one more method. -/
def TypeInfo.install (t : TypeInfo) (name : String) (method : Value) : TypeInfo :=
  { t with methods := t.methods.insert name method }

/-- A type with the methods of a protocol, in order, and its name. -/
def TypeInfo.mixIn (t : TypeInfo) (p : Protocol) : TypeInfo :=
  let t := p.methods.foldl (fun t e => t.install e.1 e.2) t
  { t with mixins := t.mixins ++ [p.name] }

namespace Eval

/-- Mixes a protocol into a type. -/
def install (t : TypeRef) (p : ProtocolRef) : Eval Unit := do
  let protocol := (← get).heap.protocol p
  modifyType t (·.mixIn protocol)

/-- Calls a protocol: it is mixed into a type or into the type of an object. -/
def applyMixin (p : ProtocolRef) : List Value → Eval Value
  | [target] => do
    match target with
    | .entity (.type t) => install t p
    | .entity (.object o) => install ((← get).heap.object o).type p
    | other => do
      let protocol := (← get).heap.protocol p
      failMismatch (.notMixable protocol.name.text (← print other))
    return target
  | args => do failArity ((← get).heap.protocol p).name.text "1" args.length

/-- An error object. -/
def makeError (cls : ErrorClass) (message stack : String) : Eval Value :=
  newObject ⟨cls.ref, .ofPairs [("message", .string message), ("stack", .string stack)]⟩

/-- Makes an instance from the values of its fields. -/
def construct (t : TypeRef) (args : List Value) : Eval Value := do
  newObject (← ofCause ((← heap).instanceOf t args))

/-- What programs see of an error: the thrown value, or an error object. -/
def reify (e : Error) : Eval Value :=
  match e.cause with
  | .thrown v => return v
  | cause => do makeError (.ofCause cause) ((← heap).message e) (Error.traceText e.trace)

/-- The methods of a protocol, made in order. -/
def makeMethods (scope : ScopeRef) : List Value → Eval (List (String × Value))
  | [] => return []
  | spec :: rest => do
    let (name, clauses) ← ofCause ((← heap).methodSpec spec)
    let method ← makeNamed scope clauses name
    return (name.base, method) :: (← makeMethods scope rest)

end Eval

namespace Engine

variable (E : Engine)

/-- Evaluates the definition of a protocol; the value is its name. -/
def evalDefineProtocol (scope : ScopeRef) : List Value → Eval Value
  | [] => Eval.failArity "define-protocol" "at least 1" 0
  | target :: specs => do
    let name ← Eval.ofCause (expectSymbol (← Eval.heap) "define-protocol" target)
    let methods ← Eval.makeMethods scope specs
    let p ← Eval.newProtocol { name, methods }
    Eval.defineVariable scope name (.entity (.protocol p)) (.ofPairs [("protocol", .bool true)])
    return .symbol name

/-- Adds to a type what its body says: a symbol names a protocol, a list is a method. -/
def extendType (scope : ScopeRef) (t : TypeRef) : List Value → Eval Unit
  | [] => return ()
  | spec :: rest => do
    match spec with
    | .symbol name => do
      match ← E.eval scope spec with
      | .entity (.protocol p) => Eval.install t p
      | other => Eval.failMismatch (.notProtocol name.text (← Eval.print other))
    | _ => do
      let (name, clauses) ← Eval.ofCause ((← Eval.heap).methodSpec spec)
      let method ← Eval.makeNamed scope clauses name
      Eval.modifyType t (·.install name.base method)
    extendType scope t rest

/-- Evaluates the definition of a type; the value is its name. The name is bound before the body is
looked at, so that methods can make instances. -/
def evalDefineType (scope : ScopeRef) : List Value → Eval Value
  | target :: fields :: specs => do
    let h ← Eval.heap
    let name ← Eval.ofCause (expectSymbol h "define-type" target)
    match fields with
    | .vector _ items => do
      let names ← Eval.ofCause (items.mapM (expectSymbol h "define-type"))
      let t ← Eval.newType { name, fields := names.map (·.base) }
      Eval.defineVariable scope name (.entity (.type t)) (.ofPairs [("type", .bool true)])
      E.extendType scope t specs
      return .symbol name
    | _ => Eval.failForm (.fieldVector (h.print fields))
  | operands => Eval.failArity "define-type" "at least 2" operands.length

end Engine

end Lisp
