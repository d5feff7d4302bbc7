import Lisp.Scope
import Lisp.Value.Printer

/-!
# The heap

What entities refer to: scopes, lambdas, protocols, types, objects and modules. Entities are only
ever added; types hang below their parents as scopes hang below theirs.

## Main definitions

* `Context` — the module that code runs in
* `Lambda`, `Protocol`, `TypeInfo`, `Object`, `Module` — what entities are
* `Heap` — all of them
* `Heap.print` — the text of a value
-/

namespace Lisp

/-- Where code runs: the active module, and the directory that relative paths start from. -/
structure Context where
  module : ModuleRef
  dir : Option String := none
deriving DecidableEq, Inhabited

/-- One body of a lambda, for one arity. -/
structure Clause where
  arity : Arity
  params : List String
  /-- The parameter that takes the arguments beyond the others. -/
  rest : Option String
  body : List Value
deriving Inhabited

/-- A procedure written in the language. -/
structure Lambda where
  id : Nat
  /-- One clause for each arity, in order of arities. -/
  clauses : List Clause
  /-- The scope it was made in. -/
  scope : ScopeRef
  /-- The context it was made in; its bodies run there. -/
  context : Context
  /-- The form it was made from. -/
  source : Value
  /-- The name it was first defined under. -/
  ident : Option Name := none
deriving Inhabited

/-- The name of a lambda in traces and messages. -/
def Lambda.displayName (l : Lambda) : String :=
  match l.ident with
  | some name => name.text
  | none => "lambda-" ++ toString l.id

/-- The arities of a lambda, in order. -/
def Lambda.arities (l : Lambda) : List Arity := Arity.sort (l.clauses.map (·.arity))

/-- A named row of methods. -/
structure Protocol where
  name : Name
  methods : List (String × Value)
deriving Inhabited

/-- A record type. -/
structure TypeInfo where
  name : Name
  fields : List String
  /-- Methods installed so far. -/
  methods : Dict Value := {}
  /-- The names of the protocols installed so far, in order. -/
  mixins : List Name := []
deriving Inhabited

/-- An instance of a type. -/
structure Object where
  type : TypeRef
  fields : Dict Value
deriving Inhabited

/-- A namespace. -/
structure Module where
  name : Name
  scope : ScopeRef
deriving Inhabited

/-- Everything that entities refer to. -/
structure Heap where
  scopes : Scopes := {}
  lambdas : Array Lambda := #[]
  protocols : Array Protocol := #[]
  types : Forest TypeInfo := {}
  objects : Array Object := #[]
  modules : Array Module := #[]
deriving Inhabited

namespace Heap

/-- The lambda at a place. -/
def lambda (h : Heap) (r : LambdaRef) : Lambda := h.lambdas.getD r.index default

/-- The protocol at a place. -/
def protocol (h : Heap) (r : ProtocolRef) : Protocol := h.protocols.getD r.index default

/-- The type at a place. -/
def type (h : Heap) (r : TypeRef) : TypeInfo := (h.types.get? r.index).getD default

/-- The object at a place. -/
def object (h : Heap) (r : ObjectRef) : Object := h.objects.getD r.index default

/-- The module at a place. -/
def module (h : Heap) (r : ModuleRef) : Module := h.modules.getD r.index default

/-- A method of a type, its own or the nearest inherited one. -/
def method? (h : Heap) (r : TypeRef) (name : String) : Option Value :=
  h.types.findUp? (fun _ t => t.methods.get? name) r.index

/-- Whether a type is another one or descends from it. -/
def isSubtype (h : Heap) (r other : TypeRef) : Bool :=
  (h.types.findUp? (fun i _ => if i = other.index then some () else none) r.index).isSome

/-- The parent of a type. -/
def parentType? (h : Heap) (r : TypeRef) : Option TypeRef :=
  (h.types.parent? r.index).map TypeRef.mk

/-- The text of an entity. Objects print their fields and lambdas without a name the form they were
made from; `depth` bounds how deeply these are followed into each other. -/
def entityText (h : Heap) : Nat → Entity → String
  | _, .builtin b => "#<native " ++ b.name ++ ">"
  | _, .protocol r => "#<protocol " ++ (h.protocol r).name.text ++ ">"
  | _, .type r => "#<type " ++ (h.type r).name.text ++ ">"
  | _, .module r => "#<module " ++ (h.module r).name.text ++ ">"
  | 0, .lambda r => "#<lambda " ++ (h.lambda r).displayName ++ ">"
  | 0, .object r => "#<" ++ (h.type (h.object r).type).name.text ++ ">"
  | depth + 1, .lambda r =>
    match (h.lambda r).ident with
    | some name => "#<lambda " ++ name.text ++ ">"
    | none => (h.lambda r).source.render (entityText h depth)
  | depth + 1, .object r =>
    let o := h.object r
    let fields := o.fields.sorted.map fun (k, v) => " " ++ k ++ "=" ++ v.render (entityText h depth)
    "#<" ++ (h.type o.type).name.text ++ String.join fields ++ ">"

/-- How deeply entities can be nested without one of them occurring in itself. -/
def depth (h : Heap) : Nat := h.objects.size + h.lambdas.size + 1

/-- The text of an entity, however deeply it has others inside. -/
def text (h : Heap) : Entity → String := h.entityText h.depth

/-- The text of a value. -/
def print (h : Heap) (v : Value) : String := v.render h.text

/-- The text of a value among others: strings stand for themselves. -/
def printPlain (h : Heap) : Value → String
  | .string s => s
  | v => h.print v

/-- The wording of a thrown value: an object with a message shows its class and the message, any
other value prints as it is. -/
def thrownText (h : Heap) (v : Value) : String :=
  match v with
  | .entity (.object r) =>
    match (h.object r).fields.get? "message" with
    | some (.string message) => (h.type (h.object r).type).name.text ++ ": " ++ message
    | _ => h.print v
  | _ => h.print v

/-- The wording of an error. -/
def message (h : Heap) (e : Error) : String := e.cause.message h.thrownText

/-- The wording of an error and of its trace. -/
def report (h : Heap) (e : Error) : String := e.report h.thrownText

end Heap

end Lisp
