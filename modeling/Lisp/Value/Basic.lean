import Lisp.Builtin
import Lisp.Name
import Lisp.Number.Basic

/-!
# Values

Code and data are one type. Vectors, maps and sets come in two representations that never mix
silently; everything with an identity of its own is an `Entity`. Maps and sets are hash tables, so a
value has their entries in the order in which the table goes through them.

## Main definitions

* `Representation` — native or persistent
* `Entity` — lambdas, built-ins, protocols, types, objects and modules
* `Mark` — what a key is hashed by
* `Table`, `Filed` — a hash table and a key as it is kept there
* `Value` — the values of the language
* `Value.sequence?` — the elements of a list or vector
-/

namespace Lisp

/-- How a vector, map or set is represented. -/
inductive Representation where
  | native
  | persistent
deriving DecidableEq, Inhabited, Repr

/-- A scope, by its place among all scopes. -/
structure ScopeRef where
  index : Nat
deriving DecidableEq, Inhabited, Repr

/-- A lambda, by its place among all lambdas. -/
structure LambdaRef where
  index : Nat
deriving DecidableEq, Inhabited, Repr

/-- A protocol, by its place among all protocols. -/
structure ProtocolRef where
  index : Nat
deriving DecidableEq, Inhabited, Repr

/-- A type, by its place among all types. -/
structure TypeRef where
  index : Nat
deriving DecidableEq, Inhabited, Repr

/-- An object, by its place among all objects. -/
structure ObjectRef where
  index : Nat
deriving DecidableEq, Inhabited, Repr

/-- A module, by its place among all modules. -/
structure ModuleRef where
  index : Nat
deriving DecidableEq, Inhabited, Repr

/-- Something with an identity: two entities are equal only if they are the same one. -/
inductive Entity where
  /-- A procedure written in the language. -/
  | lambda (ref : LambdaRef)
  /-- A built-in procedure. -/
  | builtin (b : Builtin)
  /-- A named set of methods. -/
  | protocol (ref : ProtocolRef)
  /-- A record type. -/
  | type (ref : TypeRef)
  /-- An instance of a record type. -/
  | object (ref : ObjectRef)
  /-- A namespace with its own scope. -/
  | module (ref : ModuleRef)
deriving DecidableEq, Inhabited, Repr

/-- Something that goes into a hash. -/
inductive Trait where
  /-- The kind of a value, a number for each kind and representation. -/
  | kind (index : Nat)
  /-- How many things follow. -/
  | size (n : Nat)
  | bool (b : Bool)
  | number (n : Number)
  | text (s : String)
  | name (name : Name)
  | entity (e : Entity)
deriving DecidableEq, Inhabited

/-- What a key is hashed by: all that goes into the hash, in order. -/
abbrev Mark := List Trait

/-- A hash table, apart from its entries. -/
structure Table where
  rep : Representation
  /-- What else the table keeps, such as its size and its seed. Only the tables themselves know how
  to read it. -/
  state : Nat
deriving DecidableEq, Inhabited

instance : Coe Table Representation := ⟨Table.rep⟩

/-- A key of a map or an element of a set as it is kept: where it stands in the table is a matter of
what it was hashed by when it was filed. -/
structure Filed (α : Type) where
  value : α
  mark : Mark
deriving Inhabited

/-- A value of the language, code included. -/
inductive Value where
  | nil
  | bool (b : Bool)
  | number (n : Number)
  | string (s : String)
  | symbol (name : Name)
  | keyword (name : Name)
  | list (items : List Value)
  | vector (rep : Representation) (items : List Value)
  /-- The entries of a table, in its order. -/
  | map (table : Table) (entries : List (Filed Value × Value))
  /-- The elements of a table, in its order. -/
  | set (table : Table) (items : List (Filed Value))
  /-- A form behind a quote mark. -/
  | quoted (form : Value)
  /-- A regular expression, by its pattern. -/
  | regex (pattern : String)
  | entity (e : Entity)
deriving Inhabited

namespace Value

/-- Only `nil` and `false` count as false. -/
def isTruthy : Value → Bool
  | nil | bool false => false
  | _ => true

/-- The elements of a list or a vector. -/
def sequence? : Value → Option (List Value)
  | list items | vector _ items => some items
  | _ => none

/-- The word for the kind of a value. -/
def typeName : Value → String
  | nil => "nil"
  | bool _ => "boolean"
  | number _ => "number"
  | string _ => "string"
  | symbol _ => "symbol"
  | keyword _ => "keyword"
  | list _ => "list"
  | vector .. => "vector"
  | map .. => "map"
  | set .. => "set"
  | quoted _ => "quoted"
  | regex _ => "regex"
  | entity (.lambda _) => "lambda"
  | entity (.builtin _) => "native-fn"
  | entity (.protocol _) => "protocol"
  | entity (.type _) => "type"
  | entity (.object _) => "object"
  | entity (.module _) => "module"

/-- An unqualified symbol. -/
def sym (text : String) : Value := symbol (.simple text)

/-- An unqualified keyword. -/
def kw (text : String) : Value := keyword (.simple text)

end Value

end Lisp
