import Lisp.Eval.Module
import Lisp.Eval.Type
import Mathlib.Logic.Relation

/-!
# How evaluations change a machine

Everything that an evaluation does to a machine is made of a few kinds of changes: a scope is made
or written to, a number is taken, an entity is made, a lambda without a name gets one, a type gets
methods, an object gets a field, a module that was not there is filed, and so on. The kinds are
listed here once, with the conditions under which they happen. Whatever holds of each of them holds
of every run, whether it ends with a value or with a signal.

## Main definitions

* `Machine.Change` — one change
* `Machine.Evolves` — any number of changes
* `Eval.after` — the machine that an evaluation leaves behind
-/

namespace Lisp

/-- The scopes with a new one for a module of some name. -/
def Scopes.withModule (s : Scopes) (name : Name) : Scopes :=
  ((s.extendBy globalScope {}).2.setIdent s.next name.text).define s.next "*module-name*"
    (some (.symbol name)) none

namespace Machine

/-- Changes the scopes of a machine. -/
def mapScopes (m : Machine) (f : Scopes → Scopes) : Machine :=
  { m with heap.scopes := f m.heap.scopes }

/-- The machine with a new module, filed under its name. -/
def withModule (m : Machine) (name : Name) : Machine :=
  { m with
    heap.scopes := m.heap.scopes.withModule name
    heap.modules := m.heap.modules.push ⟨name, m.heap.scopes.next⟩
    registry := m.registry.insert name.text ⟨m.heap.modules.size⟩ }

/-- One change that an evaluation makes to a machine. -/
inductive Change (m : Machine) : Machine → Prop
  /-- A new scope within another one. -/
  | scope (outer : ScopeRef) (ident : String) (bindings : Dict Binding) :
      Change m (m.mapScopes fun s => (s.extendBy outer bindings).2.setIdent s.next ident)
  /-- A name is defined in a scope. -/
  | define (r : ScopeRef) (name : String) (value : Option Value) (metadata : Option Metadata) :
      Change m (m.mapScopes (·.define r name value metadata))
  /-- A name that a scope binds gets a new value. -/
  | store (r : ScopeRef) (name : String) (value : Value) :
      Change m (m.mapScopes (·.store r name value))
  /-- A scope is said to belong to a source. -/
  | source (r : ScopeRef) (source : String) : Change m (m.mapScopes (·.setSource r source))
  /-- Evaluation gets on in the source of a scope. -/
  | position (r : ScopeRef) (position : Text.Position) :
      Change m (m.mapScopes (·.setPosition r position))
  /-- A number is taken. -/
  | number : Change m { m with counter := m.counter + 1 }
  /-- A lambda is made, and takes a number. -/
  | lambda (l : Lambda) (fresh : l.id = m.counter) :
      Change m { m with counter := m.counter + 1, heap.lambdas := m.heap.lambdas.push l }
  /-- A lambda without a name gets one. -/
  | name (r : LambdaRef) (name : Name) (nameless : (m.heap.lambda r).ident = none) :
      Change m
        { m with heap.lambdas := m.heap.lambdas.modify r.index ({ · with ident := some name }) }
  /-- A protocol is made. -/
  | protocol (p : Protocol) : Change m { m with heap.protocols := m.heap.protocols.push p }
  /-- A type without methods is made. -/
  | type (name : Name) (fields : List String) :
      Change m { m with heap.types := m.heap.types.push none { name, fields } }
  /-- A type gets a method of its own. -/
  | install (t : TypeRef) (name : String) (method : Value) :
      Change m { m with heap.types := m.heap.types.update t.index (·.install name method) }
  /-- A protocol is mixed into a type. -/
  | mixIn (t : TypeRef) (p : ProtocolRef) :
      Change m { m with heap.types := m.heap.types.update t.index (·.mixIn (m.heap.protocol p)) }
  /-- An instance of a type is made. -/
  | construct (t : TypeRef) (args : List Value) (o : Object)
      (made : m.heap.instanceOf t args = .ok o) :
      Change m { m with heap.objects := m.heap.objects.push o }
  /-- An error object is made. -/
  | error (cls : ErrorClass) (message stack : String) :
      Change m { m with heap.objects := m.heap.objects.push ⟨cls.ref,
        .ofPairs [("message", .string message), ("stack", .string stack)]⟩ }
  /-- A field of an object is set. -/
  | field (r : ObjectRef) (field : String) (value : Value) :
      Change m { m with heap.objects := m.heap.objects.modify r.index fun o =>
        { o with fields := o.fields.insert field value } }
  /-- A module is made: it gets a scope of its own within the global one, in which its name is
  bound, and is filed under its name, which no module has. -/
  | module (name : Name) (missing : m.registry.find? name.text = none) :
      Change m (m.withModule name)
  /-- Code goes on in another context. -/
  | context (c : Context) : Change m { m with context := c }
  /-- The session goes on in another place. -/
  | session (top : Toplevel) : Change m { m with session := top }
  /-- A line is printed. -/
  | print (line : String) : Change m { m with output := m.output ++ line ++ "\n" }

/-- One machine becomes another by any number of changes. -/
def Evolves : Machine → Machine → Prop := Relation.ReflTransGen Change

end Machine

namespace Eval

variable {ε σ α β : Type}

/-- What two steps do that both return. -/
theorem bind_eq_ok_iff {x : EStateM ε σ α} {f : α → EStateM ε σ β} {s u : σ} {b : β} :
    (x >>= f) s = .ok b u ↔ ∃ a t, x s = .ok a t ∧ f a t = .ok b u := by
  show EStateM.bind x f s = _ ↔ _
  unfold EStateM.bind
  cases x s with
  | ok a t =>
    constructor
    · exact fun h => ⟨a, t, rfl, h⟩
    · rintro ⟨_, _, h, rest⟩
      cases h
      exact rest
  | error e t =>
    constructor
    · exact nofun
    · exact nofun

/-- The machine that an evaluation leaves behind, however it ends. -/
def after (act : Eval α) (m : Machine) : Machine :=
  match act m with
  | .ok _ m' | .error _ m' => m'

end Eval

end Lisp
