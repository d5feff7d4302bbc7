import Lisp.Dict
import Lisp.Error
import Lisp.Forest

/-!
# Scopes

Scopes form a forest: each has its own bindings and may extend an outer one. A name means the
nearest binding on the way out.

## Main definitions

* `Binding` — a value, with annotations if the definition has them
* `Frame` — the bindings of one scope, and what traces say about it
* `Scopes` — all scopes
* `Scopes.lookup?`, `Scopes.binding?`, `Scopes.define`, `Scopes.assign?`
* `Scopes.trace` — the named scopes on the way out
-/

namespace Lisp

/-- Annotations of a definition, by key. -/
abbrev Metadata := Dict Value

/-- Whether a key is there with a value that counts as true. -/
def Metadata.flag (m : Metadata) (key : String) : Bool :=
  (m.get? key).any (·.isTruthy)

/-- What a name is bound to. -/
structure Binding where
  value : Value
  metadata : Option Metadata := none
deriving Inhabited

/-- One scope. -/
structure Frame where
  bindings : Dict Binding := {}
  /-- What traces call the scope; a scope without a name is left out of them. -/
  ident : Option String := none
  /-- The source that the scope belongs to. -/
  source : Option String := none
  /-- Where in the source evaluation stands. -/
  position : Text.Position := ⟨0, 0⟩
deriving Inhabited

/-- All scopes. -/
abbrev Scopes := Forest Frame

namespace Scopes

/-- What is known about a scope. -/
def frame (s : Scopes) (r : ScopeRef) : Frame := (s.get? r.index).getD {}

/-- The place of the next scope. -/
def next (s : Scopes) : ScopeRef := ⟨s.size⟩

/-- The scope around a scope. -/
def outer? (s : Scopes) (r : ScopeRef) : Option ScopeRef := (s.parent? r.index).map ScopeRef.mk

/-- A new scope within nothing. -/
def root (s : Scopes) : ScopeRef × Scopes := (s.next, s.push none {})

/-- A new scope within another, belonging to the same source, with the given bindings. -/
def extendBy (s : Scopes) (r : ScopeRef) (bindings : Dict Binding) : ScopeRef × Scopes :=
  (s.next, s.push (some r.index) { bindings, source := (s.frame r).source })

/-- A new scope within another. -/
def extend (s : Scopes) (r : ScopeRef) : ScopeRef × Scopes := s.extendBy r {}

/-- Bindings of names to values, pair by pair. -/
def bindAll (names : List String) (values : List Value) : Dict Binding :=
  .ofPairs ((names.zip values).map fun (n, v) => (n, ⟨v, none⟩))

/-- A new scope within another that binds names to values, pair by pair. -/
def extendWith (s : Scopes) (r : ScopeRef) (names : List String) (values : List Value) :
    ScopeRef × Scopes :=
  s.extendBy r (bindAll names values)

/-- The nearest scope on the way out that binds a name. -/
def lookup? (s : Scopes) (r : ScopeRef) (name : String) : Option ScopeRef :=
  s.findUp? (fun i f => if f.bindings.contains name then some ⟨i⟩ else none) r.index

/-- The nearest binding of a name. -/
def binding? (s : Scopes) (r : ScopeRef) (name : String) : Option Binding :=
  s.findUp? (fun _ f => f.bindings.get? name) r.index

/-- The value of the nearest binding of a name. -/
def value? (s : Scopes) (r : ScopeRef) (name : String) : Option Value :=
  (s.binding? r name).map (·.value)

/-- The binding of a name in a scope itself. -/
def own? (s : Scopes) (r : ScopeRef) (name : String) : Option Binding :=
  (s.frame r).bindings.get? name

/-- Changes the bindings of a scope. -/
def modifyBindings (s : Scopes) (r : ScopeRef) (g : Dict Binding → Dict Binding) : Scopes :=
  s.update r.index fun f => { f with bindings := g f.bindings }

/-- The binding that a definition makes of an earlier one. What the definition leaves open stays as
it was; a new name without a value is `nil`. -/
def redefine (old : Option Binding) (value : Option Value) (metadata : Option Metadata) : Binding :=
  { value := value.getD ((old.map (·.value)).getD .nil)
    metadata := metadata.or (old.bind (·.metadata)) }

/-- Defines a name in a scope itself. -/
def define (s : Scopes) (r : ScopeRef) (name : String) (value : Option Value)
    (metadata : Option Metadata) : Scopes :=
  s.modifyBindings r fun b => b.insert name (redefine (b.get? name) value metadata)

/-- Gives a new value to a name that a scope itself binds. -/
def store (s : Scopes) (r : ScopeRef) (name : String) (value : Value) : Scopes :=
  s.modifyBindings r fun b =>
    match b.get? name with
    | some old => b.insert name { old with value }
    | none => b

/-- Gives a new value to the nearest binding of a name; there has to be one. -/
def assign? (s : Scopes) (r : ScopeRef) (name : String) (value : Value) : Except Cause Scopes :=
  match s.lookup? r name with
  | some owner => .ok (s.store owner name value)
  | none => .error (.unbound name)

/-- Names a scope for traces. -/
def setIdent (s : Scopes) (r : ScopeRef) (ident : String) : Scopes :=
  s.update r.index fun f => { f with ident := some ident }

/-- Says which source a scope belongs to. -/
def setSource (s : Scopes) (r : ScopeRef) (source : String) : Scopes :=
  s.update r.index fun f => { f with source := some source }

/-- Says where in its source evaluation stands. -/
def setPosition (s : Scopes) (r : ScopeRef) (position : Text.Position) : Scopes :=
  s.update r.index fun f => { f with position }

/-- The named scopes on the way out, innermost first. -/
def trace (s : Scopes) (r : ScopeRef) : List TraceFrame :=
  (s.chain r.index).filterMap fun i =>
    let f := s.frame ⟨i⟩
    f.ident.map fun ident => ⟨ident, f.source, f.position⟩

end Scopes

end Lisp
