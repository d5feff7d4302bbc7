import Lisp.Machine

/-!
# What symbols refer to

A symbol without a namespace refers to the nearest binding around it, then to one of the active
module, then to a global one. A qualified symbol refers to what the named module itself binds.

## Main definitions

* `Machine.resolve?` — the binding that a symbol refers to
* `Machine.owner?` — the scope that this binding belongs to
-/

namespace Lisp

namespace Machine

variable (m : Machine)

/-- The module of a name. -/
def module? (name : String) : Option ModuleRef := m.registry.find? name

/-- The scope of a module. -/
def moduleScope (r : ModuleRef) : ScopeRef := (m.heap.module r).scope

/-- The scope of the active module. -/
def activeScope : ScopeRef := m.moduleScope m.context.module

/-- The scope of the module that a namespace names. -/
def namespaceScope (space : String) : Except Cause ScopeRef :=
  match m.module? space with
  | some r => .ok (m.moduleScope r)
  | none => .error (.module (.missing space))

/-- The binding that a symbol refers to. -/
def resolve? (scope : ScopeRef) (name : Name) : Except Cause (Option Binding) :=
  match name.space with
  | some space => do
    let owner ← m.namespaceScope space
    return m.heap.scopes.own? owner name.base
  | none =>
    .ok (((m.heap.scopes.binding? scope name.base).or
      (m.heap.scopes.binding? m.activeScope name.base)).or
      (m.heap.scopes.binding? globalScope name.base))

/-- The scope whose own binding a symbol refers to. -/
def owner? (scope : ScopeRef) (name : Name) : Except Cause (Option ScopeRef) :=
  match name.space with
  | some space => do
    let owner ← m.namespaceScope space
    return if (m.heap.scopes.own? owner name.base).isSome then some owner else none
  | none =>
    .ok (((m.heap.scopes.lookup? scope name.base).or
      (m.heap.scopes.lookup? m.activeScope name.base)).or
      (m.heap.scopes.lookup? globalScope name.base))

/-- The value of the binding that a symbol refers to; there has to be one. -/
def valueOf (scope : ScopeRef) (name : Name) : Except Cause Value := do
  match ← m.resolve? scope name with
  | some b => .ok b.value
  | none => .error (.unbound name.text)

end Machine

/-- The value of a symbol. -/
def Eval.variable (scope : ScopeRef) (name : Name) : Eval Value := do
  Eval.ofCause ((← get).valueOf scope name)

end Lisp
