import Lisp.Proofs.Interpreter.Session
import Lisp.Proofs.Machine.Registry
import Lisp.Proofs.Scope.Lexical

/-!
# Modules are isolated

A public definition writes one binding: that of its name in the scope of a module, which is the
active one or, if the name is qualified, the one that the namespace names. Code that does not run
within this scope, and does not look there by a qualified name, cannot tell. For the module is found
under its name, and no other module has its scope.

## Main definitions

* `Machine.home?` — the module that a public definition is for
* `Machine.Rebound` — one binding is written and nothing else
* `Machine.Published` — what all code sees of a definition in a module

## Main results

* `Machine.Rebound.published` — who sees a binding that has been written in the scope of a module
* `Interpreter.definition_isolated` — public definitions, whenever they are made
-/

namespace Lisp

namespace Machine

variable {m m' : Machine} {r : ModuleRef} {base : String} {v : Value} {metadata : Metadata}

/-- The module that a public definition of a name is for. -/
def home? (m : Machine) (name : Name) : Option ModuleRef :=
  match name.space with
  | none => some m.context.module
  | some space => m.module? space

/-- The machine, where code runs in some context. -/
def within (m : Machine) (c : Context) : Machine := { m with context := c }

/-- A scope binds a name to a value, with annotations. Nothing else has changed: no other binding,
no scope but for its bindings, and nothing beside the scopes. -/
structure Rebound (m : Machine) (target : ScopeRef) (base : String) (b : Binding) (m' : Machine) :
    Prop where
  rest : m' = { m with heap.scopes := m'.heap.scopes }
  size : m'.heap.scopes.size = m.heap.scopes.size
  outer : ∀ e, m'.heap.scopes.outer? e = m.heap.scopes.outer? e
  frame : ∀ e, m'.heap.scopes.frame e =
    { m.heap.scopes.frame e with bindings := (m'.heap.scopes.frame e).bindings }
  own : ∀ e n, m'.heap.scopes.own? e n =
    if e = target ∧ n = base then some b else m.heap.scopes.own? e n

/-- A module binds a name to a value, and the binding carries the module's name beside the given
annotations. The symbol that is qualified with the module's name now has this value everywhere. The
unqualified symbol means what it has meant where the scope of the module is not on the way out, be
it from the scope at hand, from that of the active module or from the global one. Every other symbol
means what it has meant everywhere. -/
structure Published (m : Machine) (r : ModuleRef) (base : String) (v : Value) (metadata : Metadata)
    (m' : Machine) : Prop where
  rebound : m.Rebound (m.moduleScope r) base
    ⟨v, some (metadata.insert "module" (.symbol (m.heap.module r).name))⟩ m'
  qualified : ∀ scope c,
    (m'.within c).valueOf scope ⟨some (m.heap.module r).name.text, base⟩ = .ok v
  elsewhere : ∀ scope c, m.moduleScope r ∉ m.heap.scopes.path scope →
    m.moduleScope r ∉ m.heap.scopes.path (m.moduleScope c.module) →
    m.moduleScope r ∉ m.heap.scopes.path globalScope →
    (m'.within c).resolve? scope ⟨none, base⟩ = (m.within c).resolve? scope ⟨none, base⟩
  others : ∀ scope c (other : Name),
    other.base ≠ base ∨ (∃ space, other.space = some space ∧ m.module? space ≠ some r) →
    (m'.within c).resolve? scope other = (m.within c).resolve? scope other

/-! ### One binding -/

/-- A definition in a scope that is there. -/
theorem rebound_define {target : ScopeRef} (there : m.heap.scopes.Has target) (base : String)
    (v : Value) (metadata : Metadata) :
    m.Rebound target base ⟨v, some metadata⟩
      (m.mapScopes (·.define target base (some v) (some metadata))) where
  rest := rfl
  size := Forest.size_update ..
  outer _ := Scopes.outer?_update _ _
  frame e := by
    change Scopes.frame (Forest.update m.heap.scopes target.index _) e = _
    unfold Scopes.frame
    dsimp only [mapScopes, Scopes.define, Scopes.modifyBindings]
    rw [Forest.get?_update]
    split
    · cases m.heap.scopes.get? e.index with
      | none => rfl
      | some f => rfl
    · rfl
  own e n := Scopes.own?_define there base (some v) (some metadata)

namespace Rebound

variable {target : ScopeRef} {b : Binding} (h : m.Rebound target base b m')

include h

theorem path (e : ScopeRef) : m'.heap.scopes.path e = m.heap.scopes.path e := by
  refine congrArg (List.map ScopeRef.mk) (Forest.chain_congr fun j _ => ?_)
  have same := h.outer ⟨j⟩
  unfold Scopes.outer? at same
  refine Option.map_injective ?_ same
  intro p q hpq
  exact congrArg ScopeRef.index hpq

theorem heap_module (r : ModuleRef) : m'.heap.module r = m.heap.module r := by
  rw [h.rest]
  rfl

theorem moduleScope (r : ModuleRef) : m'.moduleScope r = m.moduleScope r :=
  congrArg Module.scope (h.heap_module r)

theorem module? (space : String) : m'.module? space = m.module? space := by
  rw [h.rest]
  rfl

/-- Look-ups that do not come to the binding find what they have found. -/
theorem binding? {e : ScopeRef} {n : String}
    (free : n ≠ base ∨ target ∉ m.heap.scopes.path e) :
    m'.heap.scopes.binding? e n = m.heap.scopes.binding? e n := by
  rw [Scopes.binding?_eq, Scopes.binding?_eq, h.path]
  refine findSome?_congr fun q hq => ?_
  rw [h.own, if_neg]
  rintro ⟨rfl, rfl⟩
  exact free.elim (· rfl) (· hq)

theorem namespaceScope (space : String) : m'.namespaceScope space = m.namespaceScope space := by
  unfold Machine.namespaceScope
  rw [h.module?]
  cases m.module? space with
  | none => rfl
  | some r => exact congrArg Except.ok (h.moduleScope r)

end Rebound

/-! ### What code sees of it -/

theorem namespaceScope_of_some {space : String} (h : m.module? space = some r) :
    m.namespaceScope space = .ok (m.moduleScope r) := by
  rw [namespaceScope, h]

theorem namespaceScope_of_none {space : String} (h : m.module? space = none) :
    m.namespaceScope space = .error (.module (.missing space)) := by
  rw [namespaceScope, h]

theorem resolve?_qualified (m : Machine) (scope : ScopeRef) (space base : String) :
    m.resolve? scope ⟨some space, base⟩ =
      (m.namespaceScope space).map fun owner => m.heap.scopes.own? owner base := by
  simp only [resolve?]
  cases m.namespaceScope space with
  | error c => rfl
  | ok owner => rfl

/-- A binding that has been written in the scope of a module is seen where that scope is on the way
out, and by the name of the module. -/
theorem Rebound.published (registered : m.Registered) (there : m.HasModule r)
    (h : m.Rebound (m.moduleScope r) base
      ⟨v, some (metadata.insert "module" (.symbol (m.heap.module r).name))⟩ m') :
    m.Published r base v metadata m' where
  rebound := h
  qualified scope c := by
    have found : (m'.within c).namespaceScope (m.heap.module r).name.text =
        .ok (m.moduleScope r) :=
      (h.namespaceScope _).trans (namespaceScope_of_some (registered.module?_name there))
    have own := (h.own (m.moduleScope r) base).trans (if_pos ⟨rfl, rfl⟩)
    rw [valueOf, resolve?_qualified, found]
    simp only [Except.map, within, own]
    rfl
  elsewhere scope c lexical active global := by
    have moduleScope : (m'.within c).activeScope = m.moduleScope c.module := h.moduleScope c.module
    have scopes : (m'.within c).heap = m'.heap := rfl
    simp only [resolve?, moduleScope, scopes, h.binding? (.inr lexical), h.binding? (.inr active),
      h.binding? (.inr global)]
    rfl
  others scope c other hother := by
    obtain ⟨space, n⟩ := other
    have moduleScope : (m'.within c).activeScope = m.moduleScope c.module := h.moduleScope c.module
    have scopes : (m'.within c).heap = m'.heap := rfl
    cases space with
    | none =>
      have hn : n ≠ base := hother.resolve_right (by rintro ⟨_, ⟨⟩, _⟩)
      simp only [resolve?, moduleScope, scopes, h.binding? (.inl hn)]
      rfl
    | some space =>
      have same : (m'.within c).namespaceScope space = (m.within c).namespaceScope space :=
        h.namespaceScope space
      rw [resolve?_qualified, resolve?_qualified, same]
      cases hspace : m.module? space with
      | none => rw [namespaceScope_of_none (m := m.within c) hspace]; rfl
      | some q =>
        rw [namespaceScope_of_some (m := m.within c) hspace]
        -- two modules do not share a scope, so only this module has the binding in its own
        refine congrArg Except.ok ((h.own (m.moduleScope q) n).trans (if_neg ?_))
        rintro ⟨hscope, hn⟩
        obtain ⟨_, ⟨⟩, hne⟩ := hother.resolve_left (not_not_intro hn)
        have hq : q = r := registered.moduleScope_inj (registered.hasModule hspace) there hscope
        exact hne (hspace.trans (congrArg some hq))

/-! ### Definitions -/

/-- What a public definition is for. -/
theorem target_of_public {name : Name} (isPublic : metadata.flag "private" = false)
    (scope : ScopeRef) :
    (∀ r, m.home? name = some r →
      m.target scope name metadata = .ok (m.moduleScope r, some r)) ∧
    (m.home? name = none → ∃ space, name.space = some space ∧
      m.target scope name metadata = .error (.module (.missingTarget space))) := by
  obtain ⟨space, base⟩ := name
  unfold home? target
  rw [isPublic, if_neg Bool.false_ne_true]
  cases space with
  | none =>
    refine ⟨fun r home => ?_, fun home => nomatch home⟩
    obtain rfl := Option.some.inj home
    rfl
  | some space =>
    dsimp only
    cases m.module? space with
    | none => exact ⟨fun r home => (nomatch home), fun _ => ⟨space, rfl, rfl⟩⟩
    | some q =>
      refine ⟨fun r home => ?_, fun home => nomatch home⟩
      obtain rfl := Option.some.inj home
      rfl

/-- A public definition is one in the scope of a module, with the name of the module beside the
annotations. -/
theorem defineVariable_of_home {name : Name} (isPublic : metadata.flag "private" = false)
    (home : m.home? name = some r) (scope : ScopeRef) (v : Value) :
    Eval.defineVariable scope name v metadata m =
      .ok () (m.mapScopes (·.define (m.moduleScope r) name.base (some v)
        (some (metadata.insert "module" (.symbol (m.heap.module r).name))))) := by
  have target := (target_of_public isPublic scope).1 r home
  unfold Eval.defineVariable
  simp only [bind, EStateM.bind, Eval.get_apply, target]
  rfl

/-- Where the namespace names no module, a definition fails and changes nothing. -/
theorem defineVariable_of_not_home {name : Name} (isPublic : metadata.flag "private" = false)
    (home : m.home? name = none) (scope : ScopeRef) (v : Value) :
    ∃ space, name.space = some space ∧ Eval.defineVariable scope name v metadata m =
      .error (.fault { cause := .module (.missingTarget space) }) m := by
  obtain ⟨space, hspace, target⟩ := (target_of_public isPublic scope).2 home
  refine ⟨space, hspace, ?_⟩
  unfold Eval.defineVariable
  simp only [bind, EStateM.bind, Eval.get_apply, target]
  rfl

end Machine

namespace Interpreter

variable {i : Interpreter}

/-- A session starts with two modules, whose names are not the same. -/
theorem registered_start {options : Options} (host : options.hostNamespace ≠ Start.coreName) :
    (Start.machine options).Registered := by
  have registry (name : String) : (Start.machine options).module? name =
      if name = options.hostNamespace then some Start.hostModule
      else if name = Start.coreName then some Start.coreModule else none := by
    change ((ModuleTree.empty.insert Start.coreName Start.coreModule).insert
      options.hostNamespace Start.hostModule).find? name = _
    rw [ModuleTree.find?_insert, ModuleTree.find?_insert, ModuleTree.find?,
      ModuleTree.findPath?_empty]
    simp only [Path.splitDots_inj]
  have modules {i : Nat} {module : Module}
      (h : (Start.machine options).heap.modules[i]? = some module) :
      i = 0 ∧ module = ⟨.simple Start.coreName, globalScope⟩ ∨
        i = 1 ∧ module = ⟨.simple options.hostNamespace, Start.hostScope⟩ := by
    rcases i with _ | _ | i
    · exact .inl ⟨rfl, (Option.some.inj h).symm⟩
    · exact .inr ⟨rfl, (Option.some.inj h).symm⟩
    · simp [Start.machine, Start.modules] at h
  -- the core module has the global scope, and that of the host is another one
  refine ⟨(steady_start options).placed.scopes, fun i j module other hi hj same => ?_,
    fun i module hi => ?_, fun name r hr => ?_⟩
  · obtain ⟨rfl, rfl⟩ | ⟨rfl, rfl⟩ := modules hi <;> obtain ⟨rfl, rfl⟩ | ⟨rfl, rfl⟩ := modules hj
    · rfl
    · exact absurd (congrArg ScopeRef.index same) (Nat.zero_ne_add_one 1)
    · exact absurd (congrArg ScopeRef.index same) (Nat.succ_ne_zero _)
    · rfl
  · obtain ⟨rfl, rfl⟩ | ⟨rfl, rfl⟩ := modules hi
    · exact (registry _).trans ((if_neg (Ne.symm host)).trans (if_pos rfl))
    · exact (registry _).trans (if_pos rfl)
  · rw [registry] at hr
    split_ifs at hr with hhost hcore
    · obtain rfl := Option.some.inj hr
      exact ⟨_, rfl, hhost.symm⟩
    · obtain rfl := Option.some.inj hr
      exact ⟨_, rfl, hcore.symm⟩

/-- In every session whose host is not called like the core module, modules are kept apart. -/
theorem Reachable.registered [Tables] (h : i.Reachable)
    (host : i.setting.options.hostNamespace ≠ Start.coreName) : i.machine.Registered := by
  induction h with
  | start options files => exact registered_start host
  | ask _ fuel request ih =>
    rw [setting_ask] at host
    exact (evolves_ask _ fuel request).registered (ih host)
  | takeOutput _ ih => exact { ih host with }
  | files _ files ih => exact ih host

/-- Whenever something is defined in a session, be it between requests or while one is answered, a
public definition writes one binding: that of the name in the scope of the active module or, if the
name is qualified, of the module that the namespace names. The binding is seen through the name of
the module from everywhere, and else from within the scope of the module only. Where the namespace
names no module, the definition fails and changes nothing. -/
theorem definition_isolated [Tables] (h : i.Reachable)
    (host : i.setting.options.hostNamespace ≠ Start.coreName) {m : Machine}
    (run : i.machine.Evolves m) (there : m.HasModule m.context.module) (scope : ScopeRef)
    (name : Name) (v : Value) {metadata : Metadata} (isPublic : metadata.flag "private" = false) :
    (∀ r, m.home? name = some r → ∃ m', Eval.defineVariable scope name v metadata m = .ok () m' ∧
      m.Published r name.base v metadata m') ∧
    (m.home? name = none → ∃ space, name.space = some space ∧
      Eval.defineVariable scope name v metadata m =
        .error (.fault { cause := .module (.missingTarget space) }) m) := by
  have registered := run.registered (h.registered host)
  refine ⟨fun r home => ⟨_, Machine.defineVariable_of_home isPublic home scope v, ?_⟩,
    fun home => Machine.defineVariable_of_not_home isPublic home scope v⟩
  have known : m.HasModule r := by
    unfold Machine.home? at home
    split at home
    · exact Option.some.inj home ▸ there
    · exact registered.hasModule home
  exact Machine.Rebound.published registered known
    (Machine.rebound_define (registered.has_moduleScope known) name.base v _)

/-- A module defines a name that it has before and that another module has too. -/
theorem definition_isolated_shared :
    let i := ((start {} fun _ => none).ask 30
      (.text "(module a) (define x :a) (module b) (define x :b)" "t")).2
    let name : Name := ⟨some "a", "x"⟩
    i.Reachable ∧ i.setting.options.hostNamespace ≠ Start.coreName ∧
      i.machine.Evolves i.machine ∧ i.machine.HasModule i.machine.context.module ∧
      Metadata.flag {} "private" = false ∧
      ∃ r m', i.machine.home? name = some r ∧
        Eval.defineVariable globalScope name (.bool true) {} i.machine = .ok () m' ∧
        i.machine.Published r "x" (.bool true) {} m' := by
  intro i name
  have hi : i.Reachable := (Reachable.start {} fun _ => none).ask 30 _
  have host : i.setting.options.hostNamespace ≠ Start.coreName := by
    unfold i
    rw [setting_ask]
    decide
  have there : i.machine.context.module.index < i.machine.heap.modules.size := by decide +kernel
  have isPublic : Metadata.flag {} "private" = false := by decide
  have home : i.machine.home? name = some ⟨2⟩ := by decide +kernel
  obtain ⟨m', defined, published⟩ :=
    (definition_isolated hi host .refl there globalScope name (.bool true) isPublic).1 ⟨2⟩ home
  exact ⟨hi, host, .refl, there, isPublic, ⟨2⟩, m', home, defined, published⟩

end Interpreter

end Lisp
