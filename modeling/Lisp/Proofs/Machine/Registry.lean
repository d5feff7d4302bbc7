import Lisp.Proofs.Machine.Confinement

/-!
# Modules and their names

Every module has a scope that no other module has, and is found under its name and under no other
one. A module is only made where there is none of its name, and with a scope that was not there
before, so that all this stays true whatever else happens to a machine.

## Main definitions

* `Machine.Registered` — modules have scopes of their own and are found under their names

## Main results

* `Machine.Change.registered`, `Machine.Evolves.registered` — the invariant
-/

namespace Lisp.Machine

variable {m m' : Machine}

/-- Modules have scopes of their own, and each is found under its name and under no other one. -/
structure Registered (m : Machine) : Prop where
  scopes : ∀ (i : Nat) (module : Module), m.heap.modules[i]? = some module →
    module.scope.index < m.heap.scopes.size
  apart : ∀ (i j : Nat) (module other : Module), m.heap.modules[i]? = some module →
    m.heap.modules[j]? = some other → module.scope = other.scope → i = j
  filed : ∀ (i : Nat) (module : Module), m.heap.modules[i]? = some module →
    m.module? module.name.text = some ⟨i⟩
  named : ∀ name r, m.module? name = some r →
    ∃ module, m.heap.modules[r.index]? = some module ∧ module.name.text = name

theorem hasModule_of_getElem? {r : ModuleRef} {module : Module}
    (h : m.heap.modules[r.index]? = some module) : m.HasModule r :=
  (Array.getElem?_eq_some_iff.1 h).1

namespace Registered

variable (h : m.Registered)

include h

theorem hasModule {name : String} {r : ModuleRef} (hr : m.module? name = some r) :
    m.HasModule r := by
  obtain ⟨module, hmodule, -⟩ := h.named name r hr
  exact hasModule_of_getElem? hmodule

theorem module?_name {r : ModuleRef} (hr : m.HasModule r) :
    m.module? (m.heap.module r).name.text = some r :=
  h.filed r.index _ (getElem?_modules hr)

theorem has_moduleScope {r : ModuleRef} (hr : m.HasModule r) :
    (m.moduleScope r).index < m.heap.scopes.size :=
  h.scopes r.index _ (getElem?_modules hr)

theorem moduleScope_inj {r other : ModuleRef} (hr : m.HasModule r) (hother : m.HasModule other)
    (same : m.moduleScope r = m.moduleScope other) : r = other := by
  have hindex := h.apart r.index other.index _ _ (getElem?_modules hr) (getElem?_modules hother)
    same
  cases r
  cases other
  exact congrArg ModuleRef.mk hindex

/-- Nothing happens to modules where none is made. -/
theorem mono (grows : m.Grows m') (modules : m'.heap.modules = m.heap.modules)
    (registry : m'.registry = m.registry) : m'.Registered := by
  have found (name : String) : m'.module? name = m.module? name := by
    unfold module?
    rw [registry]
  refine ⟨fun i module hi => ?_, ?_, fun i module hi => ?_, fun name r hr => ?_⟩
  · rw [modules] at hi
    exact Nat.lt_of_lt_of_le (h.scopes i module hi) grows.scopes_size
  · rw [modules]
    exact h.apart
  · rw [modules] at hi
    rw [found]
    exact h.filed i module hi
  · rw [found] at hr
    rw [modules]
    exact h.named name r hr

/-- A new module has a scope that no other one has, and a name that no other one has. -/
theorem withModule {name : Name} (missing : m.module? name.text = none) :
    (m.withModule name).Registered := by
  have new_ne {i : Nat} {module : Module} (hi : m.heap.modules[i]? = some module) :
      module.scope ≠ m.heap.scopes.next := by
    intro same
    have old := h.scopes i module hi
    rw [same] at old
    exact Nat.lt_irrefl _ old
  refine ⟨fun i module hi => ?_, fun i j module other hi hj same => ?_, fun i module hi => ?_,
    fun other r hr => ?_⟩
  · rw [scopes_size_withModule]
    obtain ⟨-, rfl⟩ | hi := getElem?_withModule.1 hi
    · exact Nat.lt_succ_self _
    · exact Nat.lt_succ_of_lt (h.scopes i module hi)
  · obtain ⟨rfl, rfl⟩ | hi := getElem?_withModule.1 hi <;>
      obtain ⟨rfl, rfl⟩ | hj := getElem?_withModule.1 hj
    · rfl
    · exact absurd same.symm (new_ne hj)
    · exact absurd same (new_ne hi)
    · exact h.apart i j module other hi hj same
  · rw [module?_withModule]
    obtain ⟨rfl, rfl⟩ | hi := getElem?_withModule.1 hi
    · exact if_pos rfl
    · have found := h.filed i module hi
      rw [if_neg fun same => ?_, found]
      rw [same, missing] at found
      cases found
  · rw [module?_withModule] at hr
    split at hr
    · next hname =>
      obtain rfl := Option.some.inj hr
      exact ⟨_, getElem?_withModule.2 (.inl ⟨rfl, rfl⟩), hname.symm⟩
    · obtain ⟨module, hmodule, hname⟩ := h.named other r hr
      exact ⟨module, getElem?_withModule.2 (.inr hmodule), hname⟩

end Registered

/-- Every change keeps modules apart. -/
theorem Change.registered (h : m.Change m') (hm : m.Registered) : m'.Registered := by
  have grows := h.grows
  cases h with
  | module name missing => exact hm.withModule missing
  | _ => exact hm.mono grows rfl rfl

theorem Evolves.registered (h : m.Evolves m') (hm : m.Registered) : m'.Registered := by
  induction h with
  | refl => exact hm
  | tail _ change ih => exact change.registered ih

end Lisp.Machine
