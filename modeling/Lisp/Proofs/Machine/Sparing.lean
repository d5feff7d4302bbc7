import Lisp.Proofs.Machine.Watch

/-!
# Scopes that get no more names

A name is bound in a scope when the scope is made, by a private definition there or, if the scope
belongs to a module, by a definition for that module. So as long as code runs in other scopes, a
scope that no module has gets no more names: those that it binds may get new values, and that is
all. Watches say this of one name and of what is never written to it; here it is said of all the
names that a scope does not bind, which nothing can write to without binding them first.

## Main definitions

* `Machine.Aside` — scopes that neither a module nor the session has
* `Machine.Spares` — a scope has got no more names

## Main results

* `Machine.Placed.aside_newScope` — a new scope is such a scope
* `Machine.Confined.aside` — and remains one
* `Machine.spares_of_keeps`, `Machine.spares_store` — changes
-/

namespace Lisp

/-- A name gets no binding by getting a new value. -/
theorem Scopes.own?_store_of_none {s : Scopes} {e : ScopeRef} {n : String}
    (h : s.own? e n = none) (r : ScopeRef) (name : String) (v : Value) :
    (s.store r name v).own? e n = none := by
  by_cases same : (e, n) = (r, name)
  · cases same
    unfold own? frame store modifyBindings at *
    rw [Forest.get?_update, if_pos rfl]
    cases hf : s.get? e.index with
    | none => rfl
    | some f =>
      rw [hf, Option.getD_some] at h
      rw [Option.map_some, Option.getD_some]
      simp only [h]
  · rw [own?_store_of_ne same, h]

/-- The watch for one name in one scope. -/
def Watch.binding (r : ScopeRef) (n : String) : Watch := { names := [(r, n)] }

namespace Machine

variable {b m m' m'' : Machine} {r : ScopeRef}

/-! ### Scopes of their own -/

/-- A scope that is there, that no module has, and in which the session does not run. -/
structure Aside (m : Machine) (r : ScopeRef) : Prop extends m.Inner r where
  session : m.session.scope ≠ r

theorem Aside.ne_next (h : m.Aside r) : m.heap.scopes.next ≠ r :=
  fun same => Nat.lt_irrefl _ (same ▸ h.there)

theorem Aside.fits (h : m.Aside r) (n : String) : (Watch.binding r n).Fits m := by
  intro p hp
  obtain rfl := List.mem_singleton.1 hp
  exact h.toInner

/-- A new scope is none that a module or the session has had. -/
theorem Placed.aside_newScope (placed : m.Placed) (session : m.heap.scopes.Has m.session.scope)
    (outer : ScopeRef) (ident : String) (bindings : Dict Binding) :
    ((Eval.newScope outer ident bindings).after m).Aside m.heap.scopes.next where
  there := by
    rw [Eval.size_newScope]
    exact Nat.lt_succ_self _
  global same := by
    have first : m.heap.scopes.size = 0 := congrArg ScopeRef.index same
    exact absurd (placed.moduleScope placed.context) (by omega)
  module q same := by
    have last : (m.moduleScope q).index = m.heap.scopes.size := congrArg ScopeRef.index same
    by_cases hq : m.HasModule q
    · have there := placed.moduleScope hq
      omega
    · -- a module that is not there seems to have the first scope
      have default : m.moduleScope q = ⟨0⟩ := by
        rw [Machine.moduleScope, Heap.module, Array.getD_eq_getD_getElem?,
          Array.getElem?_eq_none (Nat.not_lt.1 hq)]
        rfl
      have there := placed.moduleScope placed.context
      rw [default] at last
      change 0 = m.heap.scopes.size at last
      omega
  session same := by
    have there := session
    change m.session.scope = m.heap.scopes.next at same
    rw [same] at there
    exact Nat.lt_irrefl _ there

/-- No change gives a scope that is there to a module. -/
theorem Change.inner (h : m.Change m') (hr : m.Inner r) : m'.Inner r := by
  have size := h.grows.scopes_size
  cases h with
  | module name missing => exact hr.withModule name
  | _ => exact hr.mono size rfl

theorem Evolves.inner (h : m.Evolves m') (hr : m.Inner r) : m'.Inner r := by
  induction h with
  | refl => exact hr
  | tail _ change ih => exact change.inner ih

/-- What runs from inside does not move the session to another scope. -/
theorem Confined.aside (h : m.Confined m') (hr : m.Aside r) : m'.Aside r where
  toInner := h.evolves.inner hr.toInner
  session := by
    rw [h.session]
    exact hr.session

/-! ### No more names -/

/-- Between two machines a scope has got no more names. -/
structure Spares (m : Machine) (r : ScopeRef) (m' : Machine) : Prop where
  aside : m'.Aside r
  unbound : ∀ n, m.heap.scopes.own? r n = none → m'.heap.scopes.own? r n = none

theorem Spares.refl (h : m.Aside r) : m.Spares r m := ⟨h, fun _ => id⟩

theorem Spares.trans (h : m.Spares r m') (h' : m'.Spares r m'') : m.Spares r m'' :=
  ⟨h'.aside, fun n hn => h'.unbound n (h.unbound n hn)⟩

/-- A change that does nothing to a name that is watched, whichever it is. -/
theorem spares_of_keeps (aside : m.Aside r)
    (keeps : ∀ n, (Watch.binding r n).Fits m → (Watch.binding r n).Keeps m m') :
    m.Spares r m' where
  aside := by
    have kept := keeps "" (aside.fits "")
    refine { kept.inner r aside.toInner with session := ?_ }
    rw [kept.session]
    exact aside.session
  unbound n hn := by
    rw [← hn]
    exact (keeps n (aside.fits n)).bound (r, n) (List.mem_singleton_self _)

/-- Any name may get a new value. -/
theorem spares_store (aside : m.Aside r) (owner : ScopeRef) (name : String) (v : Value) :
    m.Spares r ((Eval.modifyScopes fun s => s.store owner name v).after m) where
  aside := (Eval.confined_store owner name v m).aside aside
  unbound _ hn := Scopes.own?_store_of_none hn owner name v

/-- The session may get another context. -/
theorem spares_session (aside : m.Aside r) {top : Toplevel} (scope : top.scope ≠ r) :
    m.Spares r { m with session := top } :=
  ⟨⟨⟨aside.there, aside.global, aside.module⟩, scope⟩, fun _ => id⟩

/-- Code may have run in another context. -/
theorem Spares.inContext {c : Context} (h : Spares { m with context := c } r m') :
    m.Spares r { m' with context := m.context } :=
  ⟨⟨⟨h.aside.there, h.aside.global, h.aside.module⟩, h.aside.session⟩, h.unbound⟩

theorem Aside.withContext (h : m.Aside r) (c : Context) : Aside { m with context := c } r :=
  ⟨⟨h.there, h.global, h.module⟩, h.session⟩

end Machine

end Lisp
