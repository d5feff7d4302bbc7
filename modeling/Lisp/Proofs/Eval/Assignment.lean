import Lisp.Proofs.Eval.Expansion
import Lisp.Proofs.Interpreter.Isolation
import Mathlib.Data.List.Find

/-!
# An assignment writes what is read

Reading a symbol and giving it a new value search for the binding in two ways: one looks for the
binding itself, the other for the scope that has it. Both look along the scopes around the code,
then from the scope of the active module, then in the global scope, or in one module only if the
symbol names that. They find the same, because a scope is found exactly if it has a binding of its
own.

The scope to write to is found before the new value is computed, and the symbol is read after that.
So the value is seen only if the computation has not put another binding of the name in between.

## Main definitions

* `Machine.Unshadowed` — no scope that a name is looked for in has come to bind it

## Main results

* `Machine.resolve?_eq` — the binding that a symbol refers to is that of the scope that owns it
* `Machine.Unshadowed.owner?` — the owner of a binding stays the same as long as none comes between
* `Engine.evalAssign_writes_read` — assignments
-/

namespace Lisp

namespace Scopes

variable {s s' : Scopes} {e : ScopeRef} {n : String}

/-- Which scope is the nearest to bind a name depends only on which of them do. -/
theorem lookup?_congr (path : s'.path e = s.path e)
    (own : ∀ r ∈ s.path e, (s'.own? r n).isSome = (s.own? r n).isSome) :
    s'.lookup? e n = s.lookup? e n := by
  rw [lookup?_eq, lookup?_eq, path]
  exact List.find?_congr own

/-- The global scope is within no other one. -/
theorem path_globalScope (s : Scopes) : s.path globalScope = [globalScope] := by
  refine path_of_outermost ?_
  cases outer : s.parent? globalScope.index with
  | none => rfl
  | some p => exact absurd (Forest.parent?_lt outer) (Nat.not_lt_zero p)

end Scopes

namespace Machine

variable {m m' : Machine} {scope : ScopeRef} {name : Name}

/-! ### Two searches -/

/-- The nearest of several scopes that own a binding, and the first of their bindings. -/
theorem or_bind_own {s : Scopes} {n : String} {found other : Option ScopeRef}
    (owns : ∀ r, found = some r → ∃ b, s.own? r n = some b) :
    (found.or other).bind (s.own? · n) =
      (found.bind (s.own? · n)).or (other.bind (s.own? · n)) := by
  cases found with
  | none => rfl
  | some r =>
    obtain ⟨b, hb⟩ := owns r rfl
    simp only [Option.some_or, Option.bind_some, hb]

theorem owner?_qualified (m : Machine) (scope : ScopeRef) (space base : String) :
    m.owner? scope ⟨some space, base⟩ = (m.namespaceScope space).map fun owner =>
      if (m.heap.scopes.own? owner base).isSome then some owner else none := by
  simp only [owner?]
  cases m.namespaceScope space with
  | error c => rfl
  | ok owner => rfl

/-- The binding that a symbol refers to is the own one of the scope that it belongs to; there is
none if it belongs to none, and the same error if there is one. -/
theorem resolve?_eq (m : Machine) (scope : ScopeRef) (name : Name) :
    m.resolve? scope name =
      (m.owner? scope name).map fun owner => owner.bind (m.heap.scopes.own? · name.base) := by
  obtain ⟨space, base⟩ := name
  cases space with
  | none =>
    have owns (e : ScopeRef) (r : ScopeRef) (h : m.heap.scopes.lookup? e base = some r) :
        ∃ b, m.heap.scopes.own? r base = some b := Scopes.exists_own_of_lookup h
    simp only [resolve?, owner?, Except.map, Scopes.binding?_eq_bind]
    rw [or_bind_own, or_bind_own (owns scope)]
    intro r h
    rcases Option.or_eq_some_iff.1 h with h | ⟨-, h⟩
    · exact owns _ r h
    · exact owns _ r h
  | some space =>
    rw [resolve?_qualified, owner?_qualified]
    cases m.namespaceScope space with
    | error c => rfl
    | ok owner =>
      simp only [Except.map]
      cases own : m.heap.scopes.own? owner base with
      | none => rfl
      | some b => simp [own]

/-- A scope that a symbol belongs to has a binding of its own, which the symbol refers to. -/
theorem exists_own_of_owner? {owner : ScopeRef} (h : m.owner? scope name = .ok (some owner)) :
    ∃ b, m.heap.scopes.own? owner name.base = some b ∧ m.resolve? scope name = .ok (some b) := by
  obtain ⟨b, hb⟩ : ∃ b, m.heap.scopes.own? owner name.base = some b := by
    obtain ⟨space, base⟩ := name
    cases space with
    | none =>
      simp only [owner?, Except.ok.injEq, Option.or_eq_some_iff] at h
      rcases h with (h | ⟨-, h⟩) | ⟨-, h⟩
      · exact Scopes.exists_own_of_lookup h
      · exact Scopes.exists_own_of_lookup h
      · exact Scopes.exists_own_of_lookup h
    | some space =>
      rw [owner?_qualified] at h
      cases known : m.namespaceScope space with
      | error c => simp [known, Except.map] at h
      | ok found =>
        simp only [known, Except.map, Except.ok.injEq, Option.ite_none_right_eq_some,
          Option.some.injEq] at h
        obtain ⟨own, rfl⟩ := h
        exact Option.isSome_iff_exists.1 own
  refine ⟨b, hb, ?_⟩
  rw [resolve?_eq, h]
  simp only [Except.map, Option.bind_some, hb]

/-- The two searches fail alike, find nothing alike, or the one finds the scope whose own binding
the other one finds. -/
theorem searches_agree (m : Machine) (scope : ScopeRef) (name : Name) :
    (∃ c, m.owner? scope name = .error c ∧ m.resolve? scope name = .error c) ∨
    (m.owner? scope name = .ok none ∧ m.resolve? scope name = .ok none) ∨
    ∃ owner b, m.owner? scope name = .ok (some owner) ∧
      m.heap.scopes.own? owner name.base = some b ∧ m.resolve? scope name = .ok (some b) := by
  cases found : m.owner? scope name with
  | error c =>
    refine .inl ⟨c, rfl, ?_⟩
    rw [resolve?_eq, found]
    rfl
  | ok owner =>
    cases owner with
    | none =>
      refine .inr (.inl ⟨rfl, ?_⟩)
      rw [resolve?_eq, found]
      rfl
    | some owner =>
      obtain ⟨b, own, resolved⟩ := exists_own_of_owner? found
      exact .inr (.inr ⟨owner, b, rfl, own, resolved⟩)

/-! ### The owner stays the same -/

theorem Grows.path (h : m.Grows m') {e : ScopeRef} (he : m.heap.scopes.Has e) :
    m'.heap.scopes.path e = m.heap.scopes.path e := by
  refine congrArg (List.map ScopeRef.mk) (Forest.chain_congr fun j hj => ?_)
  have there : j < m.heap.scopes.size := Nat.lt_of_le_of_lt hj he
  cases hf : m.heap.scopes.get? j with
  | none =>
    rw [Forest.get?_eq_none_iff] at hf
    exact absurd there (Nat.not_lt.2 hf)
  | some f => exact (h.scopes j f hf).1

/-- Scopes lose no name. -/
theorem Grows.own_isSome (h : m.Grows m') {e : ScopeRef} {n : String}
    (bound : (m.heap.scopes.own? e n).isSome) : (m'.heap.scopes.own? e n).isSome := by
  rw [← Scopes.bind_get?_eq_own?] at bound ⊢
  cases hf : m.heap.scopes.get? e.index with
  | none => simp [hf] at bound
  | some f =>
    obtain ⟨-, g, hg, grown⟩ := h.scopes e.index f hf
    rw [hf] at bound
    rw [hg]
    exact grown.bindings n bound

/-- Between two machines the active module is the same, and of the scopes in which a name is looked
for before the global one none has come to bind it. A name that is qualified is looked for in one
scope only. -/
structure Unshadowed (m : Machine) (scope : ScopeRef) (name : Name) (m' : Machine) : Prop where
  active : name.space = none → m'.context.module = m.context.module
  free : name.space = none → ∀ e ∈ m.heap.scopes.path scope ++ m.heap.scopes.path m.activeScope,
    (m'.heap.scopes.own? e name.base).isSome → (m.heap.scopes.own? e name.base).isSome

theorem Unshadowed.refl (m : Machine) (scope : ScopeRef) (name : Name) :
    m.Unshadowed scope name m where
  active _ := rfl
  free _ _ _ bound := bound

/-- A name that no scope has come to bind is found where it has been found. -/
theorem Grows.lookup? (h : m.Grows m') {e : ScopeRef} (he : m.heap.scopes.Has e) {n : String}
    (free : ∀ r ∈ m.heap.scopes.path e,
      (m'.heap.scopes.own? r n).isSome → (m.heap.scopes.own? r n).isSome) :
    m'.heap.scopes.lookup? e n = m.heap.scopes.lookup? e n := by
  refine Scopes.lookup?_congr (h.path he) fun r hr => ?_
  rw [Bool.eq_iff_iff]
  exact ⟨free r hr, h.own_isSome⟩

/-- The scope that a symbol belongs to remains the one. -/
theorem Unshadowed.owner? (unshadowed : m.Unshadowed scope name m') (grows : m.Grows m')
    (placed : m.Placed) (there : m.heap.scopes.Has scope) {owner : ScopeRef}
    (h : m.owner? scope name = .ok (some owner)) : m'.owner? scope name = .ok (some owner) := by
  obtain ⟨space, base⟩ := name
  cases space with
  | some space =>
    rw [owner?_qualified] at h ⊢
    cases found : m.module? space with
    | none => simp [namespaceScope_of_none found, Except.map] at h
    | some r =>
      have moduleScope := grows.moduleScope (placed.registry space r found)
      simp only [namespaceScope_of_some found, Except.map, Except.ok.injEq,
        Option.ite_none_right_eq_some, Option.some.injEq] at h
      obtain ⟨bound, rfl⟩ := h
      rw [namespaceScope_of_some (grows.registry space r found), moduleScope]
      simp only [Except.map, if_pos (grows.own_isSome bound)]
  | none =>
    have active : m'.activeScope = m.activeScope := by
      rw [activeScope, unshadowed.active rfl, grows.moduleScope placed.context, activeScope]
    have lexical : m'.heap.scopes.lookup? scope base = m.heap.scopes.lookup? scope base :=
      grows.lookup? there fun e he =>
        unshadowed.free rfl e (List.mem_append_left _ he)
    have fromModule : m'.heap.scopes.lookup? m.activeScope base =
        m.heap.scopes.lookup? m.activeScope base :=
      grows.lookup? (placed.moduleScope placed.context) fun e he =>
        unshadowed.free rfl e (List.mem_append_right _ he)
    simp only [Machine.owner?, Except.ok.injEq] at h ⊢
    rw [active, lexical, fromModule]
    rcases Option.or_eq_some_iff.1 h with h | ⟨unbound, h⟩
    · exact Option.or_eq_some_iff.2 (.inl h)
    · -- nothing is searched behind the global scope, so that it may have come to bind any name
      refine Option.or_eq_some_iff.2 (.inr ⟨unbound, ?_⟩)
      rw [Scopes.lookup?_eq, Scopes.path_globalScope, List.find?_singleton] at h ⊢
      obtain ⟨bound, ⟨⟩⟩ := Option.ite_none_right_eq_some.1 h
      exact if_pos (grows.own_isSome bound)

/-! ### A new value -/

/-- A new value for a binding that a scope has. -/
theorem rebound_store {owner : ScopeRef} {base : String} {b : Binding}
    (own : m.heap.scopes.own? owner base = some b) (v : Value) :
    m.Rebound owner base { b with value := v } (m.mapScopes (·.store owner base v)) where
  rest := rfl
  size := Forest.size_update ..
  outer _ := Scopes.outer?_update _ _
  frame e := by
    change Scopes.frame (Forest.update m.heap.scopes owner.index _) e = _
    unfold Scopes.frame
    dsimp only [mapScopes, Scopes.store, Scopes.modifyBindings]
    rw [Forest.get?_update]
    split
    · cases m.heap.scopes.get? e.index with
      | none => rfl
      | some f => rfl
    · rfl
  own e n := Scopes.own?_store own v

namespace Rebound

variable {target : ScopeRef} {base : String} {b : Binding} (h : m.Rebound target base b m')

include h

/-- Writing to a binding that is there changes no owner. -/
theorem owner?_eq (bound : (m.heap.scopes.own? target base).isSome) (scope : ScopeRef)
    (name : Name) : m'.owner? scope name = m.owner? scope name := by
  have own (e : ScopeRef) (n : String) :
      (m'.heap.scopes.own? e n).isSome = (m.heap.scopes.own? e n).isSome := by
    rw [h.own]
    split
    · rename_i here
      rw [here.1, here.2, bound, Option.isSome_some]
    · rfl
  have lookup (e : ScopeRef) (n : String) :
      m'.heap.scopes.lookup? e n = m.heap.scopes.lookup? e n :=
    Scopes.lookup?_congr (h.path e) fun r _ => own r n
  have context : m'.context = m.context := by rw [h.rest]
  obtain ⟨space, n⟩ := name
  cases space with
  | none => simp only [owner?, lookup, activeScope, context, h.moduleScope]
  | some space => simp only [owner?_qualified, h.namespaceScope, own]

/-- A symbol that belongs to the scope has the new value. -/
theorem valueOf_eq {name : Name} (owner : m.owner? scope name = .ok (some target))
    (hbase : base = name.base) : m'.valueOf scope name = .ok b.value := by
  subst hbase
  obtain ⟨old, own, -⟩ := exists_own_of_owner? owner
  have stays := (h.owner?_eq (by rw [own]; rfl) scope name).trans owner
  have written : m'.heap.scopes.own? target name.base = some b :=
    (h.own target name.base).trans (if_pos ⟨rfl, rfl⟩)
  rw [valueOf, resolve?_eq, stays]
  simp only [Except.map, Option.bind_some, written]
  rfl

end Rebound

end Machine

/-! ### Assignments -/

theorem Eval.variable_eq (scope : ScopeRef) (name : Name) (m : Machine) :
    Eval.variable scope name m = Eval.ofCause (m.valueOf scope name) m := rfl

namespace Engine

variable {E : Engine} {scope : ScopeRef} {name : Name} {form : Value} {m m' : Machine}

/-- The form that gives a symbol a new value. -/
def assignment (name : Name) (form : Value) : Value := .list [.sym "set!", .symbol name, form]

theorem step_assignment [Tables] (rounds : 0 < E.rounds) (scope : ScopeRef) (name : Name)
    (form : Value) (m : Machine) :
    E.step scope (assignment name form) m = E.evalAssign scope [.symbol name, form] m :=
  step_special rounds scope .assign [.symbol name, form] m

theorem step_symbol [Tables] (rounds : 0 < E.rounds) (scope : ScopeRef) (name : Name)
    (m : Machine) :
    E.step scope (.symbol name) m = Eval.variable scope name m := by
  have syntactic : (Value.symbol name).IsSyntax := by
    rintro _ ⟨⟩
  simp only [step, bind, EStateM.bind, expand_of_isSyntax rounds syntactic]
  simp only [evalExpanded]

/-- A symbol that belongs to a scope gets its value there. -/
theorem evalAssign_of_owner? {owner : ScopeRef} {v : Value}
    (found : m.owner? scope name = .ok (some owner)) (value : E.eval scope form m = .ok v m') :
    E.evalAssign scope [.symbol name, form] m =
      .ok v (m'.mapScopes (·.store owner name.base v)) := by
  have named : Eval.ofCause (expectSymbol m.heap "set!" (.symbol name)) m = .ok name m := rfl
  have owned : Eval.ofCause (m.owner? scope name) m = .ok (some owner) m := by
    rw [found]
    rfl
  have heap : Eval.heap m = .ok m.heap m := rfl
  simp only [evalAssign, bind, EStateM.bind, heap, named, Eval.get_apply, owned, value]
  rfl

/-- A symbol that cannot be read gets no value, and none is computed. -/
theorem evalAssign_of_error {c : Cause} (unread : m.valueOf scope name = .error c)
    (form : Value) :
    E.evalAssign scope [.symbol name, form] m = .error (.fault { cause := c }) m := by
  have named : Eval.ofCause (expectSymbol m.heap "set!" (.symbol name)) m = .ok name m := rfl
  have heap : Eval.heap m = .ok m.heap m := rfl
  simp only [evalAssign, bind, EStateM.bind, heap, named, Eval.get_apply]
  rcases m.searches_agree scope name with
    ⟨e, owned, read⟩ | ⟨owned, read⟩ | ⟨owner, b, owned, -, read⟩
  · rw [Machine.valueOf, read] at unread
    cases unread
    rw [owned]
    rfl
  · rw [Machine.valueOf, read] at unread
    cases unread
    rw [owned]
    rfl
  · rw [Machine.valueOf, read] at unread
    cases unread

/-- A symbol is given its new value where it is read.

* The search for the scope to write to and the search for the binding to read fail alike, find
  nothing alike, or find the same binding.
* If the symbol belongs to a scope, and computing the value neither makes another module active nor
  puts a binding of the name in front, then the assignment gives the value and writes it to the
  scope's binding, whose annotations stay. Nothing else changes, and the symbol now has the value.
* A symbol that cannot be read cannot be assigned to, for the same cause; the form of the value is
  not evaluated, whatever evaluation may be. -/
theorem evalAssign_writes_read [Tables] (setting : Setting) (fuel : Nat) {scope : ScopeRef}
    {m : Machine} (placed : m.Placed) (there : m.heap.scopes.Has scope) (name : Name) :
    ((∃ c, m.owner? scope name = .error c ∧ m.resolve? scope name = .error c) ∨
      (m.owner? scope name = .ok none ∧ m.resolve? scope name = .ok none) ∨
      ∃ owner b, m.owner? scope name = .ok (some owner) ∧
        m.heap.scopes.own? owner name.base = some b ∧ m.resolve? scope name = .ok (some b)) ∧
    (∀ owner form v m₁, m.owner? scope name = .ok (some owner) →
      (ofFuel setting fuel).eval scope form m = .ok v m₁ → m.Unshadowed scope name m₁ →
      ∃ b m₂, m₁.heap.scopes.own? owner name.base = some b ∧
        (ofFuel setting (fuel + 1)).eval scope (assignment name form) m = .ok v m₂ ∧
        m₁.Rebound owner name.base { b with value := v } m₂ ∧
        (ofFuel setting (fuel + 1)).eval scope (.symbol name) m₂ = .ok v m₂) ∧
    (∀ c, m.valueOf scope name = .error c → ∀ E : Engine, 0 < E.rounds → ∀ form,
      E.step scope (assignment name form) m = .error (.fault { cause := c }) m) := by
  refine ⟨m.searches_agree scope name, fun owner form v m₁ owned value unshadowed => ?_,
    fun c unread E rounds form => ?_⟩
  · have rounds : 0 < (ofFuel setting fuel).rounds := by
      -- without fuel no value is computed
      cases fuel with
      | zero => cases value
      | succ fuel => exact fuel.succ_pos
    have grows : m.Grows m₁ := by
      have confined := (confined_ofFuel setting fuel).eval scope form m
      rw [Eval.after, value] at confined
      exact confined.grows
    have owned' := unshadowed.owner? grows placed there owned
    obtain ⟨b, own, -⟩ := Machine.exists_own_of_owner? owned'
    have rebound := Machine.rebound_store own v
    refine ⟨b, _, own, ?_, rebound, ?_⟩
    · exact (step_assignment rounds scope name form m).trans (evalAssign_of_owner? owned value)
    · refine (step_symbol rounds scope name _).trans ?_
      rw [Eval.variable_eq, rebound.valueOf_eq owned' rfl]
      rfl
  · exact (step_assignment rounds scope name form m).trans (evalAssign_of_error unread form)

/-- A name that two modules have, written and read in one of them. -/
theorem evalAssign_writes_read_shared :
    let E := ofFuel ⟨{}, fun _ => none⟩
    let m := ((Interpreter.start {} fun _ => none).ask 30
      (.text "(module a) (define x :a) (module b) (define x :b)" "t")).2.machine
    let scope := m.session.scope
    let name : Name := .simple "x"
    m.Placed ∧ m.heap.scopes.Has scope ∧
      ∃ (owner : ScopeRef) (b : Binding) (m₂ : Machine),
        m.owner? scope name = .ok (some owner) ∧
        (E 2).eval scope (.bool true) m = .ok (.bool true) m ∧ m.Unshadowed scope name m ∧
        (E 3).eval scope (assignment name (.bool true)) m = .ok (.bool true) m₂ ∧
        m.Rebound owner "x" { b with value := .bool true } m₂ ∧
        (E 3).eval scope (.symbol name) m₂ = .ok (.bool true) m₂ := by
  intro E m scope name
  have steady : m.Steady := ((Interpreter.Reachable.start {} fun _ => none).ask 30 _).steady
  have there : m.heap.scopes.Has scope := steady.session.there
  have value : (E 2).eval scope (.bool true) m = .ok (.bool true) m := rfl
  have unshadowed := Machine.Unshadowed.refl m scope name
  have found : (m.owner? scope name).toOption.join.isSome := by decide +kernel
  have assigns := (evalAssign_writes_read ⟨{}, fun _ => none⟩ 2 steady.placed there name).2.1
  cases owned : m.owner? scope name with
  | error c =>
    rw [owned] at found
    cases found
  | ok owner? =>
    cases owner? with
    | none =>
      rw [owned] at found
      cases found
    | some owner =>
      obtain ⟨b, m₂, -, assigned, rebound, read⟩ := assigns owner _ _ m owned value unshadowed
      exact ⟨steady.placed, there, owner, b, m₂, rfl, value, unshadowed, assigned, rebound, read⟩

end Engine

end Lisp
