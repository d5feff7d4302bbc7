import Lisp.Proofs.Machine.Confinement
import Lisp.Proofs.Scope.Lexical

/-!
# What a run is watched for

Two things can happen while code runs that its surroundings may care about: the session is moved to
another module, and names get other bindings in scopes that were there before. A watch says which of
these are watched for. Here it is said what is known of a machine as long as nothing of that has
happened, and that the changes which a machine goes through keep it so, apart from those two.

## Main definitions

* `Machine.Inner` — scopes that are there and belong to no module
* `Watch` — what is watched for
* `Watch.Keeps` — nothing has happened

## Main results

* `Watch.keeps_newScope`, `Watch.keeps_define`, `Watch.keeps_makeModule`, … — changes
* `Watch.Keeps.inContext` — code that has run in another context
-/

namespace Lisp

namespace Machine

variable {m m' : Machine} {r : ScopeRef}

/-- A scope that is there and is neither the global one nor that of a module. -/
structure Inner (m : Machine) (r : ScopeRef) : Prop where
  there : r.index < m.heap.scopes.size
  global : r ≠ globalScope
  module : ∀ q, m.moduleScope q ≠ r

theorem Inner.mono (h : m.Inner r) (size : m.heap.scopes.size ≤ m'.heap.scopes.size)
    (modules : m'.heap.modules = m.heap.modules) : m'.Inner r where
  there := Nat.lt_of_lt_of_le h.there size
  global := h.global
  module q same := by
    refine h.module q ?_
    rw [← same]
    unfold moduleScope Heap.module
    rw [modules]

/-- A new module has a scope of its own. -/
theorem Inner.withModule (h : m.Inner r) (name : Name) : (m.withModule name).Inner r where
  there := by
    rw [scopes_size_withModule]
    exact Nat.lt_succ_of_lt h.there
  global := h.global
  module q same := by
    unfold moduleScope Heap.module at same
    change ((m.heap.modules.push ⟨name, m.heap.scopes.next⟩).getD q.index default).scope = r at same
    rw [Array.getD_eq_getD_getElem?, Array.getElem?_push] at same
    split at same
    · have there := h.there
      rw [← same] at there
      exact Nat.lt_irrefl _ there
    · refine h.module q ?_
      unfold moduleScope Heap.module
      rw [Array.getD_eq_getD_getElem?]
      exact same

/-- Where a definition goes that is not private is the scope of a module. -/
theorem moduleScope_of_target {name : Name} {metadata : Metadata} {q : Option ModuleRef}
    {scope : ScopeRef} (isPublic : metadata.flag "private" = false)
    (h : m.target scope name metadata = .ok (r, q)) : ∃ p, m.moduleScope p = r := by
  unfold target at h
  rw [isPublic, if_neg Bool.false_ne_true] at h
  split at h
  · cases h
    exact ⟨_, rfl⟩
  · split at h
    · cases h
      exact ⟨_, rfl⟩
    · cases h

theorem scope_of_target {name : Name} {metadata : Metadata} {q : Option ModuleRef}
    {scope : ScopeRef} (isPrivate : metadata.flag "private" = true)
    (h : m.target scope name metadata = .ok (r, q)) : scope = r := by
  unfold target at h
  rw [isPrivate, if_pos rfl] at h
  cases h
  rfl

end Machine

/-- What a run is watched for. -/
structure Watch where
  /-- Whether the session must not be moved to another module. -/
  session : Bool := false
  /-- The bindings that must not be written to: names in scopes. -/
  names : List (ScopeRef × String) := []

namespace Watch

variable {w : Watch} {m m' m'' : Machine}

/-- The bindings that are watched belong to scopes that no module has. -/
def Fits (w : Watch) (m : Machine) : Prop := ∀ p ∈ w.names, m.Inner p.1

/-- Nothing that is watched for has happened between two machines. -/
structure Keeps (w : Watch) (m m' : Machine) : Prop where
  inner : ∀ r, m.Inner r → m'.Inner r
  bound : ∀ p ∈ w.names, m'.heap.scopes.own? p.1 p.2 = m.heap.scopes.own? p.1 p.2
  dir : m'.context.dir = m.context.dir
  session : m'.session =
    { m.session with context.module := m'.session.context.module }
  module : w.session = true → m'.session.context.module = m.session.context.module

namespace Keeps

theorem refl (w : Watch) (m : Machine) : w.Keeps m m where
  inner _ h := h
  bound _ _ := rfl
  dir := rfl
  session := rfl
  module _ := rfl

theorem trans (h : w.Keeps m m') (h' : w.Keeps m' m'') : w.Keeps m m'' where
  inner r hr := h'.inner r (h.inner r hr)
  bound p hp := (h'.bound p hp).trans (h.bound p hp)
  dir := h'.dir.trans h.dir
  session := by rw [h'.session, h.session]
  module hw := (h'.module hw).trans (h.module hw)

theorem fits (h : w.Keeps m m') (fits : w.Fits m) : w.Fits m' :=
  fun p hp => h.inner p.1 (fits p hp)

/-- A change that has nothing to do with scopes, modules, the context and the session. -/
theorem of_same (scopes : m'.heap.scopes = m.heap.scopes)
    (modules : m'.heap.modules = m.heap.modules) (context : m'.context = m.context)
    (session : m'.session = m.session) : w.Keeps m m' where
  inner r hr := hr.mono (by rw [scopes]) modules
  bound p _ := by rw [scopes]
  dir := by rw [context]
  session := by rw [session]
  module _ := by rw [session]

/-- A change of scopes that leaves watched bindings as they are. -/
theorem of_scopes {f : Scopes → Scopes} (size : m.heap.scopes.size ≤ (f m.heap.scopes).size)
    (bound : ∀ p ∈ w.names, (f m.heap.scopes).own? p.1 p.2 = m.heap.scopes.own? p.1 p.2) :
    w.Keeps m (m.mapScopes f) where
  inner _ hr := hr.mono size rfl
  bound := bound
  dir := rfl
  session := rfl
  module _ := rfl

/-- The session is not moved to another module if that is watched for. -/
theorem session_eq (h : w.Keeps m m') (hw : w.session = true) : m'.session = m.session := by
  rw [h.session, h.module hw]

/-- Code may have run in another context. -/
theorem inContext {c : Context} (h : w.Keeps { m with context := c } m') :
    w.Keeps m { m' with context := m.context } where
  inner r hr := (h.inner r ⟨hr.there, hr.global, hr.module⟩ : m'.Inner r).mono (Nat.le_refl _) rfl
  bound := h.bound
  dir := rfl
  session := h.session
  module := h.module

end Keeps

/-- The same watch but for the session. -/
def idle (w : Watch) : Watch := { w with session := false }

theorem Keeps.idle (h : w.Keeps m m') : w.idle.Keeps m m' :=
  { h with module := fun hw => absurd hw Bool.false_ne_true }

/-! ### Changes of scopes -/

/-- A scope that is made is not watched. -/
theorem Fits.ne_next (fits : w.Fits m) {p : ScopeRef × String} (hp : p ∈ w.names) :
    p.1 ≠ m.heap.scopes.next :=
  fun same => Nat.lt_irrefl _ (same ▸ (fits p hp).there)

theorem keeps_newScope (fits : w.Fits m) (outer : ScopeRef) (ident : String)
    (bindings : Dict Binding) : w.Keeps m ((Eval.newScope outer ident bindings).after m) := by
  refine Keeps.of_scopes (f := fun s => (s.extendBy outer bindings).2.setIdent s.next ident) ?_
    fun p hp => (Scopes.own?_newScope ..).trans (if_neg (fits.ne_next hp))
  rw [Scopes.extendBy, Scopes.setIdent, Forest.size_update, Forest.size_push]
  exact Nat.le_succ _

/-- What is defined is not watched. -/
theorem keeps_define {r : ScopeRef} {name : String} (free : (r, name) ∉ w.names)
    (value : Option Value) (metadata : Option Metadata) :
    w.Keeps m ((Eval.define r name value metadata).after m) :=
  .of_scopes (f := (·.define r name value metadata)) (Nat.le_of_eq (Forest.size_update ..).symm)
    fun _ hp => Scopes.own?_define_of_ne (fun same => free (same ▸ hp)) value metadata

/-- What gets a new value is not watched. -/
theorem keeps_store {r : ScopeRef} {name : String} (free : (r, name) ∉ w.names) (v : Value) :
    w.Keeps m ((Eval.modifyScopes fun s => s.store r name v).after m) :=
  .of_scopes (f := (·.store r name v)) (Nat.le_of_eq (Forest.size_update ..).symm)
    fun _ hp => Scopes.own?_store_of_ne (fun same => free (same ▸ hp)) v

theorem keeps_setSource (r : ScopeRef) (source : String) :
    w.Keeps m (m.mapScopes (·.setSource r source)) :=
  .of_scopes (Nat.le_of_eq (Forest.size_update ..).symm)
    fun _ _ => Scopes.own?_update r.index (fun f => { f with source := some source }) fun _ => rfl

theorem keeps_setPosition (r : ScopeRef) (position : Text.Position) :
    w.Keeps m (m.mapScopes (·.setPosition r position)) :=
  .of_scopes (Nat.le_of_eq (Forest.size_update ..).symm)
    fun _ _ => Scopes.own?_update r.index (fun f => { f with position }) fun _ => rfl

/-- The names that are defined in a new scope are not watched. -/
theorem keeps_defineAll {r : ScopeRef} (free : ∀ p ∈ w.names, p.1 ≠ r)
    (entries : List (String × Value)) : w.Keeps m (m.mapScopes (Scopes.defineAll · r entries)) :=
  .of_scopes (Nat.le_of_eq (Scopes.size_defineAll r entries).symm)
    fun p hp => Scopes.own?_defineAll_of_notMem fun same => absurd same (free p hp)

/-! ### Modules -/

theorem keeps_withModule (fits : w.Fits m) (name : Name) : w.Keeps m (m.withModule name) where
  inner _ hr := hr.withModule name
  bound p hp := by
    -- the name of the module is defined in its scope, which is new
    have fresh : (p.1, p.2) ≠ (m.heap.scopes.next, "*module-name*") :=
      fun same => fits.ne_next hp (congrArg Prod.fst same)
    refine (Scopes.own?_define_of_ne fresh _ _).trans ?_
    exact (Scopes.own?_newScope ..).trans (if_neg (fits.ne_next hp))
  dir := rfl
  session := rfl
  module _ := rfl

theorem keeps_makeModule (fits : w.Fits m) (name : Name) :
    w.Keeps m ((Eval.makeModule name).after m) := by
  rw [Eval.after, Eval.makeModule_eq]
  -- the name of the module is defined globally as well, where nothing is watched
  exact (keeps_withModule fits name).trans
    (keeps_define (fun hp => (fits _ hp).global rfl) _ _)

theorem keeps_openModule (fits : w.Fits m) (name : Name) :
    w.Keeps m ((Eval.openModule name).after m) := by
  cases hmodule : m.module? name.text with
  | some r =>
    rw [Eval.after, Eval.openModule_of_some hmodule]
    exact .refl w m
  | none =>
    rw [Eval.after, Eval.openModule_of_none hmodule]
    exact keeps_makeModule fits name

theorem keeps_enter (r : ModuleRef) : w.Keeps m ((Eval.enter r).after m) where
  inner _ hr := hr.mono (Nat.le_refl _) rfl
  bound _ _ := rfl
  dir := rfl
  session := rfl
  module _ := rfl

/-! ### Other effects -/

/-- A definition goes to a module or, if it is private, to the scope it stands in. -/
theorem free_of_target (fits : w.Fits m) {scope r : ScopeRef} {name : Name} {metadata : Metadata}
    {q : Option ModuleRef}
    (free : metadata.flag "private" = true → (scope, name.base) ∉ w.names)
    (h : m.target scope name metadata = .ok (r, q)) : (r, name.base) ∉ w.names := by
  cases hflag : metadata.flag "private" with
  | true => exact Machine.scope_of_target hflag h ▸ free hflag
  | false =>
    obtain ⟨p, hp⟩ := Machine.moduleScope_of_target hflag h
    exact fun hr => (fits _ hr).module p hp

theorem keeps_defineVariable (fits : w.Fits m) {scope : ScopeRef} {name : Name}
    {metadata : Metadata}
    (free : metadata.flag "private" = true → (scope, name.base) ∉ w.names) (value : Value) :
    w.Keeps m ((Eval.defineVariable scope name value metadata).after m) := by
  unfold Eval.defineVariable
  simp only [Eval.after, bind, EStateM.bind, Eval.get_apply]
  cases htarget : m.target scope name metadata with
  | error c => exact .refl w m
  | ok target => exact keeps_define (free_of_target fits free htarget) _ _

theorem keeps_effect (fits : w.Fits m) {α : Type} {act : Eval α} (h : Eval.Effect act) :
    w.Keeps m (act.after m) := by
  cases h with
  | newScope outer ident bindings => exact keeps_newScope fits outer ident bindings
  | define scope name value isPublic =>
    exact keeps_defineVariable fits (fun hflag => by rw [hflag] at isPublic; cases isPublic) value
  | makeLambda scope operands source ident =>
    unfold Eval.makeLambda
    simp only [Eval.after, bind, EStateM.bind, Eval.heap, Eval.get_apply, Eval.pure_apply]
    cases Lambda.clauseTable m.heap operands source with
    | error c => exact .refl w m
    | ok clauses => exact .of_same rfl rfl rfl rfl
  | nameValue name v =>
    fun_cases Eval.nameValue name v with
    | case1 r =>
      simp only [Eval.after, bind, EStateM.bind, Eval.get_apply]
      split_ifs
      · exact .of_same rfl rfl rfl rfl
      · exact .refl w m
    | case2 => exact .refl w m
  | construct t args =>
    unfold Eval.construct
    simp only [Eval.after, bind, EStateM.bind, Eval.heap, Eval.get_apply, Eval.pure_apply]
    cases m.heap.instanceOf t args with
    | error c => exact .refl w m
    | ok o => exact .of_same rfl rfl rfl rfl
  | _ => exact .of_same rfl rfl rfl rfl

end Watch

end Lisp
