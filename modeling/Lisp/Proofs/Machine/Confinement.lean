import Lisp.Proofs.Eval.Comparison
import Lisp.Proofs.Machine.Growth
import Lisp.Proofs.Path

/-!
# What evaluation from inside leaves alone

Programs run inside a session. Whatever they do, they do not move it: the next form from outside
runs in the same scope as before, and only the module that it finds active may have changed. Scopes
that were there go on to belong to their sources. And what refers to modules goes on to refer to
modules that are there. All this is said of a machine and of what becomes of it later, so that code
which works in scopes of its own, such as that of a file, can be compared with where it started.

## Main definitions

* `Machine.Placed` — all modules that are referred to are there, and have their scopes
* `Machine.Confined` — what becomes of a machine from inside
* `Eval.Confined` — evaluations that leave the session where it is
* `Eval.confinement` — that, as a way to compare evaluations

## Main results

* `Eval.confined_bind_at`, `Eval.Confined.bind`, `Eval.confined_inContext` — how they compose
* `Eval.confined_newScope`, `Eval.confined_openModule`, … — the evaluations they are made of
-/

namespace Lisp

/-! ### Nothing gets fewer -/

theorem Kept.size_le {α : Type} {R : α → α → Prop} {xs ys : Array α} (h : Kept R xs ys) :
    xs.size ≤ ys.size := by
  by_contra hlt
  have hi : ys.size < xs.size := Nat.lt_of_not_le hlt
  obtain ⟨b, hb, -⟩ := h ys.size _ (Array.getElem?_eq_getElem hi)
  simp at hb

theorem Forest.get?_eq_none_iff {α : Type} {f : Forest α} {i : Nat} :
    f.get? i = none ↔ f.size ≤ i := by
  rw [get?, Option.map_eq_none_iff, Array.getElem?_eq_none_iff, size]

theorem Forest.Keeps.size_le {α : Type} {R : α → α → Prop} {f g : Forest α} (h : f.Keeps R g) :
    f.size ≤ g.size := by
  by_contra hlt
  have hi : g.size < f.size := Nat.lt_of_not_le hlt
  cases ha : f.get? g.size with
  | none =>
    rw [Forest.get?_eq_none_iff] at ha
    omega
  | some a =>
    obtain ⟨-, b, hb, -⟩ := h _ a ha
    simp [Forest.get?_eq_none_iff.2 (Nat.le_refl g.size)] at hb

namespace Scopes

variable {s : Scopes} {r e : ScopeRef}

/-! ### Sources -/

/-- The source that a scope belongs to. -/
def source? (s : Scopes) (r : ScopeRef) : Option String := (s.frame r).source

theorem source?_update (i : Nat) (g : Frame → Frame) (hg : ∀ f, (g f).source = f.source) :
    source? (Forest.update s i g) r = s.source? r := by
  unfold source? frame
  rw [Forest.get?_update]
  split
  · cases s.get? r.index with
    | none => rfl
    | some f => exact hg f
  · rfl

theorem source?_setIdent (e : ScopeRef) (ident : String) :
    (s.setIdent e ident).source? r = s.source? r :=
  source?_update e.index (fun f => { f with ident := some ident }) fun _ => rfl

theorem source?_push (hr : r.index < s.size) (parent : Option Nat) (f : Frame) :
    source? (Forest.push s parent f) r = s.source? r := by
  unfold source? frame
  rw [Forest.get?_push, if_neg (Nat.ne_of_lt hr)]

theorem source?_setSource_of_ne (h : e.index ≠ r.index) (source : String) :
    (s.setSource e source).source? r = s.source? r := by
  unfold source? frame setSource
  rw [Forest.get?_update, if_neg h]

theorem source?_setSource (h : r.index < s.size) (source : String) :
    (s.setSource r source).source? r = some source := by
  cases hf : s.get? r.index with
  | none =>
    rw [Forest.get?_eq_none_iff] at hf
    omega
  | some f =>
    unfold source? frame setSource
    rw [Forest.get?_update, if_pos rfl, hf, Option.map_some, Option.getD_some]

/-! ### The scope around a scope -/

theorem outer?_update (i : Nat) (g : Frame → Frame) :
    outer? (Forest.update s i g) r = s.outer? r :=
  congrArg (Option.map ScopeRef.mk) (Forest.parent?_update s i r.index g)

theorem outer?_push (h : e.index < s.size) (f : Frame) :
    outer? (Forest.push s (some e.index) f) s.next = some e :=
  congrArg (Option.map ScopeRef.mk) (Forest.parent?_push_self h f)

end Scopes

namespace Machine

variable {b m m' : Machine}

/-- A module is there. -/
def HasModule (m : Machine) (r : ModuleRef) : Prop := r.index < m.heap.modules.size

/-- All modules that are referred to are there, and so are their scopes. -/
structure Placed (m : Machine) : Prop where
  scopes : ∀ (i : Nat) (module : Module), m.heap.modules[i]? = some module →
    module.scope.index < m.heap.scopes.size
  registry : ∀ name r, m.module? name = some r → m.HasModule r
  lambdas : ∀ (i : Nat) (l : Lambda), m.heap.lambdas[i]? = some l →
    m.HasModule l.context.module
  context : m.HasModule m.context.module
  session : m.HasModule m.session.context.module

theorem Grows.scopes_size (h : b.Grows m) : b.heap.scopes.size ≤ m.heap.scopes.size :=
  h.scopes.size_le

/-- Scopes stay where they hang. -/
theorem Grows.outer? (h : b.Grows m) {r : ScopeRef} (hr : r.index < b.heap.scopes.size) :
    m.heap.scopes.outer? r = b.heap.scopes.outer? r := by
  cases hf : b.heap.scopes.get? r.index with
  | none =>
    rw [Forest.get?_eq_none_iff] at hf
    omega
  | some f => exact congrArg (Option.map ScopeRef.mk) (h.scopes r.index f hf).1

theorem HasModule.mono {r : ModuleRef} (hr : b.HasModule r) (h : b.Grows m) : m.HasModule r :=
  Nat.lt_of_lt_of_le hr h.modules.size_le

/-! ### A new module -/

theorem getElem?_withModule {name : Name} {i : Nat} {module : Module} :
    (m.withModule name).heap.modules[i]? = some module ↔
      i = m.heap.modules.size ∧ module = ⟨name, m.heap.scopes.next⟩ ∨
        m.heap.modules[i]? = some module := by
  change (m.heap.modules.push ⟨name, m.heap.scopes.next⟩)[i]? = some module ↔ _
  rw [Array.getElem?_push]
  split
  · next hi => simp [hi, eq_comm]
  · next hi => simp [hi]

theorem module?_withModule (m : Machine) (name : Name) (other : String) :
    (m.withModule name).module? other =
      if other = name.text then some ⟨m.heap.modules.size⟩ else m.module? other := by
  change (m.registry.insert name.text _).find? other = _
  rw [ModuleTree.find?_insert]
  simp only [Path.splitDots_inj]
  rfl

theorem scopes_size_withModule (m : Machine) (name : Name) :
    (m.withModule name).heap.scopes.size = m.heap.scopes.size + 1 :=
  (Forest.size_update ..).trans ((Forest.size_update ..).trans (Forest.size_push ..))

theorem modules_size_withModule (m : Machine) (name : Name) :
    (m.withModule name).heap.modules.size = m.heap.modules.size + 1 :=
  Array.size_push ..

theorem hasModule_withModule (m : Machine) (name : Name) :
    (m.withModule name).HasModule ⟨m.heap.modules.size⟩ :=
  Nat.lt_of_lt_of_eq (Nat.lt_succ_self _) (modules_size_withModule m name).symm

theorem HasModule.withModule {r : ModuleRef} (hr : m.HasModule r) (name : Name) :
    (m.withModule name).HasModule r :=
  Nat.lt_of_lt_of_eq (Nat.lt_succ_of_lt hr) (modules_size_withModule m name).symm

/-! ### Modules and their scopes -/

theorem getElem?_modules {r : ModuleRef} (hr : m.HasModule r) :
    m.heap.modules[r.index]? = some (m.heap.module r) := by
  rw [Array.getElem?_eq_getElem hr, Heap.module, Array.getD_eq_getD_getElem?,
    Array.getElem?_eq_getElem hr, Option.getD_some]

theorem Placed.moduleScope (h : m.Placed) {r : ModuleRef} (hr : m.HasModule r) :
    (m.moduleScope r).index < m.heap.scopes.size :=
  h.scopes r.index _ (getElem?_modules hr)

/-- A module that is there keeps its scope. -/
theorem Grows.moduleScope (h : b.Grows m) {r : ModuleRef} (hr : b.HasModule r) :
    m.moduleScope r = b.moduleScope r := by
  obtain ⟨module, hmodule, hsame⟩ := h.modules r.index _ (Array.getElem?_eq_getElem hr)
  unfold Machine.moduleScope Heap.module
  rw [Array.getD_eq_getD_getElem?, Array.getD_eq_getD_getElem?, hmodule,
    Array.getElem?_eq_getElem hr, Option.getD_some, Option.getD_some, hsame]

/-- Every lambda, also one that is not there, refers to a module that is. -/
theorem Placed.home (h : m.Placed) (r : LambdaRef) :
    m.HasModule (m.heap.lambda r).context.module := by
  cases hl : m.heap.lambdas[r.index]? with
  | some l =>
    have := h.lambdas r.index l hl
    rwa [Heap.lambda, Array.getD_eq_getD_getElem?, hl]
  | none =>
    rw [Heap.lambda, Array.getD_eq_getD_getElem?, hl]
    exact Nat.zero_lt_of_lt h.context

theorem Placed.setSource (h : m.Placed) (r : ScopeRef) (source : String) :
    (m.mapScopes (·.setSource r source)).Placed := by
  refine { h with scopes := fun i module hmodule => ?_ }
  exact Nat.lt_of_lt_of_eq (h.scopes i module hmodule) (Forest.size_update ..).symm

/-- What becomes of a machine from inside: it has grown, its scopes belong to the same sources, and
its session has at most another context. -/
structure Confined (b m : Machine) : Prop where
  evolves : b.Evolves m
  sources : ∀ r : ScopeRef, r.index < b.heap.scopes.size →
    m.heap.scopes.source? r = b.heap.scopes.source? r
  session : m.session = { b.session with context := m.session.context }
  placed : b.Placed → m.Placed

namespace Confined

theorem refl (m : Machine) : m.Confined m where
  evolves := .refl
  sources _ _ := rfl
  session := rfl
  placed := id

theorem grows (h : b.Confined m) : b.Grows m := h.evolves.grows

theorem trans (h : b.Confined m) (h' : m.Confined m') : b.Confined m' where
  evolves := h.evolves.trans h'.evolves
  sources r hr :=
    (h'.sources r (Nat.lt_of_lt_of_le hr h.grows.scopes_size)).trans (h.sources r hr)
  session := by rw [h'.session, h.session]
  placed hb := h'.placed (h.placed hb)

/-- A change that has nothing to do with scopes, modules and contexts. -/
theorem of_change (change : m.Change m') (scopes : m'.heap.scopes = m.heap.scopes)
    (session : m'.session = m.session)
    (placed : m.Placed → m'.Placed) : m.Confined m' where
  evolves := .single change
  sources r _ := by rw [scopes]
  session := by rw [session]
  placed := placed

/-- A change of scopes after which all scopes are there and belong to the same sources. -/
theorem of_scopes {f : Scopes → Scopes} (change : m.Change (m.mapScopes f))
    (size : m.heap.scopes.size ≤ (f m.heap.scopes).size)
    (sources : ∀ r : ScopeRef, r.index < m.heap.scopes.size →
      (f m.heap.scopes).source? r = m.heap.scopes.source? r) : m.Confined (m.mapScopes f) where
  evolves := .single change
  sources := sources
  session := rfl
  placed hm :=
    { hm with scopes := fun i module h => Nat.lt_of_lt_of_le (hm.scopes i module h) size }

/-- A change within one scope that leaves it its source. -/
theorem of_update (r : ScopeRef) (g : Frame → Frame) (hg : ∀ f, (g f).source = f.source)
    (change : m.Change (m.mapScopes (Forest.update · r.index g))) :
    m.Confined (m.mapScopes (Forest.update · r.index g)) := by
  refine of_scopes change ?_ fun e _ => ?_
  · rw [Forest.size_update]
  · rw [Scopes.source?_update r.index g hg]

theorem of_bindings {r : ScopeRef} {g : Dict Binding → Dict Binding}
    (change : m.Change (m.mapScopes (Scopes.modifyBindings · r g))) :
    m.Confined (m.mapScopes (Scopes.modifyBindings · r g)) :=
  of_update r (fun f => { f with bindings := g f.bindings }) (fun _ => rfl) change

/-- A scope that was not there at the start may get another source. -/
theorem setSource (h : b.Confined m) {r : ScopeRef} (fresh : b.heap.scopes.size ≤ r.index)
    (source : String) : b.Confined (m.mapScopes (·.setSource r source)) where
  evolves := h.evolves.tail (.source r source)
  sources e he := by
    have hne : r.index ≠ e.index := by omega
    exact (Scopes.source?_setSource_of_ne hne source).trans (h.sources e he)
  session := h.session
  placed hb := (h.placed hb).setSource r source

/-- Code may go on in the context of another module that is there. -/
theorem setContext (h : b.Confined m) {c : Context} (known : b.Placed → m.HasModule c.module) :
    b.Confined { m with context := c } where
  evolves := h.evolves.tail (.context c)
  sources := h.sources
  session := h.session
  placed hb := { h.placed hb with context := known hb }

/-- The session may go on in the context of another module that is there. -/
theorem setSession (h : b.Confined m) {c : Context} (known : b.Placed → m.HasModule c.module) :
    b.Confined { m with session := { b.session with context := c } } where
  evolves := h.evolves.tail (.session _)
  sources := h.sources
  session := rfl
  placed hb := { h.placed hb with session := known hb }

end Confined

end Machine

open Machine (Confined)

namespace Eval

variable {α β : Type} {m : Machine}

/-- The evaluation leaves the session where it is. -/
def Confined (act : Eval α) : Prop := ∀ m : Machine, m.Confined (act.after m)

/-! ### Composition -/

theorem get_apply (m : Machine) : (get : Eval Machine) m = .ok m m := rfl

theorem modify_apply (f : Machine → Machine) (m : Machine) :
    (modify f : Eval PUnit) m = .ok ⟨⟩ (f m) := rfl

theorem pure_apply (a : α) (m : Machine) : (pure a : Eval α) m = .ok a m := rfl

theorem confined_of_still {act : Eval α} (h : ∀ m, act.after m = m) : act.Confined := by
  intro m
  rw [h m]
  exact .refl m

theorem confined_pure (a : α) : Eval.Confined (pure a) := confined_of_still fun _ => rfl

theorem confined_throw (s : Signal) : Eval.Confined (α := α) (throw s) :=
  confined_of_still fun _ => rfl

/-- An evaluation that goes on after another one goes on where that one has ended. -/
theorem confined_bind_at {act : Eval α} {f : α → Eval β} (h : m.Confined (act.after m))
    (hf : ∀ a m', act m = .ok a m' → m'.Confined ((f a).after m')) :
    m.Confined (Eval.after (act >>= f) m) := by
  simp only [after, Bind.bind, EStateM.bind] at h hf ⊢
  cases hact : act m with
  | ok a m' =>
    simp only [hact] at h ⊢
    exact h.trans (hf a m' hact)
  | error s m' =>
    simp only [hact] at h ⊢
    exact h

theorem Confined.bind {act : Eval α} {f : α → Eval β} (h : act.Confined)
    (hf : ∀ a, (f a).Confined) : Eval.Confined (act >>= f) :=
  fun m => confined_bind_at (h m) fun a m' _ => hf a m'

/-- The outcome of an evaluation. -/
def outcome (act : Eval α) (m : Machine) : Except Signal α :=
  match act m with
  | .ok a _ => .ok a
  | .error s _ => .error s

theorem attempt_eq (act : Eval α) (m : Machine) :
    Eval.attempt act m = .ok (act.outcome m) (act.after m) := by
  unfold Eval.attempt outcome after
  cases act m with
  | ok a m' => rfl
  | error s m' => rfl

theorem after_of_eq {act : Eval α} {o : Except Signal α} {m' : Machine}
    (h : act m = Eval.ofOutcome o m') : act.after m = m' := by
  rw [after, h]
  cases o with
  | ok a => rfl
  | error s => rfl

theorem outcome_of_eq {act : Eval α} {o : Except Signal α} {m m' : Machine}
    (h : act m = Eval.ofOutcome o m') : act.outcome m = o := by
  rw [outcome, h]
  cases o with
  | ok a => rfl
  | error s => rfl

/-- The old context comes back however the evaluation ends. -/
theorem inContext_eq (c : Context) (act : Eval α) (m : Machine) :
    Eval.inContext c act m =
      .ok (act.outcome { m with context := c }, (act.after { m with context := c }).context)
        { act.after { m with context := c } with context := m.context } := by
  have h := attempt_eq act { m with context := c }
  unfold Eval.inContext
  simp only [bind, EStateM.bind, get_apply, modify_apply, pure_apply, h]

/-- An evaluation in the context of a module that is there. -/
theorem confined_inContext {act : Eval α} (h : act.Confined) {c : Context}
    (known : m.Placed → m.HasModule c.module) : m.Confined ((Eval.inContext c act).after m) := by
  rw [after, inContext_eq]
  have entered := ((Machine.Confined.refl m).setContext known).trans (h _)
  exact entered.setContext fun hm => hm.context.mono entered.grows

/-! ### Reading and failing -/

theorem confined_get : Eval.Confined get := confined_of_still fun _ => rfl

theorem confined_print (v : Value) : (Eval.print v).Confined := confined_of_still fun _ => rfl

theorem confined_fail (c : Cause) : (Eval.fail c : Eval α).Confined := confined_throw _

theorem confined_failForm (f : InvalidForm) : (Eval.failForm f : Eval α).Confined :=
  confined_fail _

theorem confined_failArity (callee expected : String) (actual : Nat) :
    (Eval.failArity callee expected actual : Eval α).Confined :=
  confined_fail _

theorem confined_ofCause (x : Except Cause α) : (Eval.ofCause x).Confined := by
  cases x with
  | ok a => exact confined_pure a
  | error c => exact confined_fail c

theorem confined_ofOutcome (x : Except Signal α) : (Eval.ofOutcome x).Confined := by
  cases x with
  | ok a => exact confined_pure a
  | error s => exact confined_throw s

/-- An evaluation that looks at the heap first goes on where it has looked. -/
theorem confined_heap_bind {f : Heap → Eval α}
    (h : ∀ m : Machine, m.Confined ((f m.heap).after m)) : Eval.Confined (Eval.heap >>= f) := h

theorem confined_context_bind {f : Context → Eval α}
    (h : ∀ m : Machine, m.Confined ((f m.context).after m)) :
    Eval.Confined (Eval.context >>= f) := h

/-- An evaluation that looks at the machine first goes on where it has looked. -/
theorem confined_get_bind {f : Machine → Eval α}
    (h : ∀ m : Machine, m.Confined ((f m).after m)) : Eval.Confined (get >>= f) := h

/-! ### Scopes -/

theorem confined_newScope (outer : ScopeRef) (ident : String) (bindings : Dict Binding) :
    (Eval.newScope outer ident bindings).Confined := by
  intro m
  refine Machine.Confined.of_scopes (.scope outer ident bindings) ?_ fun r hr => ?_
  · rw [Scopes.extendBy, Scopes.setIdent, Forest.size_update, Forest.size_push]
    exact Nat.le_succ _
  · rw [Scopes.source?_setIdent, Scopes.extendBy, Scopes.source?_push hr]

theorem size_newScope (m : Machine) (outer : ScopeRef) (ident : String) (bindings : Dict Binding) :
    ((Eval.newScope outer ident bindings).after m).heap.scopes.size = m.heap.scopes.size + 1 :=
  (Forest.size_update ..).trans (Forest.size_push ..)

theorem confined_define (r : ScopeRef) (name : String) (value : Option Value)
    (metadata : Option Metadata) : (Eval.define r name value metadata).Confined :=
  fun _ => .of_bindings (.define r name value metadata)

theorem confined_store (r : ScopeRef) (name : String) (value : Value) :
    (Eval.modifyScopes fun s => s.store r name value).Confined :=
  fun _ => .of_bindings (.store r name value)

theorem confined_setPosition (r : ScopeRef) (position : Text.Position) :
    (Eval.modifyScopes fun s => s.setPosition r position).Confined :=
  fun _ => .of_update r (fun f => { f with position }) (fun _ => rfl) (.position r position)

/-! ### Entities -/

theorem confined_fresh : Eval.fresh.Confined :=
  fun _ => .of_change .number rfl rfl fun hm => { hm with }

/-- A lambda takes the number that comes next and the context that it is made in; forms that are no
clauses make none. -/
theorem confined_makeLambda (scope : ScopeRef) (operands : List Value) (source : Value)
    (ident : Option Name) : (Eval.makeLambda scope operands source ident).Confined := by
  unfold Eval.makeLambda
  refine confined_heap_bind fun m => ?_
  cases Lambda.clauseTable m.heap operands source with
  | error c => exact .refl m
  | ok clauses =>
    let made : Lambda := { id := m.counter, clauses, scope, context := m.context, source, ident }
    refine Machine.Confined.of_change (.lambda made rfl) rfl rfl
      fun hm => { hm with lambdas := fun i l hl => ?_ }
    change (m.heap.lambdas.push made)[i]? = some l at hl
    rw [Array.getElem?_push] at hl
    split at hl
    · obtain rfl := Option.some.inj hl
      exact hm.context
    · exact hm.lambdas i l hl

/-- Only a lambda that has no name gets one. -/
theorem confined_nameValue (name : Name) (v : Value) : (Eval.nameValue name v).Confined := by
  fun_cases Eval.nameValue name v with
  | case1 r =>
    refine confined_get_bind fun m => ?_
    by_cases h : (m.heap.lambda r).ident.isNone
    · rw [if_pos h]
      refine Machine.Confined.of_change (.name r name (Option.isNone_iff_eq_none.1 h)) rfl rfl
        fun hm => { hm with lambdas := fun i l hl => ?_ }
      change (m.heap.lambdas.modify r.index _)[i]? = some l at hl
      rw [Array.getElem?_modify] at hl
      split at hl
      · obtain ⟨old, hold, rfl⟩ := Option.map_eq_some_iff.1 hl
        exact hm.lambdas i old hold
      · exact hm.lambdas i l hl
    · rw [if_neg h]
      exact .refl m
  | case2 => exact confined_pure ()

theorem confined_newProtocol (p : Protocol) : (Eval.newProtocol p).Confined :=
  fun _ => .of_change (.protocol p) rfl rfl fun hm => { hm with }

theorem confined_newType (name : Name) (fields : List String) :
    (Eval.newType { name, fields }).Confined :=
  fun _ => .of_change (.type name fields) rfl rfl fun hm => { hm with }

theorem confined_installMethod (t : TypeRef) (name : String) (method : Value) :
    (Eval.modifyType t (·.install name method)).Confined :=
  fun _ => .of_change (.install t name method) rfl rfl fun hm => { hm with }

theorem confined_install (t : TypeRef) (p : ProtocolRef) : (Eval.install t p).Confined :=
  fun _ => .of_change (.mixIn t p) rfl rfl fun hm => { hm with }

theorem confined_makeError (cls : ErrorClass) (message stack : String) :
    (Eval.makeError cls message stack).Confined :=
  fun _ => .of_change (.error cls message stack) rfl rfl fun hm => { hm with }

theorem confined_construct (t : TypeRef) (args : List Value) :
    (Eval.construct t args).Confined := by
  unfold Eval.construct
  refine confined_heap_bind fun m => ?_
  cases hmade : m.heap.instanceOf t args with
  | error c => exact .refl m
  | ok o => exact .of_change (.construct t args o hmade) rfl rfl fun hm => { hm with }

theorem confined_setField (r : ObjectRef) (field : String) (value : Value) :
    (Eval.setField r field value).Confined :=
  fun _ => .of_change (.field r field value) rfl rfl fun hm => { hm with }

theorem confined_printLine (line : String) : (Eval.printLine line).Confined :=
  fun _ => .of_change (.print line) rfl rfl fun hm => { hm with }

/-! ### Modules -/

/-- A module with a new scope is filed under a name that no module has. -/
theorem confined_withModule {name : Name} (missing : m.module? name.text = none) :
    m.Confined (m.withModule name) := by
  -- its scope, and its name in there
  let m₁ := (Eval.newScope globalScope name.text).after m
  let m₂ := (Eval.define m.heap.scopes.next "*module-name*" (some (.symbol name))).after m₁
  have opened : m.Confined m₂ := (confined_newScope globalScope name.text {} m).trans
    (confined_define _ "*module-name*" (some (.symbol name)) none m₁)
  refine ⟨.single (.module name missing), opened.sources, rfl, fun hm => ?_⟩
  refine ⟨fun i module hi => ?_, fun found r hr => ?_, fun i l hl => ?_, ?_, ?_⟩
  · rw [Machine.scopes_size_withModule]
    obtain ⟨-, rfl⟩ | hi := Machine.getElem?_withModule.1 hi
    · exact Nat.lt_succ_self _
    · exact Nat.lt_succ_of_lt (hm.scopes i module hi)
  · rw [Machine.module?_withModule] at hr
    split at hr
    · obtain rfl := Option.some.inj hr
      exact Machine.hasModule_withModule m name
    · exact (hm.registry found r hr).withModule name
  · exact (hm.lambdas i l hl).withModule name
  · exact hm.context.withModule name
  · exact hm.session.withModule name

/-- What is left to do when a module has been made: it is bound among the globals. -/
theorem makeModule_eq (name : Name) (m : Machine) :
    Eval.makeModule name m = .ok ⟨m.heap.modules.size⟩
      ((Eval.define globalScope name.text (some (.entity (.module ⟨m.heap.modules.size⟩)))
        (some (.ofPairs [("tag", .kw "module")]))).after (m.withModule name)) :=
  rfl

/-- A module is filed while there is still none of its name. -/
theorem confined_makeModule {name : Name} (missing : m.module? name.text = none) :
    m.Confined ((Eval.makeModule name).after m) ∧
      ((Eval.makeModule name).after m).HasModule ⟨m.heap.modules.size⟩ := by
  rw [Eval.after, makeModule_eq]
  exact ⟨(confined_withModule missing).trans (confined_define _ _ _ _ _),
    Machine.hasModule_withModule m name⟩

theorem openModule_of_some {name : Name} {r : ModuleRef} (h : m.module? name.text = some r) :
    Eval.openModule name m = .ok r m := by
  simp only [Eval.openModule, bind, EStateM.bind, get_apply, h, pure_apply]

theorem openModule_of_none {name : Name} (h : m.module? name.text = none) :
    Eval.openModule name m = Eval.makeModule name m := by
  simp only [Eval.openModule, bind, EStateM.bind, get_apply, h]

theorem confined_openModule (name : Name) : (Eval.openModule name).Confined := by
  intro m
  cases hmodule : m.module? name.text with
  | some r =>
    rw [after, openModule_of_some hmodule]
    exact .refl m
  | none =>
    rw [after, openModule_of_none hmodule]
    exact (confined_makeModule hmodule).1

/-- The module that is opened is there. -/
theorem hasModule_of_openModule {m' : Machine} {name : Name} {r : ModuleRef}
    (h : Eval.openModule name m = .ok r m') (hm : m'.Placed) : m'.HasModule r := by
  cases hmodule : m.module? name.text with
  | some found =>
    rw [openModule_of_some hmodule] at h
    cases h
    exact hm.registry _ _ hmodule
  | none =>
    rw [openModule_of_none hmodule] at h
    cases h
    exact (confined_makeModule hmodule).2

/-! ### Where code runs -/

/-- Code goes on in a module that is there. -/
theorem confined_enter {r : ModuleRef} (known : m.Placed → m.HasModule r) :
    m.Confined ((Eval.enter r).after m) :=
  (Machine.Confined.refl m).setContext (c := { m.context with module := r }) known

/-! ### Comparing -/

theorem confined_defineVariable (scope : ScopeRef) (name : Name) (value : Value)
    (metadata : Metadata) : (Eval.defineVariable scope name value metadata).Confined := by
  unfold Eval.defineVariable
  refine confined_get.bind fun m => ?_
  refine (confined_ofCause _).bind fun target => ?_
  exact confined_define _ _ _ _

theorem confined_effect {act : Eval α} (h : Effect act) : act.Confined := by
  cases h with
  | newScope outer ident bindings => exact confined_newScope outer ident bindings
  | makeLambda scope operands source ident => exact confined_makeLambda scope operands source ident
  | nameValue name v => exact confined_nameValue name v
  | newProtocol p => exact confined_newProtocol p
  | newType name fields => exact confined_newType name fields
  | installMethod t name method => exact confined_installMethod t name method
  | install t p => exact confined_install t p
  | makeError cls message stack => exact confined_makeError cls message stack
  | construct t args => exact confined_construct t args
  | setField r field value => exact confined_setField r field value
  | fresh => exact confined_fresh
  | printLine line => exact confined_printLine line
  | define scope name value isPublic => exact confined_defineVariable scope name value _

/-- Evaluations are looked at for whether they leave the session where it is. There are no two of
them to be told apart. -/
def confinement : Comparison where
  Rel m _ act := m.Confined (act.after m)
  rel_pure := confined_pure
  rel_throw := confined_throw
  rel_get := confined_get
  rel_bind := confined_bind_at
  rel_attempt h _ rest := by
    refine confined_bind_at ?_ fun o m' _ => rest o m'
    rw [after, attempt_eq]
    exact h
  rel_effect := confined_effect

end Eval

end Lisp
