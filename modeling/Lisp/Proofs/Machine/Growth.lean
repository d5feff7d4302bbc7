import Lisp.Proofs.Forest
import Lisp.Proofs.Machine.Change
import Lisp.Proofs.ModuleTree

/-!
# What stays while a machine changes

Machines only grow: whatever is there stays in its place, and it changes in a few ways only. Scopes
stay where they hang and lose no name; lambdas keep everything but may get a name once; types keep
their fields and lose no method; objects keep their types and lose no field; modules stay filed
under their names. Together with growth goes an invariant: no two lambdas have the same number, and
every object has the fields that its type declares.

## Main definitions

* `Kept`, `Forest.Keeps` — everything stays in its place
* `Frame.Grows`, `Lambda.Grows`, `TypeInfo.Grows`, `Object.Grows` — what may happen to an entity
* `Machine.Grows` — what may happen to a machine
* `Machine.Sound` — the invariant

## Main results

* `Machine.Change.grows`, `Machine.Change.sound` — one change
* `Machine.Evolves.grows`, `Machine.Evolves.sound` — any number of changes
-/

namespace Lisp

variable {α : Type}

/-! ### Places -/

/-- Every element stays in its place, in a relation to what it has been. -/
def Kept (R : α → α → Prop) (xs ys : Array α) : Prop :=
  ∀ (i : Nat) (a : α), xs[i]? = some a → ∃ b, ys[i]? = some b ∧ R a b

namespace Kept

variable {R : α → α → Prop} {xs ys zs : Array α}

theorem refl (hR : ∀ a, R a a) (xs : Array α) : Kept R xs xs := by
  intro i a ha
  exact ⟨a, ha, hR a⟩

theorem trans (hR : ∀ {a b c}, R a b → R b c → R a c) (h : Kept R xs ys) (h' : Kept R ys zs) :
    Kept R xs zs := by
  intro i a ha
  obtain ⟨b, hb, hab⟩ := h i a ha
  obtain ⟨c, hc, hbc⟩ := h' i b hb
  exact ⟨c, hc, hR hab hbc⟩

theorem push (hR : ∀ a, R a a) (xs : Array α) (x : α) : Kept R xs (xs.push x) := by
  intro i a ha
  have hi : i < xs.size := (Array.getElem?_eq_some_iff.1 ha).1
  refine ⟨a, ?_, hR a⟩
  rw [Array.getElem?_push, if_neg (by omega)]
  exact ha

theorem modify (hR : ∀ a, R a a) (i : Nat) (f : α → α) (hf : ∀ a, xs[i]? = some a → R a (f a)) :
    Kept R xs (xs.modify i f) := by
  intro j a ha
  rw [Array.getElem?_modify]
  by_cases hij : i = j
  · subst hij
    rw [if_pos rfl, ha]
    exact ⟨f a, rfl, hf a ha⟩
  · rw [if_neg hij]
    exact ⟨a, ha, hR a⟩

/-- Where nothing is new, everything was there before. -/
theorem exists_before (h : Kept R xs ys) (hsize : ys.size = xs.size) {i : Nat} {b : α}
    (hb : ys[i]? = some b) : ∃ a, xs[i]? = some a ∧ R a b := by
  have hi : i < ys.size := (Array.getElem?_eq_some_iff.1 hb).1
  have ha : xs[i]? = some xs[i] := Array.getElem?_eq_getElem (by omega)
  obtain ⟨b', hb', hR⟩ := h i _ ha
  rw [hb, Option.some.injEq] at hb'
  subst hb'
  exact ⟨_, ha, hR⟩

end Kept

namespace Forest

variable {R : α → α → Prop} {f g k : Forest α}

/-- Every node stays where it hangs, and what it carries in a relation to what it has carried. -/
def Keeps (R : α → α → Prop) (f g : Forest α) : Prop :=
  ∀ i a, f.get? i = some a → g.parent? i = f.parent? i ∧ ∃ b, g.get? i = some b ∧ R a b

theorem Keeps.refl (hR : ∀ a, R a a) (f : Forest α) : f.Keeps R f := by
  intro i a ha
  exact ⟨rfl, a, ha, hR a⟩

theorem Keeps.trans (hR : ∀ {a b c}, R a b → R b c → R a c) (h : f.Keeps R g) (h' : g.Keeps R k) :
    f.Keeps R k := by
  intro i a ha
  obtain ⟨hfg, b, hb, hab⟩ := h i a ha
  obtain ⟨hgk, c, hc, hbc⟩ := h' i b hb
  exact ⟨hgk.trans hfg, c, hc, hR hab hbc⟩

theorem Keeps.push (hR : ∀ a, R a a) (f : Forest α) (parent : Option Nat) (a : α) :
    f.Keeps R (f.push parent a) := by
  intro i b hb
  obtain ⟨hget, hparent⟩ := get?_push_of_some hb parent a
  exact ⟨hparent, b, hget, hR b⟩

theorem Keeps.update (hR : ∀ a, R a a) (f : Forest α) (i : Nat) {step : α → α}
    (hstep : ∀ a, R a (step a)) : f.Keeps R (f.update i step) := by
  intro j a ha
  refine ⟨parent?_update f i j step, ?_⟩
  rw [get?_update, ha]
  by_cases hij : i = j
  · rw [if_pos hij]
    exact ⟨step a, rfl, hstep a⟩
  · rw [if_neg hij]
    exact ⟨a, rfl, hR a⟩

end Forest

/-! ### Names in dictionaries -/

namespace Dict

variable {β : Type}

theorem contains_insert (d : Dict β) (k j : String) (v : β) :
    (d.insert k v).contains j = (decide (j = k) || d.contains j) := by
  unfold contains
  rw [get?_insert]
  by_cases h : j = k
  · simp [h]
  · simp [h]

theorem contains_insert_of_contains {d : Dict β} {j : String} (h : d.contains j) (k : String)
    (v : β) : (d.insert k v).contains j := by
  rw [contains_insert, h, Bool.or_true]

theorem contains_foldl_insert {ps : List (String × β)} {d : Dict β} {k : String}
    (h : d.contains k ∨ k ∈ ps.map (·.1)) :
    (ps.foldl (fun d p => d.insert p.1 p.2) d).contains k := by
  induction ps generalizing d with
  | nil => simpa using h
  | cons p ps ih =>
    rw [List.foldl_cons]
    apply ih
    rw [contains_insert]
    simp only [List.map_cons, List.mem_cons] at h
    grind

theorem contains_ofPairs {ps : List (String × β)} {k : String} (h : k ∈ ps.map (·.1)) :
    (ofPairs ps).contains k :=
  contains_foldl_insert (.inr h)

section Pairs

variable {ps : List (String × β)} {k : String}

/-- Of several values for one text, the last is kept. -/
theorem get?_foldl_insert (d : Dict β) (ps : List (String × β)) (k : String) :
    (ps.foldl (fun d p => d.insert p.1 p.2) d).get? k = (ps.reverse.lookup k).or (d.get? k) := by
  induction ps generalizing d with
  | nil => rfl
  | cons p ps ih =>
    rw [List.foldl_cons, ih, get?_insert, List.reverse_cons, List.lookup_append, Option.or_assoc,
      lookup_cons_eq_ite]
    by_cases hk : k = p.1
    · rw [if_pos hk, if_pos hk, Option.some_or]
    · rw [if_neg hk, if_neg hk, List.lookup_nil, Option.none_or]

theorem lookup_eq_none_of_ne (h : ∀ p ∈ ps, p.1 ≠ k) : ps.lookup k = none :=
  List.lookup_eq_none_iff.2 fun p hp => by simpa using (h p hp).symm

theorem get?_ofPairs_of_last {i : Nat} {b : β} (here : ps[i]? = some (k, b))
    (last : ∀ j, i < j → ∀ p, ps[j]? = some p → p.1 ≠ k) : (ofPairs ps).get? k = some b := by
  have later : (ps.drop (i + 1)).reverse.lookup k = none := by
    refine lookup_eq_none_of_ne fun p hp => ?_
    obtain ⟨j, hj⟩ := List.mem_iff_getElem?.1 (List.mem_reverse.1 hp)
    rw [List.getElem?_drop] at hj
    exact last (i + 1 + j) (by omega) p hj
  obtain ⟨hi, hget⟩ := List.getElem?_eq_some_iff.1 here
  have split : ps = ps.take i ++ (k, b) :: ps.drop (i + 1) := by
    rw [← hget, List.getElem_cons_drop, List.take_append_drop]
  rw [ofPairs, get?_foldl_insert, split, List.reverse_append, List.reverse_cons,
    List.append_assoc, List.lookup_append, later, List.singleton_append, lookup_cons_eq_ite,
    if_pos rfl]
  rfl

theorem get?_ofPairs_of_ne (h : ∀ p ∈ ps, p.1 ≠ k) : (ofPairs ps).get? k = none := by
  rw [ofPairs, get?_foldl_insert,
    lookup_eq_none_of_ne fun p hp => h p (List.mem_reverse.1 hp)]
  rfl

theorem mem_of_get?_ofPairs {b : β} (h : (ofPairs ps).get? k = some b) : (k, b) ∈ ps := by
  rw [ofPairs, get?_foldl_insert] at h
  cases hlook : ps.reverse.lookup k with
  | none =>
    rw [hlook] at h
    cases h
  | some c =>
    rw [hlook, Option.some_or, Option.some.injEq] at h
    obtain ⟨before, after, split, -⟩ := List.lookup_eq_some_iff.1 hlook
    rw [← List.mem_reverse, split, h]
    simp

end Pairs

end Dict

namespace Scopes

variable {names : List String} {values : List Value} {n : String}

/-- Of several values for one name, the last is bound. -/
theorem get?_bindAll_of_last {i : Nat} {v : Value} (hname : names[i]? = some n)
    (hvalue : values[i]? = some v) (last : ∀ j, i < j → names[j]? ≠ some n) :
    (bindAll names values).get? n = some ⟨v, none⟩ := by
  refine Dict.get?_ofPairs_of_last (i := i) ?_ fun j hj p hp => ?_
  · have both : (names.zip values)[i]? = some (n, v) :=
      List.getElem?_zip_eq_some.2 ⟨hname, hvalue⟩
    rw [List.getElem?_map, both, Option.map_some]
  · rw [List.getElem?_map, Option.map_eq_some_iff] at hp
    obtain ⟨⟨other, u⟩, hother, rfl⟩ := hp
    rintro rfl
    exact last j hj (List.getElem?_zip_eq_some.1 hother).1

theorem get?_bindAll_of_notMem (h : n ∉ names) : (bindAll names values).get? n = none := by
  refine Dict.get?_ofPairs_of_ne fun p hp => ?_
  obtain ⟨⟨other, v⟩, hother, rfl⟩ := List.mem_map.1 hp
  rintro rfl
  exact h (List.of_mem_zip hother).1

end Scopes

/-! ### Entities -/

/-- A scope loses no name. -/
structure Frame.Grows (f g : Frame) : Prop where
  bindings : ∀ name, f.bindings.contains name → g.bindings.contains name

/-- A lambda keeps everything but its name, and its name if it has one. -/
structure Lambda.Grows (l l' : Lambda) : Prop where
  id : l'.id = l.id
  clauses : l'.clauses = l.clauses
  scope : l'.scope = l.scope
  context : l'.context = l.context
  source : l'.source = l.source
  ident : ∀ name, l.ident = some name → l'.ident = some name

/-- A type keeps its name and its fields, loses no method, and gets protocols at the end only. -/
structure TypeInfo.Grows (t t' : TypeInfo) : Prop where
  name : t'.name = t.name
  fields : t'.fields = t.fields
  methods : ∀ name, t.methods.contains name → t'.methods.contains name
  mixins : t.mixins <+: t'.mixins

/-- An object keeps its type and loses no field. -/
structure Object.Grows (o o' : Object) : Prop where
  type : o'.type = o.type
  fields : ∀ name, o.fields.contains name → o'.fields.contains name

theorem Frame.Grows.refl (f : Frame) : f.Grows f := ⟨fun _ h => h⟩

theorem Frame.Grows.trans {f g k : Frame} (h : f.Grows g) (h' : g.Grows k) : f.Grows k :=
  ⟨fun name hname => h'.bindings name (h.bindings name hname)⟩

theorem Lambda.Grows.refl (l : Lambda) : l.Grows l := ⟨rfl, rfl, rfl, rfl, rfl, fun _ h => h⟩

theorem Lambda.Grows.trans {l₁ l₂ l₃ : Lambda} (h : l₁.Grows l₂) (h' : l₂.Grows l₃) :
    l₁.Grows l₃ where
  id := h'.id.trans h.id
  clauses := h'.clauses.trans h.clauses
  scope := h'.scope.trans h.scope
  context := h'.context.trans h.context
  source := h'.source.trans h.source
  ident name hname := h'.ident name (h.ident name hname)

theorem TypeInfo.Grows.refl (t : TypeInfo) : t.Grows t :=
  ⟨rfl, rfl, fun _ h => h, List.prefix_refl _⟩

theorem TypeInfo.Grows.trans {t₁ t₂ t₃ : TypeInfo} (h : t₁.Grows t₂) (h' : t₂.Grows t₃) :
    t₁.Grows t₃ where
  name := h'.name.trans h.name
  fields := h'.fields.trans h.fields
  methods name hname := h'.methods name (h.methods name hname)
  mixins := h.mixins.trans h'.mixins

theorem Object.Grows.refl (o : Object) : o.Grows o := ⟨rfl, fun _ h => h⟩

theorem Object.Grows.trans {o₁ o₂ o₃ : Object} (h : o₁.Grows o₂) (h' : o₂.Grows o₃) :
    o₁.Grows o₃ where
  type := h'.type.trans h.type
  fields name hname := h'.fields name (h.fields name hname)

theorem TypeInfo.grows_install (t : TypeInfo) (name : String) (method : Value) :
    t.Grows (t.install name method) where
  name := rfl
  fields := rfl
  methods _ h := Dict.contains_insert_of_contains h name method
  mixins := List.prefix_refl _

/-- Methods are installed one by one before the name of the protocol is noted. -/
theorem TypeInfo.grows_mixIn (t : TypeInfo) (p : Protocol) : t.Grows (t.mixIn p) := by
  have hmethods (entries : List (String × Value)) (t : TypeInfo) :
      t.Grows (entries.foldl (fun t e => t.install e.1 e.2) t) := by
    induction entries generalizing t with
    | nil => exact .refl t
    | cons e entries ih =>
      rw [List.foldl_cons]
      exact (t.grows_install e.1 e.2).trans (ih _)
  have h := hmethods p.methods t
  exact ⟨h.name, h.fields, h.methods, h.mixins.trans (List.prefix_append _ _)⟩

/-- The object has a type, and every field that the type declares. -/
def Heap.Complete (h : Heap) (o : Object) : Prop :=
  ∃ t, h.types.get? o.type.index = some t ∧ ∀ field ∈ t.fields, o.fields.contains field

/-- Types keep their fields and objects do not lose any, so that objects stay complete. -/
theorem Heap.Complete.mono {h h' : Heap} {o o' : Object} (hc : h.Complete o)
    (htypes : h.types.Keeps TypeInfo.Grows h'.types) (ho : o.Grows o') : h'.Complete o' := by
  obtain ⟨t, ht, hfields⟩ := hc
  obtain ⟨-, t', ht', hgrows⟩ := htypes _ t ht
  refine ⟨t', ?_, fun field hfield => ?_⟩
  · rw [ho.type]
    exact ht'
  · rw [hgrows.fields] at hfield
    exact ho.fields field (hfields field hfield)

theorem Heap.complete_of_instanceOf {h : Heap} {t : TypeRef} {args : List Value} {o : Object}
    (made : h.instanceOf t args = .ok o) : h.Complete o := by
  unfold Heap.instanceOf at made
  simp only at made
  -- an error without arguments gets an empty message, but only the number of values counts
  generalize (if (args.isEmpty && h.isSubtype t ErrorClass.error.ref) = true then
    [Value.string ""] else args) = values at made
  cases htype : h.types.get? t.index with
  | none => simp [htype] at made
  | some type =>
    simp only [htype] at made
    by_cases hlength : values.length = type.fields.length
    · rw [if_pos hlength, Except.ok.injEq] at made
      subst made
      refine ⟨type, htype, fun field hfield => Dict.contains_ofPairs ?_⟩
      rwa [List.map_fst_zip (by omega)]
    · rw [if_neg hlength] at made
      simp at made

/-! ### Machines -/

namespace Machine

/-- A machine becomes another one without losing anything. -/
structure Grows (m m' : Machine) : Prop where
  scopes : m.heap.scopes.Keeps Frame.Grows m'.heap.scopes
  lambdas : Kept Lambda.Grows m.heap.lambdas m'.heap.lambdas
  protocols : Kept Eq m.heap.protocols m'.heap.protocols
  types : m.heap.types.Keeps TypeInfo.Grows m'.heap.types
  objects : Kept Object.Grows m.heap.objects m'.heap.objects
  modules : Kept Eq m.heap.modules m'.heap.modules
  counter : m.counter ≤ m'.counter
  registry : ∀ name r, m.module? name = some r → m'.module? name = some r

theorem Grows.refl (m : Machine) : m.Grows m where
  scopes := .refl .refl _
  lambdas := .refl .refl _
  protocols := .refl .refl _
  types := .refl .refl _
  objects := .refl .refl _
  modules := .refl .refl _
  counter := Nat.le_refl _
  registry _ _ h := h

theorem Grows.trans {m₁ m₂ m₃ : Machine} (h : m₁.Grows m₂) (h' : m₂.Grows m₃) : m₁.Grows m₃ where
  scopes := h.scopes.trans .trans h'.scopes
  lambdas := h.lambdas.trans .trans h'.lambdas
  protocols := h.protocols.trans .trans h'.protocols
  types := h.types.trans .trans h'.types
  objects := h.objects.trans .trans h'.objects
  modules := h.modules.trans .trans h'.modules
  counter := Nat.le_trans h.counter h'.counter
  registry name r hr := h'.registry name r (h.registry name r hr)

theorem grows_mapScopes {m : Machine} {f : Scopes → Scopes}
    (h : m.heap.scopes.Keeps Frame.Grows (f m.heap.scopes)) : m.Grows (m.mapScopes f) :=
  { Grows.refl m with scopes := h }

/-- Changing the bindings of a scope costs nothing as long as its names stay. -/
theorem grows_modifyBindings (m : Machine) (r : ScopeRef) {g : Dict Binding → Dict Binding}
    (h : ∀ d name, d.contains name → (g d).contains name) :
    m.Grows (m.mapScopes (Scopes.modifyBindings · r g)) :=
  grows_mapScopes (.update .refl _ _ fun f => ⟨h f.bindings⟩)

theorem grows_lambdas {m : Machine} {lambdas : Array Lambda}
    (h : Kept Lambda.Grows m.heap.lambdas lambdas) : m.Grows { m with heap.lambdas := lambdas } :=
  { Grows.refl m with lambdas := h }

theorem grows_types {m : Machine} {types : Forest TypeInfo}
    (h : m.heap.types.Keeps TypeInfo.Grows types) : m.Grows { m with heap.types := types } :=
  { Grows.refl m with types := h }

theorem grows_objects {m : Machine} {objects : Array Object}
    (h : Kept Object.Grows m.heap.objects objects) : m.Grows { m with heap.objects := objects } :=
  { Grows.refl m with objects := h }

theorem grows_newScope (m : Machine) (outer : ScopeRef) (ident : String)
    (bindings : Dict Binding) :
    m.Grows (m.mapScopes fun s => (s.extendBy outer bindings).2.setIdent s.next ident) := by
  refine grows_mapScopes ?_
  -- the scope is there before it gets its name
  have hpush := Forest.Keeps.push Frame.Grows.refl m.heap.scopes (some outer.index)
    { bindings, source := (m.heap.scopes.frame outer).source }
  exact hpush.trans .trans (.update .refl _ _ fun f => ⟨fun _ h => h⟩)

theorem grows_define (m : Machine) (r : ScopeRef) (name : String) (value : Option Value)
    (metadata : Option Metadata) : m.Grows (m.mapScopes (·.define r name value metadata)) := by
  unfold Scopes.define
  refine grows_modifyBindings m r fun d other hother => ?_
  exact Dict.contains_insert_of_contains hother _ _

/-- No change loses anything. -/
theorem Change.grows {m m' : Machine} (h : m.Change m') : m.Grows m' := by
  cases h with
  | scope outer ident bindings => exact grows_newScope m outer ident bindings
  | define r name value metadata => exact grows_define m r name value metadata
  | store r name value =>
    unfold Scopes.store
    refine grows_modifyBindings m r fun d other hother => ?_
    -- a name that is not bound there is not bound by storing either
    cases d.get? name with
    | none => exact hother
    | some old => exact Dict.contains_insert_of_contains hother _ _
  | source r source => exact grows_mapScopes (.update .refl _ _ fun f => ⟨fun _ h => h⟩)
  | position r position => exact grows_mapScopes (.update .refl _ _ fun f => ⟨fun _ h => h⟩)
  | number => exact { Grows.refl m with counter := Nat.le_succ _ }
  | lambda l fresh =>
    exact { Grows.refl m with lambdas := .push .refl _ l, counter := Nat.le_succ _ }
  | name r name nameless =>
    refine grows_lambdas (.modify .refl _ _ fun l hl => ⟨rfl, rfl, rfl, rfl, rfl, ?_⟩)
    -- a lambda that has a name is not the one that gets it
    have hr : m.heap.lambda r = l := by simp [Heap.lambda, Array.getD_eq_getD_getElem?, hl]
    intro other hother
    rw [hr, hother] at nameless
    exact absurd nameless (Option.some_ne_none other)
  | protocol p => exact { Grows.refl m with protocols := .push .refl _ p }
  | type name fields => exact grows_types (.push .refl _ _ _)
  | install t name method => exact grows_types (.update .refl _ _ (·.grows_install name method))
  | mixIn t p => exact grows_types (.update .refl _ _ (·.grows_mixIn _))
  | construct t args o made => exact grows_objects (.push .refl _ o)
  | error cls message stack => exact grows_objects (.push .refl _ _)
  | field r field value =>
    refine grows_objects (.modify .refl _ _ fun o _ => ⟨rfl, fun other hother => ?_⟩)
    exact Dict.contains_insert_of_contains hother field value
  | module name missing =>
    have opened := (grows_newScope m globalScope name.text {}).trans
      (grows_define _ m.heap.scopes.next "*module-name*" (some (.symbol name)) none)
    exact { Grows.refl m with
      scopes := opened.scopes
      modules := .push .refl _ _
      registry := fun _ _ found => ModuleTree.find?_insert_of_some missing found }
  | context c => exact { Grows.refl m with }
  | session top => exact { Grows.refl m with }
  | print line => exact { Grows.refl m with }

/-- Whatever is changed, and however often, nothing is lost. -/
theorem Evolves.grows {m m' : Machine} (h : m.Evolves m') : m.Grows m' := by
  induction h with
  | refl => exact .refl m
  | tail _ hchange ih => exact ih.trans hchange.grows

/-- What holds of every machine: lambdas have numbers of their own, taken before; the error classes
are there; and no object lacks a field that its type declares. -/
structure Sound (m : Machine) : Prop where
  taken : ∀ (i : Nat) (l : Lambda), m.heap.lambdas[i]? = some l → l.id < m.counter
  distinct : ∀ (i j : Nat) (l l' : Lambda), m.heap.lambdas[i]? = some l →
    m.heap.lambdas[j]? = some l' → l.id = l'.id → i = j
  errorClasses : ∀ c : ErrorClass,
    ∃ t, m.heap.types.get? c.ref.index = some t ∧ t.fields = ["message"]
  objects : ∀ (i : Nat) (o : Object), m.heap.objects[i]? = some o → m.heap.Complete o

/-- Growth without new lambdas and objects keeps the invariant. -/
theorem Sound.mono {m m' : Machine} (hm : m.Sound) (h : m.Grows m')
    (hlambdas : m'.heap.lambdas.size = m.heap.lambdas.size)
    (hobjects : m'.heap.objects.size = m.heap.objects.size) : m'.Sound where
  taken i l' hl' := by
    obtain ⟨l, hl, hgrows⟩ := h.lambdas.exists_before hlambdas hl'
    rw [hgrows.id]
    exact Nat.lt_of_lt_of_le (hm.taken i l hl) h.counter
  distinct i j l' k' hl' hk' hid := by
    obtain ⟨l, hl, hlgrows⟩ := h.lambdas.exists_before hlambdas hl'
    obtain ⟨k, hk, hkgrows⟩ := h.lambdas.exists_before hlambdas hk'
    rw [hlgrows.id, hkgrows.id] at hid
    exact hm.distinct i j l k hl hk hid
  errorClasses c := by
    obtain ⟨t, ht, hfields⟩ := hm.errorClasses c
    obtain ⟨-, t', ht', hgrows⟩ := h.types _ t ht
    exact ⟨t', ht', hgrows.fields.trans hfields⟩
  objects i o' ho' := by
    obtain ⟨o, ho, hgrows⟩ := h.objects.exists_before hobjects ho'
    exact (hm.objects i o ho).mono h.types hgrows

/-- A new object keeps the invariant if it has what its type declares. -/
theorem Sound.pushObject {m : Machine} (hm : m.Sound) {o : Object} (ho : m.heap.Complete o) :
    Sound { m with heap.objects := m.heap.objects.push o } where
  taken := hm.taken
  distinct := hm.distinct
  errorClasses := hm.errorClasses
  objects i o' ho' := by
    have hcomplete : m.heap.Complete o' := by
      rw [Array.getElem?_push] at ho'
      by_cases hi : i = m.heap.objects.size
      · rw [if_pos hi, Option.some.injEq] at ho'
        exact ho' ▸ ho
      · rw [if_neg hi] at ho'
        exact hm.objects i o' ho'
    exact hcomplete

/-- A new lambda keeps the invariant if it takes the next number: all others have taken theirs. -/
theorem Sound.pushLambda {m : Machine} (hm : m.Sound) {l : Lambda} (fresh : l.id = m.counter) :
    Sound { m with counter := m.counter + 1, heap.lambdas := m.heap.lambdas.push l } := by
  have hpush (i : Nat) (k : Lambda) (hk : (m.heap.lambdas.push l)[i]? = some k) :
      i = m.heap.lambdas.size ∧ k.id = m.counter ∨
        m.heap.lambdas[i]? = some k ∧ k.id < m.counter := by
    rw [Array.getElem?_push] at hk
    by_cases hi : i = m.heap.lambdas.size
    · rw [if_pos hi, Option.some.injEq] at hk
      exact .inl ⟨hi, hk ▸ fresh⟩
    · rw [if_neg hi] at hk
      exact .inr ⟨hk, hm.taken i k hk⟩
  refine ⟨fun i k hk => ?_, fun i j k k' hk hk' hid => ?_, hm.errorClasses, hm.objects⟩
  · obtain ⟨-, hid⟩ | ⟨-, hid⟩ := hpush i k hk
    · exact Nat.lt_succ_of_le (Nat.le_of_eq hid)
    · exact Nat.lt_succ_of_lt hid
  · -- an old number is below the counter and the new one is not, so both are old or both new
    obtain ⟨hi, hki⟩ | ⟨hi, hki⟩ := hpush i k hk <;>
      obtain ⟨hj, hkj⟩ | ⟨hj, hkj⟩ := hpush j k' hk'
    · omega
    · omega
    · omega
    · exact hm.distinct i j k k' hi hj hid

/-- Every change keeps the invariant. -/
theorem Change.sound {m m' : Machine} (h : m.Change m') (hm : m.Sound) : m'.Sound := by
  have hgrows := h.grows
  cases h with
  | lambda l fresh => exact hm.pushLambda fresh
  | construct t args o made => exact hm.pushObject (Heap.complete_of_instanceOf made)
  | error cls message stack =>
    -- error objects are made without looking at their class, which declares a message only
    obtain ⟨t, ht, hfields⟩ := hm.errorClasses cls
    refine hm.pushObject ⟨t, ht, fun field hfield => Dict.contains_ofPairs ?_⟩
    rw [hfields, List.mem_singleton] at hfield
    simp [hfield]
  -- nothing else makes lambdas or objects
  | name => exact hm.mono hgrows (Array.size_modify ..) rfl
  | field => exact hm.mono hgrows rfl (Array.size_modify ..)
  | _ => exact hm.mono hgrows rfl rfl

/-- Whatever is changed, and however often, the invariant stays. -/
theorem Evolves.sound {m m' : Machine} (h : m.Evolves m') (hm : m.Sound) : m'.Sound := by
  induction h with
  | refl => exact hm
  | tail _ hchange ih => exact hchange.sound ih

end Machine

end Lisp
