import Lisp.Proofs.Value.Layout
import Lisp.Proofs.Value.Rebuilding

/-!
# Values in another representation

A value that is held in one representation has counterparts in every other one: all its vectors,
maps and sets written the other way, up to sameness. Changing the representation loses nothing and
brings nothing together, so what stands under a key stands under its counterpart on the other side.
Two sides that hold counterparts therefore go on to hold counterparts while entries are set and
removed, each with its own tables and its own rule for the key that survives, as long as the keys
that are used are found on both sides.

## Main definitions

* `Value.Held` — a value of one representation whose keys differ and are found
* `Value.Counterpart` — a value on one side, and what stands for it on the other
* `Value.converted` — a value built once more in another representation

## Main results

* `Value.Counterpart.facing` — counterparts have the same shape
* `Value.Counterpart.found`, `insert`, `erase`, `insertAll` — maps on both sides
* `Value.Counterpart.of_held` — a value converted stands for it
* `Value.Counterpart.agrees` — whatever stands for a value equals the value converted
-/

namespace Lisp.Value

variable {rep rep' : Representation} {t u : Table} {v w k k' : Value}

/-! ### Entries in another representation -/

section Entries

variable {es : List (Filed Value × Value)}

/-- An entry in another representation. -/
def convertEntry (rep : Representation) (e : Filed Value × Value) : Filed Value × Value :=
  (layOutItem (.of rep) e.1, e.2.layOut (.of rep))

/-- Keys of one representation, which differ from each other at every depth. -/
def PlainKeys (rep : Representation) (es : List (Filed Value × Value)) : Prop :=
  ∀ e ∈ es, Uniform rep e.1.value ∧ WellKeyed e.1.value

/-- What stands under a key stands under it in another representation too. -/
theorem under?_map_convertEntry (hes : PlainKeys rep es) (uk : Uniform rep k) (wk : WellKeyed k) :
    under? (k.layOut (.of rep')) (es.map (convertEntry rep')) =
      (under? k es).map (layOut (.of rep')) := by
  induction es with
  | nil => rfl
  | cons d es ih =>
    obtain ⟨⟨ud, wd⟩, hes⟩ := List.forall_mem_cons.1 hes
    rw [List.map_cons, under?_cons, under?_cons, ih hes]
    simp only [convertEntry, layOutItem, ud.same_layOut_eq uk wd wk]
    split
    · rfl
    · rfl

end Entries

theorem uniform_layOut (v : Value) : Uniform rep (v.layOut (.of rep)) := by
  induction v using induction_on_parts with
  | step v ih =>
    cases v with
    | list xs =>
      rw [layOut_list]
      exact ⟨trivial, List.forall_mem_map.2 ih⟩
    | vector r xs =>
      rw [layOut_vector]
      exact ⟨rfl, List.forall_mem_map.2 ih⟩
    | map t es =>
      rw [layOut_map]
      exact everywhere_map rfl (List.forall_mem_map.2 fun e he => ih _ (key_mem_parts he))
        (List.forall_mem_map.2 fun e he => ih _ (value_mem_parts he))
    | set t xs =>
      rw [layOut_set]
      exact everywhere_set rfl (List.forall_mem_map.2 fun x hx => ih _ (element_mem_parts hx))
    | quoted form => exact ⟨trivial, List.forall_mem_singleton.2 (ih form (by simp [parts]))⟩
    | _ => exact .leaf trivial rfl

variable [Tables]

/-! ### Values of one representation -/

/-- One of two sides on which values are held: the texts that entities have there, and the
representation of all vectors, maps and sets. -/
structure Side where
  text : Entity → String
  rep : Representation

variable {s s' : Side}

/-- A value in the representation of a side, in which keys differ and are found by what is the same,
at every depth. -/
structure Held (s : Side) (v : Value) : Prop where
  uniform : Uniform s.rep v
  wellKeyed : WellKeyed v
  keys : Everywhere (KeysReliable s.text) v

namespace Held

theorem of_parts (representation : InRepresentation s.rep v) (keysDiffer : KeysDiffer v)
    (keys : KeysReliable s.text v) (inside : ∀ w ∈ v.parts, Held s w) : Held s v where
  uniform := ⟨representation, fun w hw => (inside w hw).uniform⟩
  wellKeyed := ⟨keysDiffer, fun w hw => (inside w hw).wellKeyed⟩
  keys := ⟨keys, fun w hw => (inside w hw).keys⟩

theorem inside (h : Held s v) (hw : w ∈ v.parts) : Held s w :=
  ⟨h.uniform.inside hw, h.wellKeyed.inside hw, h.keys.inside hw⟩

theorem nil : Held s nil := of_parts trivial trivial trivial (by simp [parts])

theorem number (n : Number) : Held s (.number n) :=
  of_parts trivial trivial trivial (by simp [parts])

theorem string (t : String) : Held s (.string t) :=
  of_parts trivial trivial trivial (by simp [parts])

theorem list {xs : List Value} (h : ∀ x ∈ xs, Held s x) : Held s (list xs) :=
  of_parts trivial trivial trivial h

theorem vector {xs : List Value} (h : ∀ x ∈ xs, Held s x) : Held s (vector s.rep xs) :=
  of_parts rfl trivial trivial h

variable {es : List (Filed Value × Value)} {xs : List (Filed Value)} {a : Shelf}

/-- A value that is held serves as a key, if what is the same is filed alike. -/
theorem reliable (h : Held s v) (steady : Steady s.text v) : Reliable s.text v :=
  reliable_of_steady h.wellKeyed h.keys steady

theorem settled (h : Held s (.map t es)) : Settled s.text es :=
  h.wellKeyed.settled h.keys.here

theorem plainKeys (h : Held s (.map t es)) : PlainKeys s.rep es :=
  fun _ he => ⟨h.uniform.inside (key_mem_parts he), h.wellKeyed.key he⟩

theorem entries (h : Held s (.map t es)) : ∀ e ∈ es, Held s e.1.value ∧ Held s e.2 :=
  fun _ he => ⟨h.inside (key_mem_parts he), h.inside (value_mem_parts he)⟩

theorem map (rep : t.rep = s.rep) (settled : Settled s.text es)
    (entries : ∀ e ∈ es, Held s e.1.value ∧ Held s e.2) : Held s (.map t es) :=
  of_parts rep settled.apart settled.keys (forall_parts_map.2 entries)

/-- A set is held just as the map with nothing under its elements. -/
theorem set_iff : Held s (.set t xs) ↔ Held s (.map t (xs.map (·, .nil))) := by
  constructor
  · intro h
    exact map h.uniform.here (h.wellKeyed.settled_set h.keys.here)
      (List.forall_mem_map.2 fun x hx => ⟨h.inside (element_mem_parts hx), nil⟩)
  · intro h
    have lawful : Lawful s.text (.set t xs) := h.settled.lawful_set
    refine of_parts h.uniform.here lawful.wellKeyed.here lawful.keys fun w hw => ?_
    obtain ⟨x, hx, rfl⟩ := List.mem_map.1 hw
    exact (h.entries (x, .nil) (List.mem_map_of_mem hx)).1

theorem insert (h : Held s a.toMap) (hk : Held s k) (steady : Steady s.text k) (hv : Held s v) :
    Held s (a.insert s.text k v).toMap := by
  refine map (by rw [Shelf.insert_rep]; exact h.uniform.here)
    (h.settled.insert (hk.reliable steady) hv.wellKeyed) fun e he => ⟨?_, ?_⟩
  · exact Shelf.forall_key_insert (P := fun f => Held s f.value) (fun e he => (h.entries e he).1)
      (fun _ hf => hf) hk e he
  · exact Shelf.forall_value_insert (fun e he => (h.entries e he).2) hv e he

theorem erase (h : Held s a.toMap) (k : Value) : Held s (a.erase s.text k).toMap :=
  map (by rw [Shelf.erase_rep]; exact h.uniform.here) (h.settled.erase k) fun e he =>
    h.entries e (Shelf.mem_of_mem_erase he)

theorem insertAll {ps : List (Value × Value)} (h : Held s a.toMap)
    (hps : ∀ p ∈ ps, Held s p.1 ∧ Steady s.text p.1 ∧ Held s p.2) :
    Held s (a.insertAll s.text ps).toMap := by
  induction ps generalizing a with
  | nil => exact h
  | cons p ps ih =>
    obtain ⟨⟨key, steady, value⟩, hps⟩ := List.forall_mem_cons.1 hps
    exact ih (h.insert key steady value) hps

/-- A value goes on to have differing keys when it is written another way. -/
theorem wellKeyed_layOut (h : Held s v) (rep : Representation) :
    WellKeyed (v.layOut (.of rep)) :=
  h.uniform.wellKeyed_layOut h.wellKeyed

theorem wellKeyed_convert (h : Held s (.map t es)) (rep : Representation) :
    WellKeyed (.map ⟨rep, t.state⟩ (es.map (convertEntry rep))) := by
  have := h.wellKeyed_layOut rep
  rwa [layOut_map] at this

end Held

/-! ### Counterparts -/

/-- A value on one side and what stands for it on the other: the same, once the first is written as
the other side writes. -/
structure Counterpart (s s' : Side) (v w : Value) : Prop where
  left : Held s v
  right : Held s' w
  same : (v.layOut (.of s'.rep)).same w = true

/-- What a value and its counterpart can be. -/
inductive Facing (s s' : Side) : Value → Value → Prop where
  | nil : Facing s s' nil nil
  | bool (b : Bool) : Facing s s' (bool b) (bool b)
  | number {m n : Number} (h : m.same n = true) : Facing s s' (number m) (number n)
  | string (t : String) : Facing s s' (string t) (string t)
  | symbol (name : Name) : Facing s s' (symbol name) (symbol name)
  | keyword (name : Name) : Facing s s' (keyword name) (keyword name)
  | list {xs ys : List Value} (h : List.Forall₂ (Counterpart s s') xs ys) :
    Facing s s' (list xs) (list ys)
  | vector {xs ys : List Value} (h : List.Forall₂ (Counterpart s s') xs ys) :
    Facing s s' (vector s.rep xs) (vector s'.rep ys)
  | map {t u : Table} {xs ys : List (Filed Value × Value)}
      (h : Counterpart s s' (map t xs) (map u ys)) : Facing s s' (map t xs) (map u ys)
  | set {t u : Table} {xs ys : List (Filed Value)}
      (h : Counterpart s s' (set t xs) (set u ys)) : Facing s s' (set t xs) (set u ys)
  | quoted (v w : Value) : Facing s s' (quoted v) (quoted w)
  | regex (pattern : String) : Facing s s' (regex pattern) (regex pattern)
  | entity (e : Entity) : Facing s s' (entity e) (entity e)

theorem forall₂_counterpart {xs ys : List Value} (hx : ∀ x ∈ xs, Held s x)
    (hy : ∀ y ∈ ys, Held s' y) :
    List.Forall₂ (Counterpart s s') xs ys ↔
      List.Forall₂ (fun x y => x.same y = true) (xs.map (layOut (.of s'.rep))) ys := by
  rw [List.forall₂_map_left_iff]
  constructor
  · exact List.Forall₂.imp fun _ _ h => h.same
  · intro h
    induction h with
    | nil => exact .nil
    | cons hxy _ ih =>
      rw [List.forall_mem_cons] at hx hy
      exact .cons ⟨hx.1, hy.1, hxy⟩ (ih hx.2 hy.2)

/-- A value and its counterpart have the same shape. -/
theorem Counterpart.facing (h : Counterpart s s' v w) : Facing s s' v w := by
  have same := h.same
  cases v with
  | list xs =>
    rw [layOut_list] at same
    obtain ⟨ys, rfl, hs⟩ := same_list_iff.1 same
    exact .list ((forall₂_counterpart (fun _ hx => h.left.inside hx)
      fun _ hy => h.right.inside hy).2 hs)
  | vector rep xs =>
    obtain rfl : rep = s.rep := h.left.uniform.here
    rw [layOut_vector] at same
    obtain ⟨ys, rfl, hs⟩ := same_vector_iff.1 same
    exact .vector ((forall₂_counterpart (fun _ hx => h.left.inside hx)
      fun _ hy => h.right.inside hy).2 hs)
  | map t xs =>
    rw [layOut_map] at same
    obtain ⟨u, ys, rfl, -⟩ := same_map_iff.1 same
    exact .map h
  | set t xs =>
    rw [layOut_set] at same
    obtain ⟨u, ys, rfl, -⟩ := same_set_iff.1 same
    exact .set h
  | quoted v =>
    obtain ⟨w, rfl, -⟩ := same_quoted_iff.1 same
    exact .quoted v w
  | number m =>
    obtain ⟨n, rfl, hs⟩ := same_number_iff.1 same
    exact .number hs
  | _ =>
    cases alike_of_same same
    constructor

omit [Tables] in
theorem isSome_eq_of_rel {α β : Type} {R : α → β → Prop} {o : Option α} {o' : Option β}
    (h : Option.Rel R o o') : o.isSome = o'.isSome := by
  cases h with
  | none => rfl
  | some _ => rfl

theorem forall₂_held {xs ys : List Value} (h : List.Forall₂ (Counterpart s s') xs ys) :
    (∀ x ∈ xs, Held s x) ∧ ∀ y ∈ ys, Held s' y := by
  induction h with
  | nil => simp
  | cons hxy _ ih =>
    exact ⟨List.forall_mem_cons.2 ⟨hxy.left, ih.1⟩, List.forall_mem_cons.2 ⟨hxy.right, ih.2⟩⟩

namespace Counterpart

theorem nil : Counterpart s s' nil nil := ⟨.nil, .nil, rfl⟩

theorem string (t : String) : Counterpart s s' (.string t) (.string t) :=
  ⟨.string t, .string t, by simp [layOut, Value.same]⟩

theorem number (n : Number) : Counterpart s s' (.number n) (.number n) :=
  ⟨.number n, .number n, same_number_iff.2 ⟨n, rfl, n.same_refl⟩⟩

theorem bool (b : Bool) : Counterpart s s' (.bool b) (.bool b) :=
  ⟨.of_parts trivial trivial trivial (by simp [parts]),
    .of_parts trivial trivial trivial (by simp [parts]), by simp [layOut, Value.same]⟩

theorem list {xs ys : List Value} (h : List.Forall₂ (Counterpart s s') xs ys) :
    Counterpart s s' (list xs) (list ys) := by
  obtain ⟨hx, hy⟩ := forall₂_held h
  refine ⟨.list hx, .list hy, ?_⟩
  rw [layOut_list]
  exact same_list_iff.2 ⟨ys, rfl, (forall₂_counterpart hx hy).1 h⟩

theorem vector {xs ys : List Value} (h : List.Forall₂ (Counterpart s s') xs ys) :
    Counterpart s s' (vector s.rep xs) (vector s'.rep ys) := by
  obtain ⟨hx, hy⟩ := forall₂_held h
  refine ⟨.vector hx, .vector hy, ?_⟩
  rw [layOut_vector]
  exact same_vector_iff.2 ⟨ys, rfl, (forall₂_counterpart hx hy).1 h⟩

theorem quoted (h : Counterpart s s' v w) : Counterpart s s' (.quoted v) (.quoted w) :=
  ⟨.of_parts trivial trivial trivial (List.forall_mem_singleton.2 h.left),
    .of_parts trivial trivial trivial (List.forall_mem_singleton.2 h.right),
    same_quoted_iff.2 ⟨w, rfl, h.same⟩⟩

variable {es es' ds ds' : List (Filed Value × Value)} {xs ys : List (Filed Value)}
  {a b : Shelf}

/-! Counterparts are told by what stands under their keys. -/

theorem same_map (h : Counterpart s s' (.map t es) (.map u es')) :
    (map ⟨s'.rep, t.state⟩ (es.map (convertEntry s'.rep))).same (map u es') = true := by
  have same := h.same
  rwa [layOut_map] at same

theorem length_eq (h : Counterpart s s' (.map t es) (.map u es')) : es.length = es'.length := by
  obtain ⟨_, _, hes, -, length, -⟩ := same_map_iff.1 h.same_map
  cases hes
  rwa [List.length_map] at length

/-- What stands under a key on one side stands under the key, written the other way, on the
other. -/
theorem under (h : Counterpart s s' (.map t es) (.map u es')) (uk : Uniform s.rep k)
    (wk : WellKeyed k) :
    Option.Rel (Counterpart s s') (under? k es) (under? (k.layOut (.of s'.rep)) es') := by
  have wk' : WellKeyed (k.layOut (.of s'.rep)) := uk.wellKeyed_layOut wk
  -- the left map, written the other way, is the same as the right one
  have found : SameUnder ((under? k es).map (layOut (.of s'.rep)))
      (under? (k.layOut (.of s'.rep)) es') := by
    rw [← under?_map_convertEntry h.left.plainKeys uk wk]
    exact sameUnder_of_same (h.left.wellKeyed_convert _) h.right.wellKeyed h.same_map wk'
  cases hv : under? k es with
  | none =>
    rw [hv] at found
    cases hw : under? (k.layOut (.of s'.rep)) es' with
    | none => exact .none
    | some w =>
      rw [hw] at found
      cases found
  | some v =>
    rw [hv] at found
    cases hw : under? (k.layOut (.of s'.rep)) es' with
    | none =>
      rw [hw] at found
      cases found
    | some w =>
      rw [hw] at found
      cases found with
      | some same =>
        obtain ⟨e, he, -, rfl⟩ := (under?_eq_some_iff h.left.wellKeyed wk).1 hv
        obtain ⟨e', he', -, rfl⟩ := (under?_eq_some_iff h.right.wellKeyed wk').1 hw
        exact .some ⟨(h.left.entries e he).2, (h.right.entries e' he').2, same⟩

/-- Maps with counterparts under all keys are counterparts. -/
theorem map_of_under (left : Held s (.map t es)) (right : Held s' (.map u es'))
    (h : ∀ k, Uniform s.rep k → WellKeyed k →
      Option.Rel (Counterpart s s') (under? k es) (under? (k.layOut (.of s'.rep)) es')) :
    Counterpart s s' (.map t es) (.map u es') := by
  refine ⟨left, right, ?_⟩
  have written : ∀ k, Uniform s.rep k → WellKeyed k →
      SameUnder (under? (k.layOut (.of s'.rep)) (es.map (convertEntry s'.rep)))
        (under? (k.layOut (.of s'.rep)) es') := by
    intro k uk wk
    rw [under?_map_convertEntry left.plainKeys uk wk]
    have rel := h k uk wk
    generalize under? k es = o at rel ⊢
    generalize under? (k.layOut (.of s'.rep)) es' = o' at rel ⊢
    cases rel with
    | none => exact .none
    | some related => exact .some related.same
  rw [layOut_map]
  refine same_map_of_sameUnder (Eq.symm right.uniform.here) (left.wellKeyed_convert _)
    right.wellKeyed fun k wk =>
      sameUnder_of_keys (left.wellKeyed_convert _) right.wellKeyed ?_ ?_ wk
  · refine List.forall_mem_map.2 fun d hd => ?_
    exact written _ (left.plainKeys d hd).1 (left.plainKeys d hd).2
  · -- a key on the right is what it was once it has been written the other way and back
    intro e he
    obtain ⟨ue, we⟩ := right.plainKeys e he
    have := written (e.1.value.layOut (.of s.rep)) (uniform_layOut _) (ue.wellKeyed_layOut we)
    rwa [layOut_layOut ue] at this

theorem map_empty (rep : t.rep = s.rep) (rep' : u.rep = s'.rep) :
    Counterpart s s' (.map t []) (.map u []) :=
  map_of_under (.map rep settled_nil (by simp)) (.map rep' settled_nil (by simp))
    fun _ _ _ => .none

/-- What is found under a key on one side is found under its counterpart on the other. -/
theorem found (h : Counterpart s s' (.map t es) (.map u es')) (hk : Counterpart s s' k k') :
    Option.Rel (Counterpart s s') ((Shelf.mk t es).find? s.text k)
      ((Shelf.mk u es').find? s'.text k') := by
  rw [find?_eq_under? h.left.settled hk.left.wellKeyed,
    find?_eq_under? h.right.settled hk.right.wellKeyed,
    ← under?_congr h.right.wellKeyed (hk.left.wellKeyed_layOut _) hk.right.wellKeyed hk.same]
  exact h.under hk.left.uniform hk.left.wellKeyed

/-- A key on one side is the same as another exactly if its counterpart is the same as the other,
written the other way. -/
theorem same_key (hk : Counterpart s s' k k') {j : Value} (uj : Uniform s.rep j)
    (wj : WellKeyed j) : k.same j = k'.same (j.layOut (.of s'.rep)) := by
  have wj' : WellKeyed (j.layOut (.of s'.rep)) := uj.wellKeyed_layOut wj
  rw [← hk.left.uniform.same_layOut_eq uj hk.left.wellKeyed wj]
  exact (hk.left.wellKeyed_layOut _).same_congr hk.right.wellKeyed wj' hk.same

/-- Entries set on both sides. -/
theorem insert (h : Counterpart s s' a.toMap b.toMap) (hk : Counterpart s s' k k')
    (steady : Steady s.text k) (steady' : Steady s'.text k') (hv : Counterpart s s' v w) :
    Counterpart s s' (a.insert s.text k v).toMap (b.insert s'.text k' w).toMap := by
  refine map_of_under (h.left.insert hk.left steady hv.left)
    (h.right.insert hk.right steady' hv.right) fun j uj wj => ?_
  rw [under?_insert h.left.settled (hk.left.reliable steady) hv.left.wellKeyed wj,
    under?_insert h.right.settled (hk.right.reliable steady') hv.right.wellKeyed
      (uj.wellKeyed_layOut wj), hk.same_key uj wj]
  split
  · exact .some hv
  · exact h.under uj wj

/-- Entries removed on both sides. -/
theorem erase (h : Counterpart s s' a.toMap b.toMap) (hk : Counterpart s s' k k') :
    Counterpart s s' (a.erase s.text k).toMap (b.erase s'.text k').toMap := by
  refine map_of_under (h.left.erase k) (h.right.erase k') fun j uj wj => ?_
  rw [under?_erase h.left.settled hk.left.wellKeyed wj,
    under?_erase h.right.settled hk.right.wellKeyed (uj.wellKeyed_layOut wj), hk.same_key uj wj]
  split
  · exact .none
  · exact h.under uj wj

/-- Several entries set on both sides, in one order. -/
theorem insertAll {ps qs : List (Value × Value)} (h : Counterpart s s' a.toMap b.toMap)
    (hps : List.Forall₂ (fun p q => Counterpart s s' p.1 q.1 ∧ Counterpart s s' p.2 q.2) ps qs)
    (steady : ∀ p ∈ ps, Steady s.text p.1) (steady' : ∀ q ∈ qs, Steady s'.text q.1) :
    Counterpart s s' (a.insertAll s.text ps).toMap (b.insertAll s'.text qs).toMap := by
  induction hps generalizing a b with
  | nil => exact h
  | cons hpq _ ih =>
    rw [List.forall_mem_cons] at steady steady'
    exact ih (h.insert hpq.1 steady.1 steady'.1 hpq.2) steady.2 steady'.2

/-- All entries of maps set in maps, in whatever order the maps have them. -/
theorem insertEntries (h : Counterpart s s' a.toMap b.toMap)
    (hd : Counterpart s s' (.map t ds) (.map u ds')) :
    Counterpart s s' (a.insertAll s.text (ds.map fun d => (d.1.value, d.2))).toMap
      (b.insertAll s'.text (ds'.map fun d => (d.1.value, d.2))).toMap := by
  have steady {r : Side} {t : Table} {es : List (Filed Value × Value)} (he : Held r (.map t es)) :
      ∀ p ∈ es.map fun d => (d.1.value, d.2), Held r p.1 ∧ Steady r.text p.1 ∧ Held r p.2 :=
    List.forall_mem_map.2 fun e hmem =>
      ⟨(he.entries e hmem).1, (he.settled.keys e hmem).value.steady, (he.entries e hmem).2⟩
  refine map_of_under (h.left.insertAll (steady hd.left)) (h.right.insertAll (steady hd.right))
    fun j uj wj => ?_
  rw [under?_insertAll h.left.settled hd.left.settled wj,
    under?_insertAll h.right.settled hd.right.settled (uj.wellKeyed_layOut wj)]
  -- what stands under a key afterwards comes from the new entries, if they have the key
  have new := hd.under uj wj
  generalize under? j ds = o at new ⊢
  generalize under? (j.layOut (.of s'.rep)) ds' = o' at new ⊢
  cases new with
  | some related => exact .some related
  | none => exact h.under uj wj

/-- Sets stand for each other just as the maps with nothing under their elements do. -/
theorem set_iff : Counterpart s s' (.set t xs) (.set u ys) ↔
    Counterpart s s' (.map t (xs.map (·, .nil))) (.map u (ys.map (·, .nil))) := by
  have same : (layOut (.of s'.rep) (.set t xs)).same (.set u ys) =
      (layOut (.of s'.rep) (.map t (xs.map (·, .nil)))).same (.map u (ys.map (·, .nil))) := by
    rw [layOut_set, layOut_map, same_set_eq_same_map, List.map_map, List.map_map]
    rfl
  constructor
  · intro h
    exact ⟨Held.set_iff.1 h.left, Held.set_iff.1 h.right, same ▸ h.same⟩
  · intro h
    exact ⟨Held.set_iff.2 h.left, Held.set_iff.2 h.right, same.trans h.same⟩

theorem toSet (h : Counterpart s s' a.toMap b.toMap) (bare : a.Bare) (bare' : b.Bare) :
    Counterpart s s' a.toSet b.toSet := by
  refine set_iff.2 ?_
  rwa [bare.map_nil, bare'.map_nil]

theorem insertElement (h : Counterpart s s' (.set t xs) (.set u ys)) (hk : Counterpart s s' k k')
    (steady : Steady s.text k) (steady' : Steady s'.text k') :
    Counterpart s s' ((Shelf.ofSet t xs).insert s.text k .nil).toSet
      ((Shelf.ofSet u ys).insert s'.text k' .nil).toSet :=
  toSet (insert (a := .ofSet t xs) (b := .ofSet u ys) (set_iff.1 h) hk steady steady' nil)
    (Shelf.bare_ofSet xs).insert (Shelf.bare_ofSet ys).insert

theorem has (h : Counterpart s s' (.set t xs) (.set u ys)) (hk : Counterpart s s' k k') :
    (Shelf.ofSet t xs).has s.text k = (Shelf.ofSet u ys).has s'.text k' :=
  isSome_eq_of_rel ((set_iff.1 h).found hk)

/-! What is made of a row of entries or elements. -/

theorem mapOf {ps ps' : List (Value × Value)}
    (hps : List.Forall₂ (fun p q => Counterpart s s' p.1 q.1 ∧ Counterpart s s' p.2 q.2) ps ps')
    (steady : ∀ p ∈ ps, Steady s.text p.1) (steady' : ∀ p ∈ ps', Steady s'.text p.1) :
    Counterpart s s' (Value.mapOf s.text s.rep ps) (Value.mapOf s'.text s'.rep ps') :=
  (map_empty rfl rfl).insertAll (a := .opened s.rep ps.length)
    (b := .opened s'.rep ps'.length) hps steady steady'

theorem setOf {vs ws : List Value}
    (hvs : List.Forall₂ (Counterpart s s') vs ws) (steady : ∀ v ∈ vs, Steady s.text v)
    (steady' : ∀ w ∈ ws, Steady s'.text w) :
    Counterpart s s' (Value.setOf s.text s.rep vs) (Value.setOf s'.text s'.rep ws) := by
  have bare {rep : Representation} {room : Nat} : (Shelf.opened rep room).Bare :=
    List.forall_mem_nil _
  refine toSet ?_ (bare.insertAll vs) (bare.insertAll ws)
  refine (map_empty rfl rfl).insertAll (a := .opened s.rep vs.length)
    (b := .opened s'.rep ws.length) ?_ (List.forall_mem_map.2 steady)
    (List.forall_mem_map.2 steady')
  rw [List.forall₂_map_left_iff, List.forall₂_map_right_iff]
  exact hvs.imp fun _ _ hxy => ⟨hxy, .nil⟩

end Counterpart

/-! ### Conversion -/

/-- A value converted to a representation: all its vectors, maps and sets are written the other way,
and its maps and sets are built anew. -/
def converted (text : Entity → String) (rep : Representation) (v : Value) : Value :=
  (v.layOut (.of rep)).rebuild text

/-- A value built once more is in the same representation. -/
theorem Rebuilt.uniform {text : Entity → String} (h : Rebuilt text v w) (hv : Uniform rep v) :
    Uniform rep w := by
  induction v using induction_on_parts generalizing w with
  | step v ih =>
    refine ⟨?_, fun y hy => ?_⟩
    · cases h with
      | map rep' | set rep' =>
        have here := rep'.symm.trans hv.here
        simpa [InRepresentation, Shelf.toMap, Shelf.toSet] using here
      | number => trivial
      | _ => exact hv.here
    · obtain ⟨x, hx, hxy⟩ := h.exists_part hy
      exact ih x hx hxy (hv.inside hx)

namespace Counterpart

/-- A value converted stands for it, if its keys, written the other way, serve as keys there. -/
theorem of_held (h : Held s v) (steady : Everywhere (KeysSteady s'.text) (v.layOut (.of s'.rep))) :
    Counterpart s s' v (v.converted s'.text s'.rep) := by
  have rebuilt : Rebuilt s'.text (v.layOut (.of s'.rep)) (v.converted s'.text s'.rep) :=
    rebuilt_rebuild _ _
  obtain ⟨wr, same⟩ := rebuilt.same (h.wellKeyed_layOut _)
  exact ⟨h, ⟨rebuilt.uniform (uniform_layOut _), wr,
    rebuilt.reliable (h.wellKeyed_layOut _) steady⟩, same⟩

/-- Whatever stands for a value equals the value converted. -/
theorem agrees (h : Counterpart s s' v w) :
    (v.converted s'.text s'.rep).agrees s'.text w = true ∧
      w.agrees s'.text (v.converted s'.text s'.rep) = true := by
  have wv := h.left.wellKeyed_layOut s'.rep
  have ww := h.right.wellKeyed
  -- the keys of `w` serve as keys, so those of the value, written the other way, do as well
  have steady : Everywhere (KeysSteady s'.text) (v.layOut (.of s'.rep)) :=
    keysSteady_of_same ww wv (wv.same_symm ww h.same) (h.right.keys.mono keysSteady_of_keysReliable)
  obtain ⟨-, right, same⟩ := of_held h.left steady
  have hrw := right.wellKeyed.same_trans wv ww (wv.same_symm right.wellKeyed same) h.same
  exact ⟨agrees_of_same right.wellKeyed ww (h.right.keys.mono keysFound_of_keysReliable) hrw,
    agrees_of_same ww right.wellKeyed (right.keys.mono keysFound_of_keysReliable)
      (right.wellKeyed.same_symm ww hrw)⟩

end Counterpart

end Lisp.Value
