import Lisp.Proofs.Value.Lookup

/-!
# Values built once more

To build a value once more from its parts puts all entries of its maps and sets into new tables,
under the hashes that their keys have now. Keys that differ do not answer one another, so they all
go in again, wherever the new tables look for them: the value is the same, and as large everywhere.
The new keys are found if everything the same as one of them is filed alike. How the old ones were
filed makes no difference.

## Main definitions

* `Value.Rebuilt` — a value built once more
* `Value.rebuild` — a value built once more in tables that begin without room
* `Value.KeysSteady` — what is the same as a key of a map or set is filed alike
* `Value.KeysRefound`, `Value.KeysCurrent` — keys are found by themselves built once more, or these
  by them

## Main results

* `Value.Rebuilt.same` — what is built once more is the same
* `Value.Rebuilt.reliable` — its keys are found
* `Value.rebuilt_rebuild` — every value can be built once more
* `Value.agrees_rebuild`, `Value.rebuild_agrees` — it is found to be equal, from the left and from
  the right
-/

namespace Lisp.Value

variable [Tables] {text : Entity → String} {v w r : Value} {t u : Table}

/-! ### Keys that are filed alike -/

/-- What is the same as a key of a map or an element of a set is filed alike. -/
def KeysSteady (text : Entity → String) : Value → Prop
  | map _ entries => ∀ e ∈ entries, Steady text e.1.value
  | set _ items => ∀ x ∈ items, Steady text x.value
  | _ => True

theorem keysSteady_of_keysReliable (v : Value) (h : KeysReliable text v) : KeysSteady text v := by
  cases v with
  | map t es => exact fun e he => (h e he).value.steady
  | set t xs => exact fun x hx => (h x hx).value.steady
  | _ => trivial

theorem keysFound_of_keysReliable (v : Value) (h : KeysReliable text v) : KeysFound text v := by
  cases v with
  | map t es => exact fun e he => (h e he).found
  | set t xs => exact fun x hx => (h x hx).found
  | _ => trivial

/-- A key in which keys are found, at any depth, serves as a key if what is the same is filed
alike. -/
theorem reliable_of_steady (wv : WellKeyed v) (keys : Everywhere (KeysReliable text) v)
    (steady : Steady text v) : Reliable text v :=
  ⟨wv, keys.mono keysFound_of_keysReliable, steady⟩

/-- What is the same has keys that are filed alike, too. -/
theorem keysSteady_of_same (wv : WellKeyed v) (ww : WellKeyed w) (hvw : v.same w = true)
    (h : Everywhere (KeysSteady text) v) : Everywhere (KeysSteady text) w := by
  induction v using induction_on_parts generalizing w with
  | step v ih =>
    have row {xs ys : List Value} (hxs : ∀ x ∈ xs, x ∈ v.parts) (hys : ∀ y ∈ ys, WellKeyed y)
        (hs : List.Forall₂ (fun x y => x.same y = true) xs ys) :
        ∀ y ∈ ys, Everywhere (KeysSteady text) y := by
      intro y hy
      -- the element on the left that stands in the place of `y`
      obtain ⟨x, hx, hxy⟩ := exists_of_forall₂
        (R := fun (y x : Value) => x.same y = true) hs.flip hy
      exact ih x (hxs x hx) (wv.inside (hxs x hx)) (hys y hy) hxy (h.inside (hxs x hx))
    cases alike_of_same hvw with
    | list hs => exact ⟨trivial, row (fun _ => id) (fun _ hy => ww.inside hy) hs⟩
    | vector hs => exact ⟨trivial, row (fun _ => id) (fun _ hy => ww.inside hy) hs⟩
    | map =>
      -- every entry of the one is matched by an entry of the other
      have back := wv.same_symm ww hvw
      obtain ⟨_, _, hxs, -, -, within⟩ := same_map_iff.1 back
      cases hxs
      have matched := fun e he => exists_of_entryWithin (entriesWithin_iff.1 within e he)
      refine everywhere_map ?_ ?_ ?_
      · intro e he
        obtain ⟨d, hd, hkey, -⟩ := matched e he
        exact (h.here d hd).of_same (wv.key hd) (ww.key he)
          ((ww.key he).same_symm (wv.key hd) hkey)
      · intro e he
        obtain ⟨d, hd, hkey, -⟩ := matched e he
        exact ih _ (key_mem_parts hd) (wv.key hd) (ww.key he)
          ((ww.key he).same_symm (wv.key hd) hkey) (h.inside (key_mem_parts hd))
      · intro e he
        obtain ⟨d, hd, -, hvalue⟩ := matched e he
        exact ih _ (value_mem_parts hd) (wv.value hd) (ww.value he)
          ((ww.value he).same_symm (wv.value hd) hvalue) (h.inside (value_mem_parts hd))
    | set =>
      have back := wv.same_symm ww hvw
      obtain ⟨_, _, hxs, -, -, within⟩ := same_set_iff.1 back
      cases hxs
      have matched := elementsWithin_iff.1 within
      refine everywhere_set ?_ ?_
      · intro y hy
        obtain ⟨x, hx, hyx⟩ := matched y hy
        exact (h.here x hx).of_same (wv.element hx) (ww.element hy)
          ((ww.element hy).same_symm (wv.element hx) hyx)
      · intro y hy
        obtain ⟨x, hx, hyx⟩ := matched y hy
        exact ih _ (element_mem_parts hx) (wv.element hx) (ww.element hy)
          ((ww.element hy).same_symm (wv.element hx) hyx) (h.inside (element_mem_parts hx))
    | quoted hs =>
      exact ⟨trivial, List.forall_mem_singleton.2 (ih _ (by simp [parts])
        (wv.inside (by simp [parts])) (ww.inside (by simp [parts])) hs
        (h.inside (by simp [parts])))⟩
    | _ => exact .leaf trivial rfl

/-! ### Building a value once more -/

/-- A value built once more from its parts: the entries of a map and the elements of a set go, in
their order, into an empty table of the same representation. -/
inductive Rebuilt (text : Entity → String) : Value → Value → Prop where
  | atom {v : Value} (leaf : v.parts = []) : Rebuilt text v v
  | number {m n : Number} (h : m.same n = true) : Rebuilt text (number m) (number n)
  | list {xs ys : List Value} (h : List.Forall₂ (Rebuilt text) xs ys) :
    Rebuilt text (list xs) (list ys)
  | vector {rep : Representation} {xs ys : List Value} (h : List.Forall₂ (Rebuilt text) xs ys) :
    Rebuilt text (vector rep xs) (vector rep ys)
  | map {t : Table} {es : List (Filed Value × Value)} {s : Shelf} {ps : List (Value × Value)}
    (rep : t.rep = s.table.rep) (empty : s.entries = [])
    (keys : List.Forall₂ (fun e p => Rebuilt text e.1.value p.1) es ps)
    (values : List.Forall₂ (fun e p => Rebuilt text e.2 p.2) es ps) :
    Rebuilt text (map t es) (s.insertAll text ps).toMap
  | set {t : Table} {xs : List (Filed Value)} {s : Shelf} {ys : List Value}
    (rep : t.rep = s.table.rep) (empty : s.entries = [])
    (h : List.Forall₂ (fun x y => Rebuilt text x.value y) xs ys) :
    Rebuilt text (set t xs) (s.insertAll text (ys.map (·, .nil))).toSet
  | quoted {v w : Value} (h : Rebuilt text v w) : Rebuilt text (quoted v) (quoted w)

omit [Tables] in
theorem exists_left_of_forall₂ {α β : Type} {R : α → β → Prop} {xs : List α} {ys : List β} {y : β}
    (h : List.Forall₂ R xs ys) (hy : y ∈ ys) : ∃ x ∈ xs, R x y :=
  exists_of_forall₂ h.flip hy

omit [Tables] in
theorem forall_right_of_forall₂ {α β : Type} {R : α → β → Prop} {P : β → Prop} {xs : List α}
    {ys : List β} (h : List.Forall₂ R xs ys) (step : ∀ x ∈ xs, ∀ y, R x y → P y) :
    ∀ y ∈ ys, P y := by
  intro y hy
  obtain ⟨x, hx, hxy⟩ := exists_left_of_forall₂ h hy
  exact step x hx y hxy

omit [Tables] in
theorem forall₂_both {α β : Type} {R S : α → β → Prop} {xs : List α} {ys : List β}
    (h : List.Forall₂ R xs ys) (h' : List.Forall₂ S xs ys) :
    List.Forall₂ (fun x y => R x y ∧ S x y) xs ys := by
  induction h with
  | nil => exact .nil
  | cons hxy _ ih =>
    cases h' with
    | cons hxy' rest => exact .cons ⟨hxy, hxy'⟩ (ih rest)

omit [Tables] in
theorem forall₂_comp {α β γ : Type} {R : α → β → Prop} {S : β → γ → Prop} {T : α → γ → Prop}
    (step : ∀ x y z, R x y → S y z → T x z) {xs : List α} {ys : List β} {zs : List γ}
    (h : List.Forall₂ R xs ys) (h' : List.Forall₂ S ys zs) : List.Forall₂ T xs zs := by
  induction h generalizing zs with
  | nil =>
    cases h'
    exact .nil
  | cons hxy _ ih =>
    cases h' with
    | cons hyz rest => exact .cons (step _ _ _ hxy hyz) (ih rest)

omit [Tables] in
theorem wellKeyed_toSet {s : Shelf} (h : WellKeyed s.toMap) : WellKeyed s.toSet :=
  everywhere_set (List.pairwise_map.2 h.here) (List.forall_mem_map.2 fun _ he => h.key he)

namespace Rebuilt

variable (text) in
/-- Entries that are the same one by one, and whose keys differ, all go into a table. -/
theorem same_map {s : Shelf} {es : List (Filed Value × Value)} {ps : List (Value × Value)}
    (rep : t.rep = s.table.rep) (empty : s.entries = []) (wv : WellKeyed (.map t es))
    (h : List.Forall₂ (fun e p => (WellKeyed p.1 ∧ e.1.value.same p.1 = true) ∧
      WellKeyed p.2 ∧ e.2.same p.2 = true) es ps) :
    WellKeyed (s.insertAll text ps).toMap ∧
      (Value.map t es).same (s.insertAll text ps).toMap = true := by
  have wk : ∀ p ∈ ps, WellKeyed p.1 := forall_right_of_forall₂ h fun _ _ _ h => h.1.1
  have wx : ∀ p ∈ ps, WellKeyed p.2 := forall_right_of_forall₂ h fun _ _ _ h => h.2.1
  have apart : ps.Pairwise fun p q => Differ p.1 q.1 :=
    pairwise_differ_of_forall₂ (h.imp fun _ _ h => h.1.2) (fun _ he => wv.key he) wk wv.here
  have rep' : t.rep = (s.insertAll text ps).table.rep := by rw [Shelf.insertAll_rep, rep]
  -- filed, the entries match those of the map; the table has them in an order of its own
  have entries : List.Forall₂ SameEntry es (ps.map fun p => (p.1.file text, p.2)) := by
    rw [List.forall₂_map_right_iff]
    exact h.imp fun _ _ h => ⟨h.1.2, h.2.2⟩
  obtain ⟨differ, same⟩ := same_map_of_forall₂ (u := t) rfl wv (List.forall_mem_map.2 wk)
    (List.forall_mem_map.2 wx) entries
  have wfiled : WellKeyed (.map t (ps.map fun p => (p.1.file text, p.2))) :=
    wellKeyed_map differ (List.forall_mem_map.2 wk) (List.forall_mem_map.2 wx)
  have reordered : Reordered (.map t (ps.map fun p => (p.1.file text, p.2)))
      (s.insertAll text ps).toMap :=
    .entries rep' (Shelf.insertAll_of_apart text empty wk apart).symm
  obtain ⟨wr, same'⟩ := wfiled.reordered reordered
  exact ⟨wr, wv.same_trans wfiled wr same same'⟩

/-- What is built once more has keys that differ as before, and is the same. -/
theorem same (h : Rebuilt text v r) (wv : WellKeyed v) : WellKeyed r ∧ v.same r = true := by
  induction v using induction_on_parts generalizing r with
  | step v ih =>
    have step {x y : Value} (hx : x ∈ v.parts) (hxy : Rebuilt text x y) :
        WellKeyed y ∧ x.same y = true := ih x hx hxy (wv.inside hx)
    cases h with
    | atom => exact ⟨wv, wv.same_refl⟩
    | number h => exact ⟨.leaf trivial rfl, same_number_iff.2 ⟨_, rfl, h⟩⟩
    | list h =>
      have hs := forall₂_of_mem (fun x hx y _ hxy => (step hx hxy).2) h
      exact ⟨⟨trivial, forall_right_of_forall₂ h fun x hx y hxy => (step hx hxy).1⟩,
        same_list_iff.2 ⟨_, rfl, hs⟩⟩
    | vector h =>
      have hs := forall₂_of_mem (fun x hx y _ hxy => (step hx hxy).2) h
      exact ⟨⟨trivial, forall_right_of_forall₂ h fun x hx y hxy => (step hx hxy).1⟩,
        same_vector_iff.2 ⟨_, rfl, hs⟩⟩
    | quoted h =>
      obtain ⟨wr, hs⟩ := step (List.mem_singleton_self _) h
      exact ⟨⟨trivial, List.forall_mem_singleton.2 wr⟩, same_quoted_iff.2 ⟨_, rfl, hs⟩⟩
    | @map t es s ps rep empty keys values =>
      exact same_map text rep empty wv (forall₂_of_mem (fun e he p _ hep =>
        ⟨step (key_mem_parts he) hep.1, step (value_mem_parts he) hep.2⟩)
        (forall₂_both keys values))
    | @set t xs s ys rep empty h =>
      -- a set is looked at as a map with nothing under its keys
      have elements := forall₂_of_mem (fun x hx y _ hxy => step (element_mem_parts hx) hxy) h
      have wmap : WellKeyed (.map t (xs.map (·, .nil))) :=
        wellKeyed_map (List.pairwise_map.2 wv.here)
          (List.forall_mem_map.2 fun x hx => wv.element hx)
          (List.forall_mem_map.2 fun _ _ => wellKeyed_nil)
      have entries : List.Forall₂ (fun e p => (WellKeyed p.1 ∧ e.1.value.same p.1 = true) ∧
          WellKeyed p.2 ∧ e.2.same p.2 = true) (xs.map (·, nil)) (ys.map (·, nil)) := by
        rw [List.forall₂_map_left_iff, List.forall₂_map_right_iff]
        exact elements.imp fun _ _ h => ⟨h, wellKeyed_nil, rfl⟩
      obtain ⟨wr, hs⟩ := same_map text rep empty wmap entries
      have bare : (s.insertAll text (ys.map (·, .nil))).Bare :=
        Shelf.Bare.insertAll (fun e he => by simp [empty] at he) ys
      refine ⟨wellKeyed_toSet wr, ?_⟩
      rw [Shelf.toSet, same_set_eq_same_map, bare.map_nil]
      exact hs

/-- Every part of what is built once more is a part built once more. -/
theorem exists_part (h : Rebuilt text v r) (hw : w ∈ r.parts) :
    ∃ u ∈ v.parts, Rebuilt text u w := by
  cases h with
  | atom leaf => simp [leaf] at hw
  | number => exact absurd hw List.not_mem_nil
  | list h | vector h => exact exists_left_of_forall₂ h hw
  | quoted h =>
    obtain rfl := List.mem_singleton.1 hw
    exact ⟨_, List.mem_singleton_self _, h⟩
  | @map t es s ps rep empty keys values =>
    refine forall_parts_map (P := fun w => ∃ u ∈ (Value.map t es).parts, Rebuilt text u w).2
      (fun e he => ?_) w hw
    obtain ⟨⟨p, hp, hkey⟩, q, hq, hvalue⟩ := Shelf.exists_of_mem_insertAll empty he
    obtain ⟨c, hc, key⟩ := exists_left_of_forall₂ keys hp
    obtain ⟨d, hd, value⟩ := exists_left_of_forall₂ values hq
    exact ⟨⟨_, key_mem_parts hc, hkey ▸ key⟩, ⟨_, value_mem_parts hd, hvalue ▸ value⟩⟩
  | @set t xs s ys rep empty h =>
    obtain ⟨f, hf, rfl⟩ := List.mem_map.1 hw
    obtain ⟨e, he, rfl⟩ := List.mem_map.1 hf
    obtain ⟨⟨p, hp, hkey⟩, -⟩ := Shelf.exists_of_mem_insertAll empty he
    obtain ⟨y, hy, rfl⟩ := List.mem_map.1 hp
    obtain ⟨x, hx, rebuilt⟩ := exists_left_of_forall₂ h hy
    exact ⟨_, element_mem_parts hx, hkey ▸ rebuilt⟩

/-- The keys are found, if what is the same as one of them is filed alike. -/
theorem reliable (h : Rebuilt text v r) (wv : WellKeyed v)
    (steady : Everywhere (KeysSteady text) v) : Everywhere (KeysReliable text) r := by
  induction v using induction_on_parts generalizing r with
  | step v ih =>
    have step {x y : Value} (hx : x ∈ v.parts) (hxy : Rebuilt text x y) :
        Everywhere (KeysReliable text) y := ih x hx hxy (wv.inside hx) (steady.inside hx)
    have key {x y : Value} (hx : x ∈ v.parts) (hxy : Rebuilt text x y) (hs : Steady text x) :
        (y.file text).Reliable text := by
      obtain ⟨wy, same⟩ := hxy.same (wv.inside hx)
      exact (reliable_of_steady wy (step hx hxy) (hs.of_same (wv.inside hx) wy same)).file
    refine ⟨?_, fun w hw => ?_⟩
    · cases h with
      | atom leaf => exact keysReliable_leaf leaf
      | @map t es s ps rep empty keys values =>
        intro e he
        obtain ⟨⟨p, hp, hkey⟩, -⟩ := Shelf.exists_of_mem_insertAll empty he
        obtain ⟨d, hd, rebuilt⟩ := exists_left_of_forall₂ keys hp
        exact hkey ▸ key (key_mem_parts hd) rebuilt (steady.here d hd)
      | @set t xs s ys rep empty h =>
        intro f hf
        obtain ⟨e, he, rfl⟩ := List.mem_map.1 hf
        obtain ⟨⟨p, hp, hkey⟩, -⟩ := Shelf.exists_of_mem_insertAll empty he
        obtain ⟨y, hy, rfl⟩ := List.mem_map.1 hp
        obtain ⟨x, hx, rebuilt⟩ := exists_left_of_forall₂ h hy
        exact hkey ▸ key (element_mem_parts hx) rebuilt (steady.here x hx)
      | _ => trivial
    · obtain ⟨u, hu, huw⟩ := h.exists_part hw
      exact step hu huw

end Rebuilt

/-! ### Every value can be built once more -/

mutual

/-- A value built once more from its parts, in tables that begin without room. -/
def rebuild (text : Entity → String) : Value → Value
  | list items => list (rebuildAll text items)
  | vector rep items => vector rep (rebuildAll text items)
  | map t entries => ((Shelf.opened t.rep 0).insertAll text (rebuildEntries text entries)).toMap
  | set t items =>
    ((Shelf.opened t.rep 0).insertAll text ((rebuildItems text items).map (·, .nil))).toSet
  | quoted form => quoted (rebuild text form)
  | v => v
termination_by structural v => v

/-- Several values built once more. -/
def rebuildAll (text : Entity → String) : List Value → List Value
  | [] => []
  | v :: rest => rebuild text v :: rebuildAll text rest
termination_by structural vs => vs

/-- The keys and values of a map built once more. -/
def rebuildEntries (text : Entity → String) : List (Filed Value × Value) → List (Value × Value)
  | [] => []
  | e :: rest => rebuildEntry text e :: rebuildEntries text rest
termination_by structural es => es

/-- A key and its value built once more. -/
def rebuildEntry (text : Entity → String) : Filed Value × Value → Value × Value
  | (⟨k, _⟩, v) => (rebuild text k, rebuild text v)
termination_by structural e => e

/-- The elements of a set built once more. -/
def rebuildItems (text : Entity → String) : List (Filed Value) → List Value
  | [] => []
  | ⟨x, _⟩ :: rest => rebuild text x :: rebuildItems text rest
termination_by structural xs => xs

end

theorem rebuildAll_eq (vs : List Value) : rebuildAll text vs = vs.map (rebuild text) := by
  induction vs with
  | nil => rfl
  | cons v vs ih => rw [rebuildAll, ih, List.map_cons]

theorem rebuildEntries_eq (es : List (Filed Value × Value)) :
    rebuildEntries text es = es.map fun e => (e.1.value.rebuild text, e.2.rebuild text) := by
  induction es with
  | nil => rfl
  | cons e es ih =>
    obtain ⟨⟨k, m⟩, v⟩ := e
    rw [rebuildEntries, ih, List.map_cons, rebuildEntry]

theorem rebuildItems_eq (xs : List (Filed Value)) :
    rebuildItems text xs = xs.map fun x => x.value.rebuild text := by
  induction xs with
  | nil => rfl
  | cons x xs ih => rw [rebuildItems, ih, List.map_cons]

variable (text) in
/-- Every value can be built once more. -/
theorem rebuilt_rebuild (v : Value) : Rebuilt text v (v.rebuild text) := by
  induction v using induction_on_parts with
  | step v ih =>
    cases v with
    | list items =>
      rw [rebuild, rebuildAll_eq]
      exact .list (List.forall₂_map_right_iff.2 (List.forall₂_same.2 ih))
    | vector rep items =>
      rw [rebuild, rebuildAll_eq]
      exact .vector (List.forall₂_map_right_iff.2 (List.forall₂_same.2 ih))
    | map t es =>
      rw [rebuild, rebuildEntries_eq]
      refine .map rfl rfl ?_ ?_
      · exact List.forall₂_map_right_iff.2
          (List.forall₂_same.2 fun e he => ih _ (key_mem_parts he))
      · exact List.forall₂_map_right_iff.2
          (List.forall₂_same.2 fun e he => ih _ (value_mem_parts he))
    | set t xs =>
      rw [rebuild, rebuildItems_eq]
      exact .set rfl rfl (List.forall₂_map_right_iff.2
        (List.forall₂_same.2 fun x hx => ih _ (element_mem_parts hx)))
    | quoted form => exact .quoted (ih form (List.mem_singleton_self _))
    | _ => exact .atom rfl

/-! ### Finding what has been built once more -/

/-- Keys are found where they have been built once more: by what they are hashed by now, a look-up
comes past what was built of them. -/
def KeysRefound (text : Entity → String) : Value → Prop
  | map _ entries => ∀ e ∈ entries, ∀ u,
      Tables.meets u ((e.1.value.rebuild text).mark text) (e.1.value.mark text) = true
  | set _ items => ∀ x ∈ items, ∀ u,
      Tables.meets u ((x.value.rebuild text).mark text) (x.value.mark text) = true
  | _ => True

/-- Keys that have been built once more are found where they were filed before. -/
def KeysCurrent (text : Entity → String) : Value → Prop
  | map t entries => ∀ e ∈ entries,
      Tables.meets t e.1.mark ((e.1.value.rebuild text).mark text) = true
  | set t items => ∀ x ∈ items,
      Tables.meets t x.mark ((x.value.rebuild text).mark text) = true
  | _ => True

variable {es : List (Filed Value × Value)} {xs : List (Filed Value)}

/-- The new table has every entry, with its key and its value built once more. -/
theorem exists_rebuild_map (text : Entity → String) (wv : WellKeyed (map t es)) :
    ∃ u ds, (map t es).rebuild text = map u ds ∧ t.rep = u.rep ∧
      ds.Perm (es.map fun e => ((e.1.value.rebuild text).file text, e.2.rebuild text)) := by
  have keys : ∀ e ∈ es, WellKeyed (e.1.value.rebuild text) ∧
      e.1.value.same (e.1.value.rebuild text) = true :=
    fun e he => (rebuilt_rebuild text e.1.value).same (wv.key he)
  have wk : ∀ p ∈ rebuildEntries text es, WellKeyed p.1 := by
    rw [rebuildEntries_eq]
    exact List.forall_mem_map.2 fun e he => (keys e he).1
  -- the new keys are the same as the old ones, one by one, so they differ as these do
  have apart : (rebuildEntries text es).Pairwise fun p q => Differ p.1 q.1 := by
    refine pairwise_differ_of_forall₂ ?_ (fun e he => wv.key he) wk wv.here
    rw [rebuildEntries_eq, List.forall₂_map_right_iff, List.forall₂_same]
    exact fun e he => (keys e he).2
  have perm := Shelf.insertAll_of_apart text (s := .opened t.rep 0) rfl wk apart
  rw [rebuildEntries_eq, List.map_map] at perm
  have rebuilt : (map t es).rebuild text = ((Shelf.opened t.rep 0).insertAll text
      (es.map fun e => (e.1.value.rebuild text, e.2.rebuild text))).toMap := by
    rw [rebuild, rebuildEntries_eq]
  exact ⟨_, _, rebuilt, (Shelf.insertAll_rep (s := .opened t.rep 0) _).symm, perm⟩

theorem exists_rebuild_set (text : Entity → String) (wv : WellKeyed (set t xs)) :
    ∃ u ys, (set t xs).rebuild text = set u ys ∧ t.rep = u.rep ∧
      ys.Perm (xs.map fun x => (x.value.rebuild text).file text) := by
  have elements : ∀ x ∈ xs, WellKeyed (x.value.rebuild text) ∧
      x.value.same (x.value.rebuild text) = true :=
    fun x hx => (rebuilt_rebuild text x.value).same (wv.element hx)
  let ps : List (Value × Value) := xs.map fun x => (x.value.rebuild text, .nil)
  have wk : ∀ p ∈ ps, WellKeyed p.1 := List.forall_mem_map.2 fun x hx => (elements x hx).1
  have apart : ps.Pairwise fun p q => Differ p.1 q.1 := by
    refine pairwise_differ_of_forall₂ ?_ (fun x hx => wv.element hx) wk wv.here
    rw [List.forall₂_map_right_iff, List.forall₂_same]
    exact fun x hx => (elements x hx).2
  have perm := (Shelf.insertAll_of_apart text (s := .opened t.rep 0) rfl wk apart).map
    (·.1)
  rw [List.map_map, List.map_map] at perm
  have rebuilt : (set t xs).rebuild text =
      ((Shelf.opened t.rep 0).insertAll text ps).toSet := by
    rw [rebuild, rebuildItems_eq, List.map_map]
    rfl
  exact ⟨_, _, rebuilt, (Shelf.insertAll_rep (s := .opened t.rep 0) ps).symm, perm⟩

/-- A value agrees with itself built once more, if its keys are found there. -/
theorem agrees_rebuild (wv : WellKeyed v) (found : Everywhere (KeysRefound text) v) :
    v.agrees text (v.rebuild text) = true := by
  induction v using induction_on_parts with
  | step v ih =>
    have step {x : Value} (hx : x ∈ v.parts) : x.agrees text (x.rebuild text) = true :=
      ih x hx (wv.inside hx) (found.inside hx)
    cases v with
    | list items =>
      rw [rebuild, rebuildAll_eq]
      exact agrees_list (List.forall₂_map_right_iff.2 (List.forall₂_same.2 fun x hx => step hx))
    | vector rep items =>
      rw [rebuild, rebuildAll_eq]
      exact agrees_vector (List.forall₂_map_right_iff.2 (List.forall₂_same.2 fun x hx => step hx))
    | map t es =>
      have wr := ((rebuilt_rebuild text (map t es)).same wv).1
      obtain ⟨u, ds, rebuilt, rep, perm⟩ := exists_rebuild_map text wv
      rw [rebuilt] at wr ⊢
      refine agrees_map_of_matched wv wr rep (by simpa using perm.length_eq.symm) fun e he => ?_
      exact ⟨_, perm.mem_iff.2 (List.mem_map_of_mem he), Bool.and_eq_true_iff.2
        ⟨found.here e he u, step (key_mem_parts he)⟩, step (value_mem_parts he)⟩
    | set t xs =>
      obtain ⟨u, ys, rebuilt, rep, perm⟩ := exists_rebuild_set text wv
      rw [rebuilt]
      refine agrees_set_of_matched rep (by simpa using perm.length_eq.symm) fun x hx => ?_
      exact ⟨_, perm.mem_iff.2 (List.mem_map_of_mem hx), Bool.and_eq_true_iff.2
        ⟨found.here x hx u, step (element_mem_parts hx)⟩⟩
    | quoted form =>
      rw [rebuild]
      exact agrees_quoted (step (List.mem_singleton_self _))
    | _ => exact agrees_of_same wv wv (.leaf trivial rfl) wv.same_refl

/-- A value built once more agrees with what it was, if its keys are found there. -/
theorem rebuild_agrees (wv : WellKeyed v) (current : Everywhere (KeysCurrent text) v) :
    (v.rebuild text).agrees text v = true := by
  induction v using induction_on_parts with
  | step v ih =>
    have step {x : Value} (hx : x ∈ v.parts) : (x.rebuild text).agrees text x = true :=
      ih x hx (wv.inside hx) (current.inside hx)
    cases v with
    | list items =>
      rw [rebuild, rebuildAll_eq]
      exact agrees_list (List.forall₂_map_left_iff.2 (List.forall₂_same.2 fun x hx => step hx))
    | vector rep items =>
      rw [rebuild, rebuildAll_eq]
      exact agrees_vector (List.forall₂_map_left_iff.2 (List.forall₂_same.2 fun x hx => step hx))
    | map t es =>
      have wr := ((rebuilt_rebuild text (map t es)).same wv).1
      obtain ⟨u, ds, rebuilt, rep, perm⟩ := exists_rebuild_map text wv
      rw [rebuilt] at wr ⊢
      refine agrees_map_of_matched wr wv rep.symm (by simpa using perm.length_eq) fun d hd => ?_
      obtain ⟨e, he, rfl⟩ := List.mem_map.1 (perm.mem_iff.1 hd)
      exact ⟨e, he, Bool.and_eq_true_iff.2 ⟨current.here e he, step (key_mem_parts he)⟩,
        step (value_mem_parts he)⟩
    | set t xs =>
      obtain ⟨u, ys, rebuilt, rep, perm⟩ := exists_rebuild_set text wv
      rw [rebuilt]
      refine agrees_set_of_matched rep.symm (by simpa using perm.length_eq) fun y hy => ?_
      obtain ⟨x, hx, rfl⟩ := List.mem_map.1 (perm.mem_iff.1 hy)
      exact ⟨x, hx, Bool.and_eq_true_iff.2 ⟨current.here x hx, step (element_mem_parts hx)⟩⟩
    | quoted form =>
      rw [rebuild]
      exact agrees_quoted (step (List.mem_singleton_self _))
    | _ => exact agrees_of_same wv wv (.leaf trivial rfl) wv.same_refl

end Lisp.Value
