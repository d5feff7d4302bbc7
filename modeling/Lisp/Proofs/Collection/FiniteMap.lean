import Lisp.Proofs.Collection.Construction
import Lisp.Proofs.Collection.Independence
import Lisp.Proofs.Machine.Change
import Lisp.Proofs.Number.RoundTrip

/-!
# Maps as finite maps, vectors as rows

A map is told by what it has under each key. Setting an entry changes this for the keys that are the
same as the one that is set, removing an entry likewise, and the size goes with it. Merging lets the
last map win that has a key. A vector takes whole numbers as keys: below its length they say what is
replaced, at its length they say that something is added, and no other key will do.

All this is for maps whose keys are found, and for new keys that will be. A key that is a map or a
set is filed by what it contained as text. After a change to an object inside, the key is no longer
found, until its map happens to grow and to file it again. Then setting one key brings another one
back.

## Main definitions

* `Collection.held?` — what a map has under a key
* `Collection.Updated` — a map is another one but for one key
* `Collection.MapLaws`, `Collection.MergeLaws`, `Collection.VectorLaws` — the laws
* `Collection.StandsFor` — the position that a key stands for

## Main results

* `Number.toIndex?_eq_some_iff` — exactly whole numbers that are not negative stand for positions
* `Collection.finite_map_laws` — all laws, for every heap and in both modes
* `Collection.stale_key_found_again` — they need not hold for keys that are not found
-/

namespace Lisp

namespace Number

/-- The rational number that a double stands for, if it is finite. -/
def rational? (x : Number) : Option ℚ :=
  match x.exact with
  | .finite negative m q => some ((if negative then -1 else 1) * (m * (2 : ℚ) ^ q))
  | _ => none

/-- A magnitude that is a natural number is what is left of it without a fractional part. -/
theorem dyadicIsInteger_of_eq {m n : Nat} {q : Int} (h : (m * (2 : ℚ) ^ q : ℚ) = n) :
    dyadicIsInteger m q = true ∧ truncate m q = n := by
  have integral : dyadicIsInteger m q = true := by
    by_cases hq : 0 ≤ q
    · simp [dyadicIsInteger, hq]
    · obtain ⟨k, hk⟩ := Int.eq_ofNat_of_zero_le (Int.neg_nonneg.2 (Int.le_of_lt (Int.not_le.1 hq)))
      obtain rfl : q = -k := by omega
      have whole : m = n * 2 ^ k := by
        rw [zpow_neg, zpow_natCast, ← div_eq_mul_inv, div_eq_iff (by positivity)] at h
        exact_mod_cast h
      simp [dyadicIsInteger, whole]
  refine ⟨integral, ?_⟩
  have value := value_truncate integral
  rw [h] at value
  exact_mod_cast value

/-- The numbers that stand for a position are the natural ones. Beyond the largest position they
all stand for that one. -/
theorem toIndex?_eq_some_iff {x : Number} {i : Nat} :
    x.toIndex? = some i ↔ ∃ n : Nat, x.rational? = some (n : ℚ) ∧ i = min n (2 ^ 64 - 1) := by
  unfold toIndex? rational?
  cases x.exact with
  | nan => simp
  | infinite negative => simp
  | finite negative m q =>
    simp only [Option.some.injEq, Option.ite_none_right_eq_some, Bool.and_eq_true, Bool.or_eq_true,
      Bool.not_eq_true', decide_eq_true_eq]
    constructor
    · rintro ⟨⟨integral, sign⟩, rfl⟩
      refine ⟨truncate m q, ?_, rfl⟩
      rw [value_truncate integral]
      rcases sign with rfl | rfl
      · simp
      · simp
    · rintro ⟨n, value, rfl⟩
      cases negative with
      | false =>
        simp only [Bool.false_eq_true, if_false, one_mul] at value
        obtain ⟨integral, same⟩ := dyadicIsInteger_of_eq value
        exact ⟨⟨integral, .inl rfl⟩, by rw [same]; rfl⟩
      | true =>
        -- of the negative numbers only zero is a natural one
        have positive : (0 : ℚ) < 2 ^ q := by positivity
        have hm : m = 0 := by
          by_contra hne
          have hpos : (0 : ℚ) < m := by exact_mod_cast Nat.pos_of_ne_zero hne
          have hn : (0 : ℚ) ≤ n := n.cast_nonneg
          have := mul_pos hpos positive
          simp only [if_true] at value
          linarith
        subst hm
        have hn : n = 0 := by simpa using value.symm
        subst hn
        exact ⟨⟨dyadicIsInteger_zero q, .inr rfl⟩, by rw [truncate_zero]; rfl⟩

end Number

open Value

namespace Collection

variable [Tables] {h : Heap} {mode rep : Representation} {k v : Value} {t u : Table} {s : Shelf}
  {es ds : List (Filed Value × Value)} {xs : List Value}

/-! ### What stands under a key -/

/-- What a map has under a key. -/
def held? (h : Heap) (m k : Value) : Option Value :=
  match m with
  | .map t es => (Shelf.mk t es).find? h.text k
  | _ => none

omit [Tables] in
theorem merged_map : Merged (.map t es) := trivial

theorem get_eq_held? {m : Value} (hm : Merged m) : get h m k = (held? h m k).getD .nil := by
  cases m with
  | nil | map t es => rfl
  | _ => exact hm.elim

theorem contains_eq_held? {m : Value} (hm : Merged m) :
    contains h m k = (held? h m k).isSome := by
  cases m with
  | nil | map t es => rfl
  | _ => exact hm.elim

/-- What stands under a key that is a value does so under what is the same. -/
theorem held?_eq_under? (settled : Settled h.text es) (wk : WellKeyed k) :
    held? h (.map t es) k = under? k es :=
  find?_eq_under? (s := ⟨t, es⟩) settled wk

/-- One map is another one with something else, or nothing, under one key. -/
structure Updated (h : Heap) (m k : Value) (o : Option Value) (m' : Value) : Prop where
  lawful : Lawful h.text m'
  get : ∀ j, WellKeyed j → get h m' j = if j.agrees h.text k then o.getD .nil else get h m j
  contains : ∀ j, WellKeyed j →
    contains h m' j = if j.agrees h.text k then o.isSome else contains h m j
  count : ∃ n n', count m = .ok n ∧ count m' = .ok n' ∧
    n' + (Collection.contains h m k).toNat = n + o.isSome.toNat

/-- A map is updated if what stands under its keys is, and its size goes with it. -/
theorem updated_of_under? {o : Option Value} (settled : Settled h.text es)
    (settled' : Settled h.text ds) (wk : WellKeyed k) (found : Findable h.text k)
    (under : ∀ j, WellKeyed j → under? j ds = if k.same j then o else under? j es)
    (length : ds.length + (under? k es).isSome.toNat = es.length + o.isSome.toNat) :
    Updated h (.map t es) k o (.map u ds) := by
  have equal {j : Value} (wj : WellKeyed j) : j.agrees h.text k = k.same j := by
    rw [agrees_eq_same wj wk found, Bool.eq_iff_iff]
    exact ⟨wj.same_symm wk, wk.same_symm wj⟩
  have held {j : Value} (wj : WellKeyed j) :
      held? h (.map u ds) j = if j.agrees h.text k then o else held? h (.map t es) j := by
    rw [held?_eq_under? settled' wj, held?_eq_under? settled wj, under j wj, equal wj]
  refine ⟨settled'.lawful, fun j wj => ?_, fun j wj => ?_, es.length, ds.length, rfl, rfl, ?_⟩
  · rw [get_eq_held? merged_map, get_eq_held? merged_map, held wj]
    split
    · rfl
    · rfl
  · rw [contains_eq_held? merged_map, contains_eq_held? merged_map, held wj]
    split
    · rfl
    · rfl
  · rw [contains_eq_held? merged_map, held?_eq_under? settled wk]
    exact length

omit [Tables] in
/-- An entry that is there takes up room. -/
theorem length_pos_of_under? (h : (under? k es).isSome) : 0 < es.length := by
  cases es with
  | nil => cases h
  | cons d es => exact Nat.succ_pos _

theorem updated_insert (lawful : Lawful h.text s.toMap) (hk : Reliable h.text k)
    (wv : WellKeyed v) : Updated h s.toMap k (some v) (s.insert h.text k v).toMap := by
  have settled := lawful.settled
  refine updated_of_under? settled (settled.insert hk wv) hk.wellKeyed hk.findable
    (fun j wj => under?_insert settled hk wv wj) ?_
  rw [length_insert settled hk.wellKeyed]
  cases (under? k s.entries).isSome with
  | true => rfl
  | false => rfl

theorem updated_erase (lawful : Lawful h.text s.toMap) (wk : WellKeyed k)
    (found : Findable h.text k) : Updated h s.toMap k none (s.erase h.text k).toMap := by
  have settled := lawful.settled
  refine updated_of_under? settled (settled.erase k) wk found
    (fun j wj => under?_erase settled wk wj) ?_
  rw [length_erase settled wk]
  cases has : (under? k s.entries).isSome with
  | true =>
    have := length_pos_of_under? has
    simp only [if_true, Bool.toNat_true, Option.isSome_none, Bool.toNat_false]
    omega
  | false => rfl

/-- What setting, removing and adding entries do to a map: the result is a map in the same
representation, updated. The key that is set serves as a key, and those in the key that is removed
are found. -/
structure MapLaws (h : Heap) (mode : Representation) (t : Table)
    (es : List (Filed Value × Value)) : Prop where
  assoc : ∀ k v, Reliable h.text k → WellKeyed v → ∃ t' es',
    assoc h mode (.map t es) k v = .ok (.map t' es') ∧ t'.rep = t.rep ∧
      Updated h (.map t es) k (some v) (.map t' es')
  dissoc : ∀ k, WellKeyed k → Findable h.text k → ∃ t' es',
    dissoc h (.map t es) k = .ok (.map t' es') ∧ t'.rep = t.rep ∧
      Updated h (.map t es) k none (.map t' es')
  conj : ∀ k v,
    conj h mode (.map t es) (.list [k, v]) = Collection.assoc h mode (.map t es) k v ∧
    ∀ rep', conj h mode (.map t es) (.vector rep' [k, v]) =
      Collection.assoc h mode (.map t es) k v

theorem mapLaws (mode : Representation) (lawful : Lawful h.text (.map t es)) :
    MapLaws h mode t es where
  assoc _ _ hk wv := ⟨_, _, rfl, Shelf.insert_rep, updated_insert (s := ⟨t, es⟩) lawful hk wv⟩
  dissoc _ wk found := ⟨_, _, rfl, Shelf.erase_rep, updated_erase (s := ⟨t, es⟩) lawful wk found⟩
  conj _ _ := ⟨rfl, fun _ => rfl⟩

/-! ### Merging -/

/-- The representation of a map. -/
def mapRep? : Value → Option Representation
  | .map t _ => some t.rep
  | _ => none

/-- Nothing and maps are merged into nothing or a map, whose representation is that of the first. -/
theorem exists_mergeInto (h : Heap) (mode : Representation) {b : Value} (hb : Merged b)
    (hv : Merged v) :
    ∃ r, mergeInto h mode b v = .ok r ∧ Merged r ∧ mapRep? r = (mapRep? b).or (mapRep? v) := by
  cases v with
  | nil => exact ⟨b, rfl, hb, Option.or_none.symm⟩
  | map u ds =>
    cases b with
    | nil => exact ⟨.map u ds, rfl, trivial, rfl⟩
    | map t es =>
      refine ⟨_, foldlM_assoc h mode ⟨t, es⟩ ds, trivial, ?_⟩
      exact congrArg some (Shelf.insertAll_rep _)
    | _ => exact hb.elim
  | _ => exact hv.elim

theorem mergeInto_of_not_merged {b : Value} (hv : ¬ Merged v) :
    mergeInto h mode b v = .error (.mismatch (.notMergeable (h.print v))) := by
  cases v with
  | nil | map u ds => exact (hv trivial).elim
  | _ => rfl

/-- A merge of nothing and maps has the representation of the first map. -/
theorem exists_foldlM_mergeInto (h : Heap) (mode : Representation) {b : Value}
    {colls : List Value} (hb : Merged b) (hcolls : ∀ v ∈ colls, Merged v) :
    ∃ r, colls.foldlM (mergeInto h mode) b = .ok r ∧ Merged r ∧
      mapRep? r = (mapRep? b).or (colls.findSome? mapRep?) := by
  induction colls generalizing b with
  | nil => exact ⟨b, rfl, hb, Option.or_none.symm⟩
  | cons v colls ih =>
    rw [List.forall_mem_cons] at hcolls
    obtain ⟨b', merged, hb', representation⟩ := exists_mergeInto h mode hb hcolls.1
    obtain ⟨r, rest, hr, representation'⟩ := ih hb' hcolls.2
    refine ⟨r, ?_, hr, ?_⟩
    · rw [List.foldlM_cons, merged]
      exact rest
    · rw [representation', representation, Option.or_assoc, List.findSome?_cons]
      cases mapRep? v with
      | none => rfl
      | some rep => rfl

/-- Anything else cannot be merged, wherever it stands. -/
theorem foldlM_mergeInto_of_not_merged (h : Heap) (mode : Representation) {b : Value}
    {colls : List Value} (hb : Merged b) (hcolls : ∃ v ∈ colls, ¬ Merged v) :
    ∃ c, colls.foldlM (mergeInto h mode) b = .error c := by
  induction colls generalizing b with
  | nil => exact absurd hcolls (by simp)
  | cons v colls ih =>
    rw [List.foldlM_cons]
    by_cases hv : Merged v
    · obtain ⟨b', merged, hb', -⟩ := exists_mergeInto h mode hb hv
      rw [merged]
      obtain ⟨w, hw, hnot⟩ := hcolls
      rcases List.mem_cons.1 hw with rfl | hw
      · exact absurd hv hnot
      · exact ih hb' ⟨w, hw, hnot⟩
    · rw [mergeInto_of_not_merged hv]
      exact ⟨_, rfl⟩

/-- What stands under a key after a map has been merged into another one. -/
theorem held?_mergeInto {b r : Value} (hb : Merged b) (lb : Lawful h.text b)
    (lv : Lawful h.text v) (wk : WellKeyed k) (hr : mergeInto h mode b v = .ok r) :
    held? h r k = (held? h v k).or (held? h b k) := by
  cases v with
  | nil =>
    cases hr
    rfl
  | map u ds =>
    cases b with
    | nil =>
      cases hr
      exact Option.or_none.symm
    | map t es =>
      have result := foldlM_assoc h mode ⟨t, es⟩ ds
      obtain rfl := Except.ok.inj (result.symm.trans hr)
      have old : Settled h.text (Shelf.mk t es).entries := lb.settled
      have new : ∀ p ∈ ds.map fun d => (d.1.value, d.2),
          Reliable h.text p.1 ∧ WellKeyed p.2 :=
        List.forall_mem_map.2 fun d hd => ⟨(lv.settled.keys d hd).value, lv.settled.values d hd⟩
      have settled := old.insertAll new
      rw [Shelf.toMap, held?_eq_under? settled wk, held?_eq_under? lb.settled wk,
        held?_eq_under? lv.settled wk]
      exact under?_insertAll old lv.settled wk
    | _ => exact hb.elim
  | _ => cases hr

/-- The last of several maps that has a key. -/
def lastWith? (h : Heap) (colls : List Value) (k : Value) : Option Value :=
  colls.reverse.find? fun m => contains h m k

/-- What stands under a key after a merge is what stands there in the last map that has the key. -/
theorem held?_merge {colls : List Value} (lawful : ∀ v ∈ colls, Lawful h.text v)
    (hcolls : ∀ v ∈ colls, Merged v) (wk : WellKeyed k) {r : Value}
    (hr : merge h mode colls = .ok r) :
    Lawful h.text r ∧ Merged r ∧ held? h r k = (lastWith? h colls k).bind (held? h · k) := by
  -- from the right, so that the last map comes last
  induction colls using List.reverseRecOn generalizing r with
  | nil =>
    cases hr
    exact ⟨⟨wellKeyed_nil, trivial⟩, trivial, rfl⟩
  | append_singleton colls v ih =>
    rw [List.forall_mem_append, List.forall_mem_singleton] at lawful hcolls
    rw [merge, List.foldlM_append, ← merge] at hr
    cases before : merge h mode colls with
    | error c =>
      rw [before] at hr
      cases hr
    | ok b =>
      obtain ⟨lb, hb, entry⟩ := ih lawful.1 hcolls.1 before
      have merged : mergeInto h mode b v = .ok r := by
        rw [before] at hr
        change (mergeInto h mode b v >>= pure) = _ at hr
        rwa [bind_pure] at hr
      obtain ⟨r', merged', hr', -⟩ := exists_mergeInto h mode hb hcolls.2
      obtain rfl : r' = r := Except.ok.inj (merged'.symm.trans merged)
      refine ⟨lawful_mergeInto lb lawful.2 merged, hr', ?_⟩
      rw [held?_mergeInto hb lb lawful.2 wk merged, entry, lastWith?, lastWith?,
        List.reverse_append, List.reverse_singleton, List.singleton_append, List.find?_cons,
        contains_eq_held? hcolls.2]
      -- the last map decides if it has the key, and else all those before it
      cases found : held? h v k with
      | none => rfl
      | some x =>
        rw [Option.some_or, Option.isSome_some]
        exact found.symm

/-- What a merge does: it takes nothing and maps only, and the last map with a key wins. -/
structure MergeLaws (h : Heap) (mode : Representation) (colls : List Value) : Prop where
  fails : (∃ c, merge h mode colls = .error c) ↔ ∃ v ∈ colls, ¬ Merged v
  nil : (∀ v ∈ colls, v = .nil) → merge h mode colls = .ok .nil
  representation : ∀ r, merge h mode colls = .ok r → Merged r ∧
    mapRep? r = colls.findSome? mapRep?
  get : (∀ v ∈ colls, Lawful h.text v) → ∀ r, merge h mode colls = .ok r →
    ∀ k, WellKeyed k → get h r k = ((lastWith? h colls k).map (get h · k)).getD .nil
  contains : (∀ v ∈ colls, Lawful h.text v) → ∀ r, merge h mode colls = .ok r →
    ∀ k, WellKeyed k → contains h r k = (lastWith? h colls k).isSome

theorem merged_of_merge {colls : List Value} {r : Value} (hr : merge h mode colls = .ok r) :
    ∀ v ∈ colls, Merged v := by
  by_contra hcolls
  push Not at hcolls
  obtain ⟨c, failed⟩ := foldlM_mergeInto_of_not_merged h mode (b := .nil) trivial hcolls
  cases failed.symm.trans hr

theorem mergeLaws (h : Heap) (mode : Representation) (colls : List Value) :
    MergeLaws h mode colls := by
  have found {v : Value} (hcolls : ∀ v ∈ colls, Merged v) (k : Value)
      (hv : lastWith? h colls k = some v) : v ∈ colls ∧ contains h v k = true ∧ Merged v := by
    unfold lastWith? at hv
    have hmem := List.mem_reverse.1 (List.mem_of_find?_eq_some hv)
    have has := List.find?_some hv
    exact ⟨hmem, has, hcolls v hmem⟩
  constructor
  · constructor
    · rintro ⟨c, failed⟩
      by_contra hcolls
      push Not at hcolls
      obtain ⟨r, merged, -⟩ := exists_foldlM_mergeInto h mode (b := .nil) trivial hcolls
      cases merged.symm.trans failed
    · exact foldlM_mergeInto_of_not_merged h mode trivial
  · intro hnil
    have hcolls : ∀ v ∈ colls, Merged v := fun v hv => hnil v hv ▸ trivial
    have norep : colls.findSome? mapRep? = none :=
      List.findSome?_eq_none_iff.2 fun v hv => hnil v hv ▸ rfl
    obtain ⟨r, merged, hr, representation⟩ :=
      exists_foldlM_mergeInto h mode (b := .nil) trivial hcolls
    rw [norep] at representation
    cases r with
    | nil => exact merged
    | map t es => cases representation
    | _ => exact hr.elim
  · intro r hr
    -- the merge that is known to end is this one
    obtain ⟨r', merged, hmerged, representation⟩ :=
      exists_foldlM_mergeInto h mode (b := .nil) trivial (merged_of_merge hr)
    obtain rfl : r' = r := Except.ok.inj (merged.symm.trans hr)
    exact ⟨hmerged, representation⟩
  · intro lawful r hr k wk
    have hcolls := merged_of_merge hr
    obtain ⟨-, hmerged, entry⟩ := held?_merge lawful hcolls wk hr
    rw [get_eq_held? hmerged, entry]
    cases last : lastWith? h colls k with
    | none => rfl
    | some v => exact (get_eq_held? (found hcolls k last).2.2).symm
  · intro lawful r hr k wk
    have hcolls := merged_of_merge hr
    obtain ⟨-, hmerged, entry⟩ := held?_merge lawful hcolls wk hr
    rw [contains_eq_held? hmerged, entry]
    cases last : lastWith? h colls k with
    | none => rfl
    | some v =>
      obtain ⟨-, has, hv⟩ := found hcolls k last
      rw [contains_eq_held? hv] at has
      exact has

/-! ### Vectors -/

/-- A key stands for a position in a vector if it is a natural number. Beyond the largest position
that a machine word can hold, every number stands for that one. -/
def StandsFor (k : Value) (i : Nat) : Prop :=
  ∃ x n, k = .number x ∧ x.rational? = some ((n : Nat) : ℚ) ∧ i = min n (2 ^ 64 - 1)

omit [Tables] in
theorem indexOf?_eq_some_iff {i : Nat} : indexOf? k = some i ↔ StandsFor k i := by
  constructor
  · intro hk
    cases k with
    | number x =>
      obtain ⟨n, value, rfl⟩ := Number.toIndex?_eq_some_iff.1 hk
      exact ⟨x, n, rfl, value, rfl⟩
    | _ => cases hk
  · rintro ⟨x, n, rfl, value, rfl⟩
    exact Number.toIndex?_eq_some_iff.2 ⟨n, value, rfl⟩

/-- What setting a position does to a vector: it replaces one element, adds one right behind the
last, or fails. -/
structure VectorLaws (h : Heap) (mode rep : Representation) (xs : List Value) : Prop where
  replaces : ∀ k v i, StandsFor k i → i < xs.length → ∃ ys,
    assoc h mode (.vector rep xs) k v = .ok (.vector rep ys) ∧ ys.length = xs.length ∧
      ∀ j, ys[j]? = if j = i then some v else xs[j]?
  appends : ∀ k v, StandsFor k xs.length →
    assoc h mode (.vector rep xs) k v = .ok (.vector rep (xs ++ [v]))
  above : ∀ k v i, StandsFor k i → xs.length < i →
    assoc h mode (.vector rep xs) k v = .error (.mismatch (.outOfBounds i xs.length))
  other : ∀ k v, (∀ i, ¬ StandsFor k i) →
    assoc h mode (.vector rep xs) k v = .error (.mismatch .vectorKey)

theorem vectorLaws (h : Heap) (mode rep : Representation) (xs : List Value) :
    VectorLaws h mode rep xs := by
  constructor
  · intro k v i position below
    refine ⟨xs.set i v, ?_, List.length_set .., fun j => ?_⟩
    · simp only [assoc, indexOf?_eq_some_iff.2 position, if_pos below]
    · rw [List.getElem?_set]
      by_cases hj : i = j
      · subst hj
        rw [if_pos rfl, if_pos rfl, if_pos below]
      · rw [if_neg hj, if_neg (Ne.symm hj)]
  · intro k v position
    simp only [assoc, indexOf?_eq_some_iff.2 position, if_neg (Nat.lt_irrefl _), if_true]
  · intro k v i position above
    simp only [assoc, indexOf?_eq_some_iff.2 position, if_neg (Nat.not_lt.2 (Nat.le_of_lt above)),
      if_neg (Nat.ne_of_gt above)]
  · intro k v nowhere
    have none : indexOf? k = none := by
      cases hk : indexOf? k with
      | none => rfl
      | some i => exact absurd (indexOf?_eq_some_iff.1 hk) (nowhere i)
    simp only [assoc, none]

/-! ### All laws -/

/-- The procedures that look up, change and measure collections. -/
def procedures : List Procedure := [.get, .assoc, .dissoc, .merge, .conj, .count]

/-- A procedure on collections gives its result and leaves the machine as it is. -/
theorem callProcedure_eq (E : Engine) (s : Machine) {proc : Procedure} (hproc : proc ∈ procedures)
    (args : List Value) :
    E.callProcedure proc args s = Eval.ofCause (Library.compute s.heap E.mode proc args) s := by
  simp only [procedures, List.mem_cons, List.not_mem_nil, or_false] at hproc
  rcases hproc with rfl | rfl | rfl | rfl | rfl | rfl <;> rfl

/-- The laws of maps whose keys are found, those of merging and those of vectors, on every heap and
in both modes. The procedures that follow them leave the machine as it is. -/
theorem finite_map_laws (h : Heap) (mode : Representation) :
    (∀ t es, Lawful h.text (.map t es) → MapLaws h mode t es) ∧
    (∀ colls, MergeLaws h mode colls) ∧
    (∀ rep xs, VectorLaws h mode rep xs) ∧
    (∀ (E : Engine) (s : Machine), ∀ proc ∈ procedures, ∀ args,
      E.callProcedure proc args s = Eval.ofCause (Library.compute s.heap E.mode proc args) s ∧
        Eval.after (E.callProcedure proc args) s = s) := by
  refine ⟨fun t es lawful => mapLaws mode lawful, mergeLaws h mode, vectorLaws h mode,
    fun E s proc hproc args => ?_⟩
  have result := callProcedure_eq E s hproc args
  refine ⟨result, ?_⟩
  rw [Eval.after, result]
  cases Library.compute s.heap E.mode proc args with
  | ok a => rfl
  | error c => rfl

end Collection

end Lisp

namespace Lisp.Collection

open Value

/-- A key that is there under another sign of zero is replaced, and the map keeps its size. -/
theorem finite_map_laws_zeros :
    let h : Heap := {}
    let m : Value := mapOf h.text .native [(.number .zero, .kw "a"), (.kw "k", .nil)]
    Lawful h.text m ∧ ∃ r, assoc h .persistent m (.number .negZero) (.kw "b") = .ok r ∧
      get h r (.number .zero) = .kw "b" ∧ count r = .ok 2 := by
  intro h m
  have zero : Reliable h.text (.number .zero) := reliable_leaf rfl (by rintro _ ⟨⟩; rfl)
  have negZero : Reliable h.text (.number .negZero) := reliable_leaf rfl (by rintro _ ⟨⟩; rfl)
  have word (s : String) : Reliable h.text (.kw s) := reliable_leaf rfl nofun
  have lawful : Lawful h.text m := lawful_mapOf (List.forall_mem_cons.2
    ⟨⟨zero, (word "a").wellKeyed⟩, List.forall_mem_singleton.2 ⟨word "k", wellKeyed_nil⟩⟩)
  obtain ⟨maps, -⟩ := finite_map_laws h .persistent
  obtain ⟨t, es, set, -, updated⟩ :=
    (maps _ _ lawful).assoc (.number .negZero) (.kw "b") negZero (word "b").wellKeyed
  have equal : (Value.number .zero).agrees h.text (.number .negZero) = true := by decide
  refine ⟨lawful, _, set, ?_, ?_⟩
  · rw [updated.get _ zero.wellKeyed, if_pos equal]
    rfl
  · obtain ⟨n, n', size, size', grown⟩ := updated.count
    have two : (count m).toOption = some 2 := by decide +kernel
    have has : contains h m (.number .negZero) = true := by decide +kernel
    obtain rfl : n = 2 := Option.some.inj ((congrArg Except.toOption size).symm.trans two)
    change n' + (contains h m (.number .negZero)).toNat = _ at grown
    rw [has] at grown
    rw [size', Nat.add_right_cancel grown]

/-- A map is a key in a full native map, and is filed by an object that changes afterwards. It is
not found any more; but it is found when another key has been set. -/
theorem stale_key_found_again :
    let before : Heap := { objects := #[⟨⟨0⟩, .ofPairs [("a", .bool true)]⟩] }
    let h : Heap := { objects := #[⟨⟨0⟩, .ofPairs [("a", .bool false)]⟩] }
    let k : Value := .mapOf before.text .native [(.kw "o", .entity (.object ⟨0⟩))]
    let m : Value := .mapOf before.text .native
      [(k, .bool true), (.kw "b", .nil), (.kw "c", .nil)]
    contains before m k = true ∧ contains h m k = false ∧ k.agrees h.text (.kw "d") = false ∧
      ∃ r, assoc h .native m (.kw "d") .nil = .ok r ∧ contains h r k = true ∧
        (get h r k).agrees h.text (get h m k) = false := by
  intro before h k m
  refine ⟨?_, ?_, ?_, _, rfl, ?_, ?_⟩
  · decide +kernel
  · decide +kernel
  · decide +kernel
  · decide +kernel
  · decide +kernel

end Lisp.Collection
