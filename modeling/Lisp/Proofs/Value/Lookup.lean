import Lisp.Proofs.Value.Keyed

/-!
# Maps by what stands under their keys

What a map is to the language is told by its size and by what stands under each key. Setting and
removing an entry change what stands under one key, and maps of one size with the same under every
key are the same. So an operation takes maps that are the same to maps that are the same once its
effect on look-ups and sizes is known. A set is looked at as a map with nothing under its keys.

## Main definitions

* `Value.under?` — what stands under a key
* `Value.SameUnder` — the same, or nothing twice

## Main results

* `Value.find?_eq_under?` — where keys are found, look-up finds what stands under a key
* `Value.under?_insert`, `Value.under?_insertAll`, `Value.under?_erase` — what setting and removing
  entries change
* `Value.same_map_iff_under` — maps are told by what stands under their keys
* `Value.same_map_insert`, `Value.same_map_erase` — the same entries set in or removed from the same
  maps
-/

namespace Lisp.Value

/-- Values that are the same are the same as the same values. -/
theorem WellKeyed.same_congr {a b c : Value} (wa : WellKeyed a) (wb : WellKeyed b)
    (wc : WellKeyed c) (h : a.same b = true) : a.same c = b.same c := by
  rw [Bool.eq_iff_iff]
  exact ⟨wb.same_trans wa wc (wa.same_symm wb h), wa.same_trans wb wc h⟩

/-- What stands under a key. -/
def under? (k : Value) (es : List (Filed Value × Value)) : Option Value :=
  (es.find? fun e => e.1.value.same k).map (·.2)

variable {k k' v v' : Value} {t u : Table} {es out xs ys : List (Filed Value × Value)}

theorem under?_cons (d : Filed Value × Value) :
    under? k (d :: es) = if d.1.value.same k then some d.2 else under? k es := by
  unfold under?
  rw [List.find?_cons]
  cases d.1.value.same k with
  | true => rfl
  | false => rfl

theorem under?_refile [Tables] {text : Entity → String} :
    under? k (es.map (Shelf.refileEntry text)) = under? k es := by
  simp [under?, List.find?_map, Function.comp_def, file, Shelf.refileEntry]

theorem under?_congr (h : WellKeyed (map t es)) (wk : WellKeyed k) (wk' : WellKeyed k')
    (hk : k.same k' = true) : under? k es = under? k' es := by
  unfold under?
  congr 1
  refine List.find?_congr fun e he => ?_
  have we := h.key he
  rw [Bool.eq_iff_iff]
  exact ⟨fun hek => we.same_trans wk wk' hek hk,
    fun hek => we.same_trans wk' wk hek (wk.same_symm wk' hk)⟩

theorem under?_eq_some_iff (h : WellKeyed (map t es)) (wk : WellKeyed k) :
    under? k es = some v ↔ ∃ e ∈ es, e.1.value.same k = true ∧ e.2 = v := by
  unfold under?
  rw [Option.map_eq_some_iff]
  constructor
  · rintro ⟨e, he, hv⟩
    have hkey := List.find?_some he
    exact ⟨e, List.mem_of_find?_eq_some he, hkey, hv⟩
  · rintro ⟨e, he, hek, hv⟩
    cases hfind : es.find? fun e => e.1.value.same k with
    | none => simp [List.find?_eq_none.1 hfind e he] at hek
    | some d =>
      -- no other entry has this key
      have hdk := List.find?_some hfind
      have hd := List.mem_of_find?_eq_some hfind
      have hke := (h.key he).same_symm wk hek
      obtain rfl := h.entry_eq hd he ((h.key hd).same_trans wk (h.key he) hdk hke)
      exact ⟨d, rfl, hv⟩

theorem under?_eq_none_iff : under? k es = none ↔ ∀ e ∈ es, e.1.value.same k = false := by
  simp [under?]

/-- The order of entries with keys that differ means nothing. -/
theorem under?_perm (h : WellKeyed (map t es)) (perm : out.Perm es) (wk : WellKeyed k) :
    under? k out = under? k es := by
  have wout : WellKeyed (map t out) := (h.reordered (.entries rfl perm.symm)).1
  refine Option.ext fun v => ?_
  rw [under?_eq_some_iff wout wk, under?_eq_some_iff h wk]
  simp only [perm.mem_iff]

section Change

variable [Tables] {text : Entity → String} {s : Shelf}

/-! ### What stands under a key after a change -/

theorem find?_eq_under? (h : Settled text s.entries) (wk : WellKeyed k) :
    s.find? text k = under? k s.entries := by
  unfold Shelf.find? under?
  rw [List.find?_congr fun e he => (h.keys e he).answers_eq wk s.table]

theorem under?_rearranged (h : Settled text es) (old : Shelf.Rearranged text es out)
    (wk : WellKeyed k) : under? k out = under? k es := by
  cases old with
  | moved perm => exact under?_perm (t := default) h.wellKeyed perm wk
  | refiled perm => rw [under?_perm (t := default) h.refile.wellKeyed perm wk, under?_refile]

/-- Where no key answers, nothing stands under the key. -/
theorem under?_eq_none (h : Settled text es) (wk : WellKeyed k)
    (absent : ∀ e ∈ es, e.1.answers text t k = false) : under? k es = none := by
  refine under?_eq_none_iff.2 fun e he => ?_
  rw [← (h.keys e he).answers_eq wk t, absent e he]

omit [Tables] in
theorem length_of_rearranged (old : Shelf.Rearranged text es out) : out.length = es.length := by
  cases old with
  | moved perm => exact perm.length_eq
  | refiled perm => rw [perm.length_eq, List.length_map]

/-- Setting an entry changes what stands under its key and nothing else. -/
theorem under?_insert (h : Settled text s.entries) (hk : Reliable text k) (wv : WellKeyed v)
    (wk' : WellKeyed k') :
    under? k' (s.insert text k v).entries =
      if k.same k' then some v else under? k' s.entries := by
  have wk := hk.wellKeyed
  have settled := h.insert hk wv
  cases Shelf.inserted_insert text k v s with
  | @replaced t d rest old found new =>
    have hd := (settled_cons_iff.1 (h.rearranged old)).1
    have wd := hd.value.wellKeyed
    rw [hd.answers_eq wk] at found
    -- the key that stays answers to what the old and the new one answer to
    obtain ⟨hkey, hsame⟩ := reliable_survivor s.table.rep hd hk found
    rw [← under?_perm (t := default) settled.wellKeyed new.symm wk',
      ← under?_rearranged h old wk', under?_cons, under?_cons,
      hkey.value.wellKeyed.same_congr wk wk' hsame, wd.same_congr wk wk' found]
    split
    · rfl
    · rfl
  | added old absent new =>
    rw [← under?_perm (t := default) settled.wellKeyed new.symm wk', under?_cons,
      under?_rearranged h old wk']
    rfl

/-- Under a key stands what the entries of another map set there, and else what was there
before. -/
theorem under?_insertAll {ds : List (Filed Value × Value)} (h : Settled text s.entries)
    (hd : Settled text ds) (wk : WellKeyed k) :
    under? k (s.insertAll text (ds.map fun d => (d.1.value, d.2))).entries =
      (under? k ds).or (under? k s.entries) := by
  induction ds generalizing s with
  | nil => rfl
  | cons d ds ih =>
    obtain ⟨key, value, differ, rest⟩ := settled_cons_iff.1 hd
    -- `d` is set first, and what comes later may set its key once more
    have step : s.insertAll text ((d :: ds).map fun d => (d.1.value, d.2)) =
        (s.insert text d.1.value d.2).insertAll text (ds.map fun d => (d.1.value, d.2)) := rfl
    rw [step, ih (h.insert key.value value) rest, under?_insert h key.value value wk, under?_cons]
    split
    · next hsame =>
      -- no entry behind `d` has its key
      have wd := key.value.wellKeyed
      have hnone : under? k ds = none := under?_eq_none_iff.2 fun e he =>
        (differ e he).not_same wd (rest.key he) wk hsame
      rw [hnone, Option.none_or, Option.some_or]
    · rfl

theorem length_insert (h : Settled text s.entries) (wk : WellKeyed k) :
    (s.insert text k v).entries.length =
      if (under? k s.entries).isSome then s.entries.length else s.entries.length + 1 := by
  cases Shelf.inserted_insert text k v s with
  | @replaced t d rest old found new =>
    have hd := (settled_cons_iff.1 (h.rearranged old)).1
    rw [hd.answers_eq wk] at found
    rw [← under?_rearranged h old wk, under?_cons, if_pos found, Option.isSome_some, if_pos rfl,
      new.length_eq, ← length_of_rearranged old, List.length_cons, List.length_cons]
  | added old absent new =>
    rw [← under?_rearranged h old wk, under?_eq_none (h.rearranged old) wk absent,
      Option.isSome_none, if_neg Bool.false_ne_true, new.length_eq, List.length_cons,
      length_of_rearranged old]

/-- Removing an entry leaves nothing under its key and changes nothing else. -/
theorem under?_erase (h : Settled text s.entries) (wk : WellKeyed k) (wk' : WellKeyed k') :
    under? k' (s.erase text k).entries = if k.same k' then none else under? k' s.entries := by
  have settled := h.erase k
  cases Shelf.erased_erase text k s with
  | @removed d old found =>
    obtain ⟨hd, -, differ, -⟩ := settled_cons_iff.1 (h.perm old.symm)
    have wd := hd.value.wellKeyed
    rw [hd.answers_eq wk] at found
    rw [← under?_perm (t := default) h.wellKeyed old.symm wk', under?_cons,
      wd.same_congr wk wk' found]
    split
    · next hkk' =>
      -- all other keys differ from `d`, so none of them is found any more
      exact under?_eq_none_iff.2 fun e he =>
        (differ e he).not_same wd (settled.key he) wk' (wd.same_trans wk wk' found hkk')
    · rfl
  | kept absent same =>
    rw [same]
    split
    · next hkk' =>
      rw [← under?_congr (t := default) h.wellKeyed wk wk' hkk', under?_eq_none h wk absent]
    · rfl

theorem length_erase (h : Settled text s.entries) (wk : WellKeyed k) :
    (s.erase text k).entries.length =
      if (under? k s.entries).isSome then s.entries.length - 1 else s.entries.length := by
  cases Shelf.erased_erase text k s with
  | @removed d old found =>
    have hd := (settled_cons_iff.1 (h.perm old.symm)).1
    rw [hd.answers_eq wk] at found
    rw [← under?_perm (t := default) h.wellKeyed old.symm wk, under?_cons, if_pos found,
      Option.isSome_some, if_pos rfl, old.length_eq, List.length_cons, Nat.add_sub_cancel]
  | kept absent same =>
    rw [same, under?_eq_none h wk absent, Option.isSome_none, if_neg Bool.false_ne_true]

end Change

/-! ### Maps that are the same -/

/-- Two things that may stand under a key: the same, or nothing twice. -/
abbrev SameUnder : Option Value → Option Value → Prop := Option.Rel fun a b => a.same b = true

theorem SameUnder.isSome_eq {o o' : Option Value} (h : SameUnder o o') : o.isSome = o'.isSome := by
  cases h with
  | some _ => rfl
  | none => rfl

theorem exists_under?_of_same (hx : WellKeyed (map t xs)) (hy : WellKeyed (map u ys))
    (h : (map t xs).same (map u ys) = true) (wk : WellKeyed k) (hv : under? k xs = some v) :
    ∃ w, under? k ys = some w ∧ v.same w = true := by
  obtain ⟨_, _, hys, rep, length, within⟩ := same_map_iff.1 h
  cases hys
  obtain ⟨d, hd, hdk, rfl⟩ := (under?_eq_some_iff hx wk).1 hv
  obtain ⟨e, he, hde⟩ := exists_of_entryWithin (entriesWithin_iff.1 within d hd)
  have hed := (hx.key hd).same_symm (hy.key he) hde.1
  exact ⟨e.2, (under?_eq_some_iff hy wk).2
    ⟨e, he, (hy.key he).same_trans (hx.key hd) wk hed hdk, rfl⟩, hde.2⟩

theorem sameUnder_of_same (hx : WellKeyed (map t xs)) (hy : WellKeyed (map u ys))
    (h : (map t xs).same (map u ys) = true) (wk : WellKeyed k) :
    SameUnder (under? k xs) (under? k ys) := by
  cases hv : under? k xs with
  | some v =>
    obtain ⟨w, hw, hvw⟩ := exists_under?_of_same hx hy h wk hv
    rw [hw]
    exact .some hvw
  | none =>
    cases hw : under? k ys with
    | none => exact .none
    | some w =>
      obtain ⟨v, hv', -⟩ := exists_under?_of_same hy hx (hx.same_symm hy h) wk hw
      simp [hv] at hv'

/-- Well-keyed maps of one representation are the same exactly if they have the same size and the
same under every key. -/
theorem same_map_iff_under (hx : WellKeyed (map t xs)) (hy : WellKeyed (map u ys)) :
    (map t xs).same (map u ys) = true ↔ t.rep = u.rep ∧
      xs.length = ys.length ∧ ∀ k, WellKeyed k → SameUnder (under? k xs) (under? k ys) := by
  constructor
  · intro h
    obtain ⟨_, _, hys, rep, length, -⟩ := same_map_iff.1 h
    cases hys
    exact ⟨rep, length, fun k wk => sameUnder_of_same hx hy h wk⟩
  · rintro ⟨rep, length, under⟩
    refine same_map_of_matched rep hx hy length fun d hd => ?_
    have wd := hx.key hd
    -- the entry `d` is what stands under its own key
    have hdd := (under?_eq_some_iff hx wd).2 ⟨d, hd, wd.same_refl, rfl⟩
    have hrel := under d.1.value wd
    rw [hdd] at hrel
    cases hw : under? d.1.value ys with
    | none => simp [hw] at hrel
    | some w =>
      rw [hw] at hrel
      obtain ⟨e, he, hed, rfl⟩ := (under?_eq_some_iff hy wd).1 hw
      cases hrel with
      | some hde => exact ⟨e, he, (hy.key he).same_symm wd hed, hde⟩

/-- What stands under every key tells the size too. -/
theorem length_le_of_sameUnder (hx : WellKeyed (map t xs)) (hy : WellKeyed (map u ys))
    (h : ∀ k, WellKeyed k → SameUnder (under? k xs) (under? k ys)) : xs.length ≤ ys.length := by
  refine length_le_of_related (R := fun d e => d.1.value.same e.1.value = true) ?_ fun d hd => ?_
  · -- an entry with the key of two others would make their keys the same
    refine List.Pairwise.imp_of_mem (fun {d d'} hd hd' differ e he hde hd'e => ?_) hx.here
    exact Bool.eq_false_iff.1 (differ.not_same (hx.key hd) (hx.key hd') (hy.key he) hde) hd'e
  · have wd := hx.key hd
    have hrel := h d.1.value wd
    rw [(under?_eq_some_iff hx wd).2 ⟨d, hd, wd.same_refl, rfl⟩] at hrel
    cases hw : under? d.1.value ys with
    | none =>
      rw [hw] at hrel
      cases hrel
    | some w =>
      obtain ⟨e, he, hed, -⟩ := (under?_eq_some_iff hy wd).1 hw
      exact ⟨e, he, (hy.key he).same_symm wd hed⟩

/-- Well-keyed maps with the same under every key are the same. -/
theorem same_map_of_sameUnder (rep : t.rep = u.rep) (hx : WellKeyed (map t xs))
    (hy : WellKeyed (map u ys)) (h : ∀ k, WellKeyed k → SameUnder (under? k xs) (under? k ys)) :
    (map t xs).same (map u ys) = true := by
  have back : ∀ k, WellKeyed k → SameUnder (under? k ys) (under? k xs) := by
    intro k wk
    have hrel := h k wk
    cases hv : under? k xs with
    | none =>
      rw [hv] at hrel
      cases hw : under? k ys with
      | none => exact .none
      | some w => simp [hw] at hrel
    | some v =>
      rw [hv] at hrel
      cases hw : under? k ys with
      | none => simp [hw] at hrel
      | some w =>
        rw [hw] at hrel
        obtain ⟨d, hd, -, rfl⟩ := (under?_eq_some_iff hx wk).1 hv
        obtain ⟨e, he, -, rfl⟩ := (under?_eq_some_iff hy wk).1 hw
        cases hrel with
        | some hde => exact .some ((hx.value hd).same_symm (hy.value he) hde)
  exact (same_map_iff_under hx hy).2 ⟨rep, Nat.le_antisymm (length_le_of_sameUnder hx hy h)
    (length_le_of_sameUnder hy hx back), h⟩

/-- It is enough to look at keys that stand in one of the maps. -/
theorem sameUnder_of_keys (hx : WellKeyed (map t xs)) (hy : WellKeyed (map u ys))
    (left : ∀ d ∈ xs, SameUnder (under? d.1.value xs) (under? d.1.value ys))
    (right : ∀ e ∈ ys, SameUnder (under? e.1.value xs) (under? e.1.value ys))
    (wk : WellKeyed k) : SameUnder (under? k xs) (under? k ys) := by
  have along {j : Value} (wj : WellKeyed j) (hjk : j.same k = true)
      (h : SameUnder (under? j xs) (under? j ys)) : SameUnder (under? k xs) (under? k ys) := by
    rwa [← under?_congr hx wj wk hjk, ← under?_congr hy wj wk hjk]
  -- a key under which something stands is the same as one of those looked at
  cases hv : under? k xs with
  | some v =>
    obtain ⟨d, hd, hdk, -⟩ := (under?_eq_some_iff hx wk).1 hv
    exact hv ▸ along (hx.key hd) hdk (left d hd)
  | none =>
    cases hw : under? k ys with
    | none => exact .none
    | some w =>
      obtain ⟨e, he, hek, -⟩ := (under?_eq_some_iff hy wk).1 hw
      exact hv ▸ hw ▸ along (hy.key he) hek (right e he)

/-- Maps that are the same are the same after a change under keys that are the same, if the change
resizes them alike. -/
theorem same_map_of_change {t' u' : Table} {xs' ys' : List (Filed Value × Value)}
    {o o' : Option Value} (resize : Bool → Nat → Nat) (hx : WellKeyed (map t xs))
    (hy : WellKeyed (map u ys)) (hx' : WellKeyed (map t' xs')) (hy' : WellKeyed (map u' ys'))
    (rep : t'.rep = u'.rep) (wk : WellKeyed k) (wk' : WellKeyed k')
    (h : (map t xs).same (map u ys) = true) (hk : k.same k' = true) (ho : SameUnder o o')
    (under : ∀ j, WellKeyed j → under? j xs' = if k.same j then o else under? j xs)
    (under' : ∀ j, WellKeyed j → under? j ys' = if k'.same j then o' else under? j ys)
    (length : xs'.length = resize (under? k xs).isSome xs.length)
    (length' : ys'.length = resize (under? k' ys).isSome ys.length) :
    (map t' xs').same (map u' ys') = true := by
  obtain ⟨-, size, same⟩ := (same_map_iff_under hx hy).1 h
  refine (same_map_iff_under hx' hy').2 ⟨rep, ?_, fun j wj => ?_⟩
  · rw [length, length', size, (same k wk).isSome_eq, under?_congr hy wk wk' hk]
  · rw [under j wj, under' j wj, wk.same_congr wk' wj hk]
    split
    · exact ho
    · exact same j wj

/-- Maps that are the same have tables of one representation. -/
theorem rep_eq_of_same (h : (map t xs).same (map u ys) = true) : t.rep = u.rep := by
  obtain ⟨_, _, hys, rep, -⟩ := same_map_iff.1 h
  cases hys
  exact rep

section SameChange

variable [Tables] {text text' : Entity → String} (s s' : Shelf)

theorem same_map_insert (hx : Settled text s.entries) (hy : Settled text' s'.entries)
    (hk : Reliable text k) (hk' : Reliable text' k') (wv : WellKeyed v) (wv' : WellKeyed v')
    (h : s.toMap.same s'.toMap = true) (hkk' : k.same k' = true) (hv : v.same v' = true) :
    (s.insert text k v).toMap.same (s'.insert text' k' v').toMap = true :=
  same_map_of_change (fun found n => if found then n else n + 1) hx.wellKeyed hy.wellKeyed
    (hx.insert hk wv).wellKeyed (hy.insert hk' wv').wellKeyed
    (by rw [Shelf.insert_rep, Shelf.insert_rep, rep_eq_of_same h]) hk.wellKeyed hk'.wellKeyed h
    hkk' (.some hv) (fun _ => under?_insert hx hk wv) (fun _ => under?_insert hy hk' wv')
    (length_insert hx hk.wellKeyed) (length_insert hy hk'.wellKeyed)

theorem same_map_erase (hx : Settled text s.entries) (hy : Settled text' s'.entries)
    (wk : WellKeyed k) (wk' : WellKeyed k') (h : s.toMap.same s'.toMap = true)
    (hkk' : k.same k' = true) :
    (s.erase text k).toMap.same (s'.erase text' k').toMap = true :=
  same_map_of_change (fun found n => if found then n - 1 else n) hx.wellKeyed hy.wellKeyed
    (hx.erase k).wellKeyed (hy.erase k').wellKeyed
    (by rw [Shelf.erase_rep, Shelf.erase_rep, rep_eq_of_same h]) wk wk' h hkk' .none
    (fun _ => under?_erase hx wk) (fun _ => under?_erase hy wk') (length_erase hx wk)
    (length_erase hy wk')

end SameChange

/-! ### Sets -/

theorem entryWithin_map_nil (x : Filed Value) (items : List (Filed Value)) :
    entryWithin (x, nil) (items.map (·, nil)) = items.any fun y => x.value.same y.value := by
  obtain ⟨x, m⟩ := x
  induction items with
  | nil => rfl
  | cons y items ih =>
    simp only [entryWithin, List.map_cons, List.find?_cons, List.any_cons] at ih ⊢
    cases x.same y.value with
    | true => rfl
    | false => exact ih

/-- Sets are the same exactly if they are as maps with nothing under their keys. -/
theorem same_set_eq_same_map (items items' : List (Filed Value)) :
    (set t items).same (set u items') =
      (map t (items.map (·, nil))).same (map u (items'.map (·, nil))) := by
  have within : entriesWithin (items.map (·, nil)) (items'.map (·, nil)) =
      elementsWithin items items' := by
    induction items with
    | nil => rfl
    | cons x items ih =>
      rw [List.map_cons, entriesWithin, elementsWithin, entryWithin_map_nil, ih]
  simp [same, within]

/-- A table with nothing under its keys is, as a set, what it is as a map. -/
theorem same_toSet {s s' : Shelf} (hs : s.Bare) (hs' : s'.Bare) :
    s.toSet.same s'.toSet = s.toMap.same s'.toMap := by
  rw [Shelf.toSet, Shelf.toSet, same_set_eq_same_map, hs.map_nil, hs'.map_nil]
  rfl

end Lisp.Value
