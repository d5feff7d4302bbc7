import Lisp.Collection
import Lisp.Proofs.Value.Lookup
import Lisp.Proofs.Value.Marking

/-!
# Collections that are the same behave alike

The operations on collections cannot tell values apart that are the same, as long as tables are
finite maps keyed by key equality. Answers agree up to sameness; a complaint may show the operand,
and values that are the same can print differently.

## Main definitions

* `Collection.Agree` — answers that agree up to some relation of values

## Main results

* `Collection.get_congr`, `contains_congr`, `count_congr` — look-ups answer alike
* `Collection.assoc_congr`, `dissoc_congr`, `conj_congr` — so do changes
-/

namespace Lisp

namespace Number

theorem toIndex?_of_isZero {x : Number} (h : x.isZero = true) : x.toIndex? = some 0 := by
  simp [toIndex?, exact_of_isZero h, dyadicIsInteger_zero, truncate_zero]

theorem toIndex?_of_isNaN {x : Number} (h : x.isNaN = true) : x.toIndex? = none := by
  simp [toIndex?, exact_of_isNaN h]

theorem toIndex?_congr {x y : Number} (h : x.same y = true) : x.toIndex? = y.toIndex? := by
  rcases same_iff.1 h with rfl | ⟨hx, hy⟩ | ⟨hx, hy⟩
  · rfl
  · rw [toIndex?_of_isZero hx, toIndex?_of_isZero hy]
  · rw [toIndex?_of_isNaN hx, toIndex?_of_isNaN hy]

end Number

namespace Value

variable {k k' v v' : Value}

theorem SameUnder.getD_nil {o o' : Option Value} (h : SameUnder o o') :
    (o.getD nil).same (o'.getD nil) = true := by
  cases h with
  | some h => exact h
  | none => rfl

/-- Look-ups of keys that are the same, in maps that are the same, find the same. -/
theorem sameUnder_find? [Tables] (text : Entity → String) {t u : Table}
    {xs ys : List (Filed Value × Value)} (hx : Settled text xs) (hy : Settled text ys)
    (wk : WellKeyed k) (wk' : WellKeyed k') (h : (map t xs).same (map u ys) = true)
    (hk : k.same k' = true) :
    SameUnder ((Shelf.mk t xs).find? text k) ((Shelf.mk u ys).find? text k') := by
  have wy : WellKeyed (map u ys) := hy.wellKeyed
  rw [find?_eq_under? hx wk, find?_eq_under? hy wk', ← under?_congr wy wk wk' hk]
  exact sameUnder_of_same hx.wellKeyed wy h wk

theorem rel_getElem? {R : Value → Value → Prop} {xs ys : List Value} (h : List.Forall₂ R xs ys)
    (i : Nat) : Option.Rel R xs[i]? ys[i]? := by
  induction h generalizing i with
  | nil => exact .none
  | cons hxy _ ih =>
    cases i with
    | zero => exact .some hxy
    | succ i => exact ih i

theorem forall₂_set {R : Value → Value → Prop} {xs ys : List Value} (h : List.Forall₂ R xs ys)
    (hv : R v v') (i : Nat) : List.Forall₂ R (xs.set i v) (ys.set i v') := by
  induction h generalizing i with
  | nil => exact .nil
  | cons hxy rest ih =>
    cases i with
    | zero => exact .cons hv rest
    | succ i => exact .cons hxy (ih i)

end Value

namespace Collection

open Value

variable {h : Heap} {mode : Representation} {m m' k k' v v' : Value}

/-- What two operations say of `m` and of `m'`, up to a relation of values: related values, the same
complaint, or the same complaint about the one and the other. -/
inductive Agree (R : Value → Value → Prop) (h : Heap) (m m' : Value) :
    Except Cause Value → Except Cause Value → Prop where
  | value {a b : Value} (related : R a b) : Agree R h m m' (.ok a) (.ok b)
  | complaint (c : Cause) : Agree R h m m' (.error c) (.error c)
  | about {complain : String → Mismatch}
      (known : complain ∈ [.notAssociative, .notDissociative, .notConjoinable]) :
    Agree R h m m' (.error (.mismatch (complain (h.print m))))
      (.error (.mismatch (complain (h.print m'))))

/-- Values that are the same. -/
abbrev Same (a b : Value) : Prop := a.same b = true

theorem Agree.imp {R S : Value → Value → Prop} {x y : Except Cause Value}
    (hxy : Agree R h m m' x y) (step : ∀ a b, x = .ok a → y = .ok b → R a b → S a b) :
    Agree S h m m' x y := by
  cases hxy with
  | value related => exact .value (step _ _ rfl rfl related)
  | complaint c => exact .complaint c
  | about known => exact .about known

theorem indexOf?_congr (hk : k.same k' = true) : indexOf? k = indexOf? k' := by
  cases alike_of_same hk with
  | number hn => exact Number.toIndex?_congr hn
  | _ => rfl

theorem count_congr (hm : m.same m' = true) : count m = count m' := by
  cases alike_of_same hm with
  | list hs | vector hs => exact congrArg Except.ok hs.length_eq
  | map _ length _ | set _ length _ => exact congrArg Except.ok length
  | _ => rfl

/-- Values that are the same have elements that are the same, or no elements both. -/
theorem sequence?_congr (hv : v.same v' = true) :
    Option.Rel (List.Forall₂ Same) v.sequence? v'.sequence? := by
  cases alike_of_same hv with
  | list hs | vector hs => exact .some hs
  | _ => exact .none

theorem wellKeyed_of_sequence? {xs : List Value} (wv : WellKeyed v) (hv : v.sequence? = some xs) :
    ∀ x ∈ xs, WellKeyed x := by
  intro x hx
  cases v with
  | list items | vector rep items =>
    cases hv
    exact wv.inside hx
  | _ => simp [sequence?] at hv

section Tables

variable [Tables] (finite : Tables.Exhaustive)

include finite

theorem has_congr {t u : Table} {xs ys : List (Filed Value)} (wm : WellKeyed (.set t xs))
    (wm' : WellKeyed (.set u ys)) (wk : WellKeyed k) (wk' : WellKeyed k')
    (hm : Same (.set t xs) (.set u ys)) (hk : Same k k') :
    (Shelf.ofSet t xs).has h.text k = (Shelf.ofSet u ys).has h.text k' := by
  rw [Same, same_set_eq_same_map] at hm
  exact (sameUnder_find? h.text (finite.lawful wm).settled_set
    (finite.lawful wm').settled_set wk wk' hm hk).isSome_eq

theorem contains_congr (wm : WellKeyed m) (wm' : WellKeyed m') (wk : WellKeyed k)
    (wk' : WellKeyed k') (hm : m.same m' = true) (hk : k.same k' = true) :
    contains h m k = contains h m' k' := by
  cases alike_of_same hm with
  | map =>
    exact (sameUnder_find? h.text (finite.lawful wm).settled
      (finite.lawful wm').settled wk wk' hm hk).isSome_eq
  | set => exact has_congr finite wm wm' wk wk' hm hk
  | vector hs => simp only [contains, indexOf?_congr hk, hs.length_eq]
  | _ => rfl

/-- A look-up in an object needs that what stands in objects is the same as itself. -/
theorem get_congr (objects : ∀ r name v, (h.object r).fields.get? name = some v → WellKeyed v)
    (wm : WellKeyed m) (wm' : WellKeyed m') (wk : WellKeyed k) (wk' : WellKeyed k')
    (hm : m.same m' = true) (hk : k.same k' = true) : Same (get h m k) (get h m' k') := by
  cases alike_of_same hm with
  | map =>
    exact (sameUnder_find? h.text (finite.lawful wm).settled
      (finite.lawful wm').settled wk wk' hm hk).getD_nil
  | set =>
    simp only [get, has_congr (h := h) finite wm wm' wk wk' hm hk]
    split
    · exact hk
    · rfl
  | vector hs =>
    simp only [get, indexOf?_congr hk]
    cases indexOf? k' with
    | none => rfl
    | some i => exact (SameUnder.getD_nil (rel_getElem? hs i))
  | string s =>
    simp only [get, indexOf?_congr hk]
    cases (indexOf? k').bind ((Text.graphemes s)[·]?) with
    | none => rfl
    | some g => simp [Same, same]
  | entity e =>
    cases e with
    | object r =>
      -- the same object gives the same field, which is the same as itself only if well-keyed
      have field : ∀ name, Same (((h.object r).fields.get? name).getD .nil)
          (((h.object r).fields.get? name).getD .nil) := by
        intro name
        cases hv : (h.object r).fields.get? name with
        | none => rfl
        | some v => exact (objects r name v hv).same_refl
      cases alike_of_same hk with
      | keyword name => exact field name.base
      | string s => exact field s
      | _ => rfl
    | _ => rfl
  | _ => rfl

theorem same_insertAll {ps qs : List (Value × Value)} {s s' : Shelf}
    (hs : Settled h.text s.entries) (hs' : Settled h.text s'.entries)
    (hss' : s.toMap.same s'.toMap = true)
    (wps : ∀ p ∈ ps, WellKeyed p.1 ∧ WellKeyed p.2) (wqs : ∀ q ∈ qs, WellKeyed q.1 ∧ WellKeyed q.2)
    (hpq : List.Forall₂ (fun p q => Same p.1 q.1 ∧ Same p.2 q.2) ps qs) :
    (s.insertAll h.text ps).toMap.same (s'.insertAll h.text qs).toMap = true := by
  induction hpq generalizing s s' with
  | nil => exact hss'
  | cons hpq _ ih =>
    rw [List.forall_mem_cons] at wps wqs
    have hk : Reliable h.text _ := finite.reliable wps.1.1
    have hk' : Reliable h.text _ := finite.reliable wqs.1.1
    exact ih (hs.insert hk wps.1.2) (hs'.insert hk' wqs.1.2)
      (same_map_insert _ _ hs hs' hk hk' wps.1.2 wqs.1.2 hss' hpq.1 hpq.2) wps.2 wqs.2

theorem assoc_congr (wm : WellKeyed m) (wm' : WellKeyed m') (wk : WellKeyed k)
    (wk' : WellKeyed k') (wv : WellKeyed v) (wv' : WellKeyed v') (hm : m.same m' = true)
    (hk : k.same k' = true) (hv : v.same v' = true) :
    Agree Same h m m' (assoc h mode m k v) (assoc h mode m' k' v') := by
  cases alike_of_same hm with
  | nil =>
    refine .value (same_insertAll finite settled_nil settled_nil (by simp [Shelf.toMap, same,
      Shelf.opened, entriesWithin]) ?_ ?_ (.cons ⟨hk, hv⟩ .nil))
    · simpa using ⟨wk, wv⟩
    · simpa using ⟨wk', wv'⟩
  | map =>
    exact .value (same_map_insert ⟨_, _⟩ ⟨_, _⟩ (finite.lawful wm).settled
      (finite.lawful wm').settled (finite.reliable wk) (finite.reliable wk') wv wv' hm hk hv)
  | vector hs =>
    simp only [assoc, indexOf?_congr hk, hs.length_eq]
    split
    · exact .complaint _
    · split
      · exact .value (same_vector_iff.2 ⟨_, rfl, forall₂_set hs hv _⟩)
      · split
        · exact .value (same_vector_iff.2 ⟨_, rfl, List.rel_append hs (.cons hv .nil)⟩)
        · exact .complaint _
  | _ => exact .about (by simp)

theorem dissoc_congr (wm : WellKeyed m) (wm' : WellKeyed m') (wk : WellKeyed k)
    (wk' : WellKeyed k') (hm : m.same m' = true) (hk : k.same k' = true) :
    Agree Same h m m' (dissoc h m k) (dissoc h m' k') := by
  cases alike_of_same hm with
  | nil => exact .value rfl
  | map =>
    exact .value (same_map_erase ⟨_, _⟩ ⟨_, _⟩ (finite.lawful wm).settled
      (finite.lawful wm').settled wk wk' hm hk)
  | _ => exact .about (by simp)

theorem conj_congr (wm : WellKeyed m) (wm' : WellKeyed m') (wv : WellKeyed v)
    (wv' : WellKeyed v') (hm : m.same m' = true) (hv : v.same v' = true) :
    Agree Same h m m' (conj h mode m v) (conj h mode m' v') := by
  cases alike_of_same hm with
  | nil => exact .value (same_list_iff.2 ⟨_, rfl, .cons hv .nil⟩)
  | list hs => exact .value (same_list_iff.2 ⟨_, rfl, .cons hv hs⟩)
  | vector hs => exact .value (same_vector_iff.2 ⟨_, rfl, List.rel_append hs (.cons hv .nil)⟩)
  | @set t u xs ys =>
    have hm := hm
    rw [same_set_eq_same_map] at hm
    have settled : Settled h.text (Shelf.ofSet t xs).entries := (finite.lawful wm).settled_set
    have settled' : Settled h.text (Shelf.ofSet u ys).entries := (finite.lawful wm').settled_set
    have inserted := same_map_insert _ _ settled settled' (finite.reliable wv)
      (finite.reliable wv') wellKeyed_nil wellKeyed_nil hm hv rfl
    exact .value ((same_toSet (Shelf.bare_ofSet xs).insert (Shelf.bare_ofSet ys).insert).trans
      inserted)
  | map =>
    have hrel := sequence?_congr hv
    have wxs : ∀ {xs}, v.sequence? = some xs → ∀ x ∈ xs, WellKeyed x := wellKeyed_of_sequence? wv
    have wys : ∀ {ys}, v'.sequence? = some ys → ∀ y ∈ ys, WellKeyed y := wellKeyed_of_sequence? wv'
    simp only [conj]
    generalize v.sequence? = o at hrel wxs ⊢
    generalize v'.sequence? = o' at hrel wys ⊢
    cases hrel with
    | none => exact .complaint _
    | some hxy =>
      -- only a row of two counts, and rows that are the same have one length
      match hxy with
      | .nil | .cons _ .nil | .cons _ (.cons _ (.cons _ _)) => exact .complaint _
      | .cons ha (.cons hb .nil) =>
        have wx := wxs rfl
        have wy := wys rfl
        exact assoc_congr finite wm wm' (wx _ (by simp)) (wy _ (by simp)) (wx _ (by simp))
          (wy _ (by simp)) hm ha hb
  | _ => exact .about (by simp)

end Tables

end Collection

end Lisp
