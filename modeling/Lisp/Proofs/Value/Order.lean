import Lisp.Proofs.Value.Same

/-!
# The order of entries

The entries of a map and the elements of a set stand in the order of their table, which means
nothing: a value with maps and sets in another order, at any depth, is the same. Nor does it matter
what else the tables keep.

## Main definitions

* `Value.Reordered` — the same value with its maps and sets in another order
* `Value.Reshaped` — the same kind of value, with other parts

## Main results

* `Value.pairwise_differ_of_forall₂` — keys that are the same one by one differ alike
* `Value.same_map_of_forall₂`, `Value.same_set_of_forall₂` — entry by entry the same
* `Value.same_map_of_perm`, `Value.same_set_of_perm` — the same in another order
* `Value.Everywhere.reordered`, `Value.WellKeyed.reordered` — what a value in another order keeps
-/

namespace Lisp.Value

/-- The same value with the entries of maps and the elements of sets in another order, at any depth
and any number of times. The tables may be others of the same representation, and the keys may be
filed under other marks. -/
inductive Reordered : Value → Value → Prop where
  | refl (v : Value) : Reordered v v
  | trans {u v w : Value} : Reordered u v → Reordered v w → Reordered u w
  | list {v w : Value} (before after : List Value) :
    Reordered v w → Reordered (list (before ++ v :: after)) (list (before ++ w :: after))
  | vector {v w : Value} (rep : Representation) (before after : List Value) :
    Reordered v w →
      Reordered (vector rep (before ++ v :: after)) (vector rep (before ++ w :: after))
  | entry {k l v w : Value} (t : Table) (m m' : Mark)
      (before after : List (Filed Value × Value)) :
    Reordered k l → Reordered v w →
      Reordered (map t (before ++ (⟨k, m⟩, v) :: after)) (map t (before ++ (⟨l, m'⟩, w) :: after))
  | element {v w : Value} (t : Table) (m m' : Mark) (before after : List (Filed Value)) :
    Reordered v w →
      Reordered (set t (before ++ ⟨v, m⟩ :: after)) (set t (before ++ ⟨w, m'⟩ :: after))
  | quoted {v w : Value} : Reordered v w → Reordered (quoted v) (quoted w)
  | entries {t u : Table} {xs ys : List (Filed Value × Value)} :
    t.rep = u.rep → xs.Perm ys → Reordered (map t xs) (map u ys)
  | elements {t u : Table} {xs ys : List (Filed Value)} :
    t.rep = u.rep → xs.Perm ys → Reordered (set t xs) (set u ys)

variable {t u : Table}

theorem everywhere_map {P : Value → Prop} {es : List (Filed Value × Value)}
    (here : P (map t es)) (keys : ∀ e ∈ es, Everywhere P e.1.value)
    (values : ∀ e ∈ es, Everywhere P e.2) : Everywhere P (map t es) := by
  exact ⟨here, forall_parts_map.2 fun e he => ⟨keys e he, values e he⟩⟩

theorem everywhere_pair {P : Value → Prop} {k l v w : Value} {m m' : Mark}
    (here : P (map t [(⟨k, m⟩, v), (⟨l, m'⟩, w)])) (hk : Everywhere P k) (hl : Everywhere P l)
    (hv : Everywhere P v) (hw : Everywhere P w) :
    Everywhere P (map t [(⟨k, m⟩, v), (⟨l, m'⟩, w)]) := by
  refine everywhere_map here ?_ ?_
  · simpa using ⟨hk, hl⟩
  · simpa using ⟨hv, hw⟩

theorem everywhere_set {P : Value → Prop} {xs : List (Filed Value)} (here : P (set t xs))
    (elements : ∀ x ∈ xs, Everywhere P x.value) : Everywhere P (set t xs) := by
  refine ⟨here, fun w hw => ?_⟩
  obtain ⟨x, hx, rfl⟩ := List.mem_map.1 hw
  exact elements x hx

theorem exists_of_forall₂ {α β : Type} {R : α → β → Prop} {xs : List α} {ys : List β}
    (h : List.Forall₂ R xs ys) {x : α} (hx : x ∈ xs) : ∃ y ∈ ys, R x y := by
  induction h with
  | nil => simp at hx
  | @cons x' y xs ys hxy rest ih =>
    rcases List.mem_cons.1 hx with rfl | hx
    · exact ⟨y, by simp, hxy⟩
    · obtain ⟨y', hy', hR⟩ := ih hx
      exact ⟨y', List.mem_cons_of_mem _ hy', hR⟩

/-- Keys that are the same one by one differ alike. -/
theorem pairwise_differ_of_forall₂ {α β : Type} {key : α → Value} {key' : β → Value} {xs : List α}
    {ys : List β} (h : List.Forall₂ (fun x y => (key x).same (key' y) = true) xs ys)
    (wx : ∀ x ∈ xs, WellKeyed (key x)) (wy : ∀ y ∈ ys, WellKeyed (key' y))
    (apart : xs.Pairwise fun a b => Differ (key a) (key b)) :
    ys.Pairwise fun a b => Differ (key' a) (key' b) := by
  induction h with
  | nil => exact .nil
  | @cons x y xs ys hxy rest ih =>
    rw [List.forall_mem_cons] at wx wy
    rw [List.pairwise_cons] at apart ⊢
    refine ⟨fun y' hy' => ?_, ih wx.2 wy.2 apart.2⟩
    obtain ⟨x', hx', hxy'⟩ : ∃ x' ∈ xs, (key x').same (key' y') = true :=
      exists_of_forall₂ (R := fun y x => (key x).same (key' y) = true) rest.flip hy'
    exact (apart.1 x' hx').of_same wx.1 wy.1 (wx.2 x' hx') (wy.2 y' hy') hxy hxy'

section Entries

variable {xs ys : List (Filed Value × Value)}

theorem wellKeyed_map (apart : xs.Pairwise fun d e => Differ d.1.value e.1.value)
    (keys : ∀ e ∈ xs, WellKeyed e.1.value) (values : ∀ e ∈ xs, WellKeyed e.2) :
    WellKeyed (map t xs) :=
  everywhere_map apart keys values

/-- A map that is the same entry by entry has keys that differ, and is the same. -/
theorem same_map_of_forall₂ (rep : t.rep = u.rep) (hx : WellKeyed (map t xs))
    (keys : ∀ e ∈ ys, WellKeyed e.1.value)
    (values : ∀ e ∈ ys, WellKeyed e.2) (h : List.Forall₂ SameEntry xs ys) :
    KeysDiffer (map u ys) ∧ (map t xs).same (map u ys) = true := by
  have apart : ys.Pairwise fun d e => Differ d.1.value e.1.value :=
    pairwise_differ_of_forall₂ (h.imp fun _ _ => And.left) (fun _ hd => hx.key hd) keys hx.here
  exact ⟨apart, same_map_of_matched rep hx (wellKeyed_map apart keys values) h.length_eq
    fun _ hd => exists_of_forall₂ h hd⟩

/-- So is a map with the same entries in another order. -/
theorem same_map_of_perm (rep : t.rep = u.rep) (hx : WellKeyed (map t xs)) (h : xs.Perm ys) :
    KeysDiffer (map u ys) ∧ (map t xs).same (map u ys) = true := by
  have apart : ys.Pairwise fun d e => Differ d.1.value e.1.value :=
    h.pairwise hx.here fun differ => differ.symm
  have hy : WellKeyed (map u ys) :=
    wellKeyed_map apart (fun _ he => hx.key (h.mem_iff.2 he)) fun _ he => hx.value (h.mem_iff.2 he)
  exact ⟨apart, same_map_of_matched rep hx hy h.length_eq fun d hd =>
    ⟨d, h.mem_iff.1 hd, (hx.key hd).same_refl, (hx.value hd).same_refl⟩⟩

end Entries

section Elements

variable {xs ys : List (Filed Value)}

/-- A set that is the same element by element has elements that differ, and is the same. -/
theorem same_set_of_forall₂ (rep : t.rep = u.rep) (hx : WellKeyed (set t xs))
    (elements : ∀ y ∈ ys, WellKeyed y.value)
    (h : List.Forall₂ (fun x y => x.value.same y.value = true) xs ys) :
    KeysDiffer (set u ys) ∧ (set t xs).same (set u ys) = true :=
  ⟨pairwise_differ_of_forall₂ h (fun _ hd => hx.element hd) elements hx.here,
    same_set_iff.2 ⟨u, ys, rfl, rep, h.length_eq,
      elementsWithin_iff.2 fun _ hx => exists_of_forall₂ h hx⟩⟩

/-- So is a set with the same elements in another order. -/
theorem same_set_of_perm (rep : t.rep = u.rep) (hx : WellKeyed (set t xs)) (h : xs.Perm ys) :
    KeysDiffer (set u ys) ∧ (set t xs).same (set u ys) = true :=
  ⟨h.pairwise hx.here fun differ => differ.symm,
    same_set_iff.2 ⟨u, ys, rfl, rep, h.length_eq, elementsWithin_iff.2 fun x hmem =>
      ⟨x, h.mem_iff.1 hmem, (hx.element hmem).same_refl⟩⟩⟩

end Elements

/-! ### Whole values in another order -/

/-- The same kind of value in the same representation, whatever its parts. -/
def Reshaped : Value → Value → Prop
  | list _, list _ | quoted _, quoted _ => True
  | vector rep _, vector rep' _ => rep' = rep
  | map t _, map u _ | set t _, set u _ => u.rep = t.rep
  | _, _ => False

/-- One element of a row replaced by another. -/
theorem forall_mem_replace {α : Type} {P : α → Prop} {before after : List α} {a b : α}
    (h : ∀ x ∈ before ++ a :: after, P x) (hb : P b) : ∀ x ∈ before ++ b :: after, P x := by
  simp only [List.forall_mem_append, List.forall_mem_cons] at h ⊢
  exact ⟨h.1, hb, h.2.2⟩

theorem forall₂_replace {α : Type} {R : α → α → Prop} {before after : List α} {a b : α}
    (refl : ∀ x ∈ before ++ a :: after, R x x) (hab : R a b) :
    List.Forall₂ R (before ++ a :: after) (before ++ b :: after) := by
  simp only [List.forall_mem_append, List.forall_mem_cons] at refl
  exact List.rel_append (List.forall₂_same.2 refl.1) (.cons hab (List.forall₂_same.2 refl.2.2))

/-- A property that is kept by values of the same kind holds everywhere in a value in another
order. -/
theorem Everywhere.reordered {P : Value → Prop} {v w : Value}
    (shape : ∀ {v w}, P v → Reshaped v w → P w) (h : Reordered v w) (hv : Everywhere P v) :
    Everywhere P w := by
  induction h with
  | refl v => exact hv
  | trans _ _ ih₁ ih₂ => exact ih₂ (ih₁ hv)
  | @list v w before after _ ih =>
    have inside : ∀ x ∈ before ++ v :: after, Everywhere P x := fun x hx => hv.inside hx
    exact ⟨shape hv.here trivial, forall_mem_replace inside (ih (inside v (by simp)))⟩
  | @vector v w rep before after _ ih =>
    have inside : ∀ x ∈ before ++ v :: after, Everywhere P x := fun x hx => hv.inside hx
    exact ⟨shape hv.here rfl, forall_mem_replace inside (ih (inside v (by simp)))⟩
  | @entry k l v w t m m' before after _ _ ihk ihv =>
    have keys : ∀ e ∈ before ++ (⟨k, m⟩, v) :: after, Everywhere P e.1.value :=
      fun e he => hv.inside (key_mem_parts he)
    have values : ∀ e ∈ before ++ (⟨k, m⟩, v) :: after, Everywhere P e.2 :=
      fun e he => hv.inside (value_mem_parts he)
    exact everywhere_map (shape hv.here rfl)
      (forall_mem_replace keys (ihk (keys (⟨k, m⟩, v) (by simp))))
      (forall_mem_replace values (ihv (values (⟨k, m⟩, v) (by simp))))
  | @element v w t m m' before after _ ih =>
    have elements : ∀ x ∈ before ++ ⟨v, m⟩ :: after, Everywhere P x.value :=
      fun x hx => hv.inside (element_mem_parts hx)
    exact everywhere_set (shape hv.here rfl)
      (forall_mem_replace elements (ih (elements ⟨v, m⟩ (by simp))))
  | @quoted v w _ ih =>
    refine ⟨shape hv.here trivial, List.forall_mem_singleton.2 ?_⟩
    exact ih (hv.inside (List.mem_singleton_self v))
  | @entries t u xs ys rep perm =>
    refine everywhere_map (shape hv.here rep.symm) ?_ ?_
    · exact fun e he => hv.inside (key_mem_parts (perm.mem_iff.2 he))
    · exact fun e he => hv.inside (value_mem_parts (perm.mem_iff.2 he))
  | @elements t u xs ys rep perm =>
    exact everywhere_set (shape hv.here rep.symm)
      fun x hx => hv.inside (element_mem_parts (perm.mem_iff.2 hx))

/-- A value in another order has keys that differ as before, and is the same. -/
theorem WellKeyed.reordered {v w : Value} (hv : WellKeyed v) (h : Reordered v w) :
    WellKeyed w ∧ v.same w = true := by
  -- sameness is transitive only where keys differ, so both facts are proved together
  induction h with
  | refl v => exact ⟨hv, hv.same_refl⟩
  | trans _ _ ih₁ ih₂ =>
    obtain ⟨hmiddle, hsame⟩ := ih₁ hv
    obtain ⟨hw, hsame'⟩ := ih₂ hmiddle
    exact ⟨hw, hv.same_trans hmiddle hw hsame hsame'⟩
  | @list v w before after _ ih =>
    have inside : ∀ x ∈ before ++ v :: after, WellKeyed x := fun x hx => hv.inside hx
    obtain ⟨hw, hsame⟩ := ih (inside v (by simp))
    refine ⟨⟨trivial, forall_mem_replace inside hw⟩, ?_⟩
    exact same_list_iff.2 ⟨_, rfl, forall₂_replace (fun x hx => (inside x hx).same_refl) hsame⟩
  | @vector v w rep before after _ ih =>
    have inside : ∀ x ∈ before ++ v :: after, WellKeyed x := fun x hx => hv.inside hx
    obtain ⟨hw, hsame⟩ := ih (inside v (by simp))
    refine ⟨⟨trivial, forall_mem_replace inside hw⟩, ?_⟩
    exact same_vector_iff.2 ⟨_, rfl, forall₂_replace (fun x hx => (inside x hx).same_refl) hsame⟩
  | @entry k l v w t m m' before after _ _ ihk ihv =>
    have keys : ∀ e ∈ before ++ (⟨k, m⟩, v) :: after, WellKeyed e.1.value :=
      fun e he => hv.key he
    have values : ∀ e ∈ before ++ (⟨k, m⟩, v) :: after, WellKeyed e.2 :=
      fun e he => hv.value he
    obtain ⟨hl, hkl⟩ := ihk (keys (⟨k, m⟩, v) (by simp))
    obtain ⟨hw, hvw⟩ := ihv (values (⟨k, m⟩, v) (by simp))
    have keys' := forall_mem_replace (b := ((⟨l, m'⟩, w) : Filed Value × Value)) keys hl
    have values' := forall_mem_replace (b := ((⟨l, m'⟩, w) : Filed Value × Value)) values hw
    -- all entries match those in their places, so the new keys differ as the old ones do
    have entries : List.Forall₂ SameEntry (before ++ (⟨k, m⟩, v) :: after)
        (before ++ (⟨l, m'⟩, w) :: after) :=
      forall₂_replace (fun e he => ⟨(keys e he).same_refl, (values e he).same_refl⟩) ⟨hkl, hvw⟩
    obtain ⟨apart, hsame⟩ := same_map_of_forall₂ rfl hv keys' values' entries
    exact ⟨wellKeyed_map apart keys' values', hsame⟩
  | @element v w t m m' before after _ ih =>
    have elements : ∀ x ∈ before ++ ⟨v, m⟩ :: after, WellKeyed x.value :=
      fun x hx => hv.element hx
    obtain ⟨hw, hvw⟩ := ih (elements ⟨v, m⟩ (by simp))
    have elements' := forall_mem_replace (b := (⟨w, m'⟩ : Filed Value)) elements hw
    obtain ⟨apart, hsame⟩ := same_set_of_forall₂ rfl hv elements'
      (forall₂_replace (fun x hx => (elements x hx).same_refl) hvw)
    exact ⟨everywhere_set apart elements', hsame⟩
  | @quoted v w _ ih =>
    obtain ⟨hw, hsame⟩ := ih (hv.inside (List.mem_singleton_self v))
    exact ⟨⟨trivial, List.forall_mem_singleton.2 hw⟩, same_quoted_iff.2 ⟨w, rfl, hsame⟩⟩
  | @entries t u xs ys rep perm =>
    obtain ⟨apart, hsame⟩ := same_map_of_perm rep hv perm
    refine ⟨wellKeyed_map apart ?_ ?_, hsame⟩
    · exact fun e he => hv.key (perm.mem_iff.2 he)
    · exact fun e he => hv.value (perm.mem_iff.2 he)
  | @elements t u xs ys rep perm =>
    obtain ⟨apart, hsame⟩ := same_set_of_perm rep hv perm
    exact ⟨everywhere_set apart fun x hx => hv.element (perm.mem_iff.2 hx), hsame⟩

/-- Every part of a value in another order is a part of the value, in another order. -/
theorem Reordered.exists_part {v w x : Value} (h : Reordered v w) (hx : x ∈ w.parts) :
    ∃ y ∈ v.parts, Reordered y x := by
  have refl : ∀ {xs : List Value} {x}, x ∈ xs → ∃ y ∈ xs, Reordered y x :=
    fun hx => ⟨_, hx, .refl _⟩
  induction h generalizing x with
  | refl v => exact refl hx
  | trans _ _ ih₁ ih₂ =>
    obtain ⟨y, hy, hyx⟩ := ih₂ hx
    obtain ⟨z, hz, hzy⟩ := ih₁ hy
    exact ⟨z, hz, .trans hzy hyx⟩
  | @list v w before after hvw | @vector v w _ before after hvw =>
    exact forall_mem_replace (a := v) (P := fun x => ∃ y ∈ before ++ v :: after, Reordered y x)
      (fun _ hx => refl hx) ⟨v, by simp, hvw⟩ x hx
  | @entry k l v w t m m' before after hkl hvw =>
    simp only [parts, List.flatMap_append, List.flatMap_cons, List.mem_append, List.mem_cons,
      List.not_mem_nil, or_false] at hx ⊢
    rcases hx with hx | (rfl | rfl) | hx
    · exact ⟨x, .inl hx, .refl x⟩
    · exact ⟨k, .inr (.inl (.inl rfl)), hkl⟩
    · exact ⟨v, .inr (.inl (.inr rfl)), hvw⟩
    · exact ⟨x, .inr (.inr hx), .refl x⟩
  | @element v w t m m' before after hvw =>
    simp only [parts, List.map_append, List.map_cons] at hx ⊢
    exact forall_mem_replace (a := v)
      (P := fun x => ∃ y ∈ before.map (·.value) ++ v :: after.map (·.value), Reordered y x)
      (fun _ hx => refl hx) ⟨v, by simp, hvw⟩ x hx
  | quoted hvw =>
    obtain rfl := List.mem_singleton.1 hx
    exact ⟨_, List.mem_singleton_self _, hvw⟩
  | entries _ perm => exact refl ((perm.flatMap_right _).mem_iff.2 hx)
  | elements _ perm => exact refl ((perm.map _).mem_iff.2 hx)

end Lisp.Value
