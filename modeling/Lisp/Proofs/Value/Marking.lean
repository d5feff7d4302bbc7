import Lisp.Proofs.Value.Finding
import Lisp.Proofs.Value.Order
import Mathlib.Data.List.Perm.Basic

/-!
# Keys that can be relied on

What the same keys are hashed by need not be the same: the order of a map inside a map shows in the
hash, and so does the sign of a number that is none. Where neither stands in a key, everything the
same as it has one mark, whatever the tables do, so it serves as a key.

## Main definitions

* `Value.Thin` — no map or set with more than one entry, at any depth
* `Value.Flat` — the maps and sets in a value hold thin values only, and there is a number wherever
  there is one outside of them

## Main results

* `Text.sorted_eq_of_perm` — sorting forgets the order
* `Value.Thin.render_eq` — everything the same as a thin value prints as it does
* `Value.Flat.mark_eq` — everything the same as a flat value is hashed by the same
* `Value.Flat.reliable`, `Value.reliable_leaf` — flat values serve as keys, above all names and
  numbers
-/

namespace Lisp

namespace Number

theorem dyadicIsInteger_zero (q : Int) : dyadicIsInteger 0 q = true := by
  simp [dyadicIsInteger]

theorem truncate_zero (q : Int) : truncate 0 q = 0 := by
  simp [truncate]

/-- Both zeros print alike, and so does everything that is no number. -/
theorem render_congr {x y : Number} (h : x.same y = true) : x.render = y.render := by
  have zero {x : Number} (hx : x.isZero = true) : x.render = zero.render := by
    simp [render, renderChars, exact_of_isZero hx, exact_of_isZero (x := zero) rfl,
      dyadicIsInteger_zero, truncate_zero]
  have nan {x : Number} (hx : x.isNaN = true) : x.render = nan.render := by
    simp [render, renderChars, exact_of_isNaN hx, exact_of_isNaN (x := nan) rfl]
  rcases same_iff.1 h with rfl | ⟨hx, hy⟩ | ⟨hx, hy⟩
  · rfl
  · rw [zero hx, zero hy]
  · rw [nan hx, nan hy]

theorem hashed_congr {x y : Number} (h : x.same y = true) (number : x.isNaN = false) :
    x.hashed = y.hashed := by
  rcases same_iff.1 h with rfl | ⟨hx, hy⟩ | ⟨hx, hy⟩
  · rfl
  · simp [hashed, hx, hy]
  · simp [number] at hx

end Number

namespace Text

/-! ### Sorting forgets the order -/

/-- An order in which any two things can be compared, and different ones one way only. -/
structure Linear {α : Type} (before : α → α → Bool) : Prop where
  total : ∀ a b, before a b = true ∨ before b a = true
  trans : ∀ {a b c}, before a b = true → before b c = true → before a c = true
  antisymm : ∀ {a b}, before a b = true → before b a = true → a = b

theorem linear_rowAtMost : Linear rowAtMost where
  total a b := by
    induction a generalizing b with
    | nil => simp [rowAtMost]
    | cons c cs ih =>
      cases b with
      | nil => simp [rowAtMost]
      | cons d ds =>
        simp only [rowAtMost, Bool.or_eq_true, Bool.and_eq_true, decide_eq_true_eq, beq_iff_eq]
        rcases Nat.lt_trichotomy c.toNat d.toNat with h | h | h
        · exact .inl (.inl h)
        · exact (ih ds).imp (fun hs => .inr ⟨h, hs⟩) fun hs => .inr ⟨h.symm, hs⟩
        · exact .inr (.inl h)
  trans {a b c} hab hbc := by
    induction a generalizing b c with
    | nil => rfl
    | cons x a ih =>
      cases b with
      | nil => cases hab
      | cons y b =>
        cases c with
        | nil => cases hbc
        | cons z c =>
          -- the first characters decide, unless all three are one and the same
          simp only [rowAtMost, Bool.or_eq_true, Bool.and_eq_true, decide_eq_true_eq, beq_iff_eq]
            at hab hbc ⊢
          rcases hab with hab | ⟨hab, hab'⟩
          · omega
          · rcases hbc with hbc | ⟨hbc, hbc'⟩
            · omega
            · exact .inr ⟨hab.trans hbc, ih hab' hbc'⟩
  antisymm {a b} hab hba := by
    induction a generalizing b with
    | nil =>
      cases b with
      | nil => rfl
      | cons d ds => cases hba
    | cons c cs ih =>
      cases b with
      | nil => cases hab
      | cons d ds =>
        simp only [rowAtMost, Bool.or_eq_true, Bool.and_eq_true, decide_eq_true_eq, beq_iff_eq]
          at hab hba
        rcases hab with hab | ⟨hcd, hab⟩
        · omega
        · rcases hba with hba | ⟨-, hba⟩
          · omega
          · rw [Char.toNat_inj.1 hcd, ih hab hba]

theorem linear_atMost : Linear atMost where
  total _ _ := linear_rowAtMost.total _ _
  trans := linear_rowAtMost.trans
  antisymm hab hba := String.toList_inj.1 (linear_rowAtMost.antisymm hab hba)

theorem linear_pairAtMost : Linear pairAtMost where
  total p q := by
    unfold pairAtMost
    by_cases h : p.1 = q.1
    · simpa [h] using linear_atMost.total p.2 q.2
    · simpa [h, Ne.symm h] using linear_atMost.total p.1 q.1
  trans {p q r} hpq hqr := by
    unfold pairAtMost at *
    by_cases h : p.1 = q.1
    · by_cases h' : q.1 = r.1
      · simp only [h, h', if_true] at hpq hqr ⊢
        exact linear_atMost.trans hpq hqr
      · simpa [h, h'] using hqr
    · by_cases h' : q.1 = r.1
      · rw [← h', if_neg h]
        simpa [h] using hpq
      · rw [if_neg h] at hpq
        rw [if_neg h'] at hqr
        have hpr := linear_atMost.trans hpq hqr
        -- otherwise the first texts of `p` and `q` would each come before the other
        have hne : p.1 ≠ r.1 := fun he => h (linear_atMost.antisymm hpq (he ▸ hqr))
        rwa [if_neg hne]
  antisymm {p q} hpq hqp := by
    unfold pairAtMost at hpq hqp
    by_cases h : p.1 = q.1
    · simp only [h, if_true] at hpq hqp
      exact Prod.ext h (linear_atMost.antisymm hpq hqp)
    · rw [if_neg h] at hpq
      rw [if_neg (Ne.symm h)] at hqp
      exact absurd (linear_atMost.antisymm hpq hqp) h

variable {α : Type} {before : α → α → Bool}

/-- Of two things that go in, the second finds its place as if it had gone in first. -/
theorem insertSorted_comm_of_before (h : Linear before) {x y : α} (hxy : before x y = true)
    (xs : List α) :
    insertSorted before x (insertSorted before y xs) =
      insertSorted before y (insertSorted before x xs) := by
  by_cases hyx : before y x = true
  · rw [h.antisymm hxy hyx]
  · induction xs with
    | nil => simp [insertSorted, hxy, hyx]
    | cons z xs ih =>
      -- `x` stops no later than `y`: both stop at `z`, or `x` alone, or neither
      by_cases hyz : before y z = true
      · simp [insertSorted, hyz, hxy, hyx, h.trans hxy hyz]
      · by_cases hxz : before x z = true
        · simp [insertSorted, hyz, hxz, hyx]
        · simp [insertSorted, hyz, hxz, ih]

theorem insertSorted_comm (h : Linear before) (x y : α) (xs : List α) :
    insertSorted before x (insertSorted before y xs) =
      insertSorted before y (insertSorted before x xs) := by
  rcases h.total x y with hxy | hyx
  · exact insertSorted_comm_of_before h hxy xs
  · exact (insertSorted_comm_of_before h hyx xs).symm

/-- Sorting forgets the order. -/
theorem sorted_eq_of_perm (h : Linear before) {xs ys : List α} (perm : xs.Perm ys) :
    sorted before xs = sorted before ys :=
  perm.foldr_eq' (fun x _ y _ zs => insertSorted_comm h y x zs) []

end Text

/-! ### Rows that match -/

/-- If a relation leads from every element of one list to the other, never from two of them to the
same one, and the lists are of one length, then the other list is, in some order, the one that the
relation leads to. -/
theorem exists_perm_forall₂ {α β : Type} {R : α → β → Prop} {xs : List α} {ys : List β}
    (apart : xs.Pairwise fun a b => ∀ y ∈ ys, R a y → ¬ R b y)
    (total : ∀ x ∈ xs, ∃ y ∈ ys, R x y) (length : xs.length = ys.length) :
    ∃ zs, zs.Perm ys ∧ List.Forall₂ R xs zs := by
  induction xs generalizing ys with
  | nil =>
    obtain rfl := List.eq_nil_of_length_eq_zero length.symm
    exact ⟨[], .refl _, .nil⟩
  | cons x xs ih =>
    obtain ⟨y, hy, hxy⟩ := total x (by simp)
    obtain ⟨before, after, rfl⟩ := List.append_of_mem hy
    rw [List.pairwise_cons] at apart
    have sub : ∀ z ∈ before ++ after, z ∈ before ++ y :: after := by
      intro z hz
      rcases List.mem_append.1 hz with hz | hz
      · simp [hz]
      · simp [hz]
    have others : ∀ x' ∈ xs, ∃ z ∈ before ++ after, R x' z := by
      -- the partner of `x'` is not `y`, which belongs to `x`
      intro x' hx'
      obtain ⟨z, hz, hxz⟩ := total x' (List.mem_cons_of_mem _ hx')
      have hne : z ≠ y := fun he => apart.1 x' hx' y hy hxy (he ▸ hxz)
      exact ⟨z, by simpa [hne] using hz, hxz⟩
    have length' : xs.length = (before ++ after).length := by
      simp only [List.length_append, List.length_cons] at length ⊢
      omega
    obtain ⟨zs, perm, related⟩ := ih (apart.2.imp fun h z hz => h z (sub z hz)) others length'
    exact ⟨y :: zs, (perm.cons y).trans List.perm_middle.symm, .cons hxy related⟩

namespace Value

variable {text : Entity → String} {t u : Table} {v w : Value}

/-- Maps that are the same have, in some order, the same entries. -/
theorem exists_perm_of_same_map {xs ys : List (Filed Value × Value)} (hx : WellKeyed (map t xs))
    (hy : WellKeyed (map u ys)) (h : (map t xs).same (map u ys) = true) :
    ∃ zs, zs.Perm ys ∧ List.Forall₂ SameEntry xs zs := by
  obtain ⟨_, _, hys, -, length, within⟩ := same_map_iff.1 h
  cases hys
  refine exists_perm_forall₂ ?_
    (fun d hd => exists_of_entryWithin (entriesWithin_iff.1 within d hd))
    length
  refine List.Pairwise.imp_of_mem (fun {d d'} hd hd' differ e he hde hd'e => ?_) hx.here
  exact Bool.eq_false_iff.1
    (differ.not_same (hx.key hd) (hx.key hd') (hy.key he) hde.1) hd'e.1

theorem exists_perm_of_same_set {xs ys : List (Filed Value)} (hx : WellKeyed (set t xs))
    (hy : WellKeyed (set u ys)) (h : (set t xs).same (set u ys) = true) :
    ∃ zs, zs.Perm ys ∧ List.Forall₂ (fun x z => x.value.same z.value = true) xs zs := by
  obtain ⟨_, _, hys, -, length, within⟩ := same_set_iff.1 h
  cases hys
  refine exists_perm_forall₂ ?_ (elementsWithin_iff.1 within) length
  refine List.Pairwise.imp_of_mem (fun {x x'} hx' hx'' differ y hymem hxy hx'y => ?_) hx.here
  exact Bool.eq_false_iff.1
    (differ.not_same (hx.element hx') (hx.element hx'') (hy.element hymem) hxy) hx'y

/-! ### What prints alike -/

/-- A map or set with at most one entry, or something else. -/
def AtMostOne : Value → Prop
  | map _ entries => entries.length ≤ 1
  | set _ items => items.length ≤ 1
  | _ => True

/-- No map or set has more than one entry, at any depth. -/
def Thin : Value → Prop := Everywhere AtMostOne

theorem map_eq_of_forall₂ {α β γ : Type} {R : α → β → Prop} {f : α → γ} {g : β → γ} {xs : List α}
    {ys : List β} (h : List.Forall₂ R xs ys) (step : ∀ x ∈ xs, ∀ y ∈ ys, R x y → f x = g y) :
    xs.map f = ys.map g := by
  have eq := forall₂_of_mem (S := fun x y => f x = g y) step h
  rw [← List.forall₂_eq_eq_eq, List.forall₂_map_left_iff, List.forall₂_map_right_iff]
  exact eq

/-- The same texts, in some order. -/
theorem printedEntries_perm {xs ys : List (Filed Value × Value)} (hx : WellKeyed (map t xs))
    (hy : WellKeyed (map u ys)) (h : (map t xs).same (map u ys) = true)
    (ih : ∀ x ∈ (map t xs).parts, ∀ y, WellKeyed y → x.same y = true →
      x.render text = y.render text) :
    (printedEntries text xs).Perm (printedEntries text ys) := by
  obtain ⟨zs, perm, related⟩ := exists_perm_of_same_map hx hy h
  refine List.Perm.trans (.of_eq ?_) (perm.map _)
  refine map_eq_of_forall₂ related fun d hd e he hde => ?_
  have he := perm.mem_iff.1 he
  exact Prod.ext (ih _ (key_mem_parts hd) _ (hy.key he) hde.1)
    (ih _ (value_mem_parts hd) _ (hy.value he) hde.2)

theorem printedItems_perm {xs ys : List (Filed Value)} (hx : WellKeyed (set t xs))
    (hy : WellKeyed (set u ys)) (h : (set t xs).same (set u ys) = true)
    (ih : ∀ x ∈ (set t xs).parts, ∀ y, WellKeyed y → x.same y = true →
      x.render text = y.render text) :
    (xs.map (·.value.render text)).Perm (ys.map (·.value.render text)) := by
  obtain ⟨zs, perm, related⟩ := exists_perm_of_same_set hx hy h
  refine List.Perm.trans (.of_eq ?_) (perm.map _)
  exact map_eq_of_forall₂ related fun x hx' y hy' hxy =>
    ih _ (element_mem_parts hx') _ (hy.element (perm.mem_iff.1 hy')) hxy

theorem eq_of_perm_of_length_le_one {α : Type} {xs ys : List α} (perm : xs.Perm ys)
    (short : xs.length ≤ 1) : xs = ys := by
  cases xs with
  | nil => exact perm.nil_eq
  | cons x xs =>
    obtain rfl := List.eq_nil_of_length_eq_zero (Nat.le_zero.1 (Nat.le_of_succ_le_succ short))
    exact List.singleton_perm.1 perm ▸ rfl

/-- Everything the same as a thin value prints as it does. -/
theorem Thin.render_eq (h : Thin v) (wv : WellKeyed v) (ww : WellKeyed w)
    (hvw : v.same w = true) : v.render text = w.render text := by
  induction h generalizing w with
  | @intro v here inside ih =>
    have step : ∀ x ∈ v.parts, ∀ y, WellKeyed y → x.same y = true →
        x.render text = y.render text :=
      fun x hx y wy hxy => ih x hx (wv.inside hx) wy hxy
    cases alike_of_same hvw with
    | number hn => exact Number.render_congr hn
    | list hs | vector hs =>
      simp only [render, renderAll_eq]
      rw [map_eq_of_forall₂ hs fun x hx y hy hxy => step x hx y (ww.inside hy) hxy]
    | @map t u xs ys =>
      -- with one entry at most, the order of entries is one and the same
      have perm := printedEntries_perm wv ww hvw step
      have short : xs.length ≤ 1 := here
      have eq := eq_of_perm_of_length_le_one perm (by simpa [printedEntries] using short)
      have texts := congrArg (List.map fun p : String × String => p.1 ++ " " ++ p.2) eq
      simp only [printedEntries, List.map_map, Function.comp_def] at texts
      simp only [render, renderEntries_eq]
      rw [texts]
    | @set t u xs ys =>
      have perm := printedItems_perm wv ww hvw step
      simp only [render, renderItems_eq]
      have short : xs.length ≤ 1 := here
      rw [eq_of_perm_of_length_le_one perm (by simpa using short)]
    | quoted h =>
      simp only [render]
      rw [step _ (List.mem_singleton_self _) _ (ww.inside (List.mem_singleton_self _)) h]
    | _ => rfl

/-! ### What is hashed by the same -/

/-- The maps and sets in a value hold thin values only, and outside of them there is a number
wherever there is one. -/
inductive Flat : Value → Prop where
  | atom {v : Value} (leaf : v.parts = []) (number : ∀ n, v = number n → n.isNaN = false) : Flat v
  | list {xs : List Value} (h : ∀ x ∈ xs, Flat x) : Flat (list xs)
  | vector {rep : Representation} {xs : List Value} (h : ∀ x ∈ xs, Flat x) : Flat (vector rep xs)
  | map {t : Table} {es : List (Filed Value × Value)} (keys : ∀ e ∈ es, Thin e.1.value)
    (values : ∀ e ∈ es, Thin e.2) : Flat (map t es)
  | set {t : Table} {xs : List (Filed Value)} (h : ∀ x ∈ xs, Thin x.value) : Flat (set t xs)
  | quoted {form : Value} (h : Flat form) : Flat (quoted form)

theorem kindIndex_map (t : Table) (xs ys : List (Filed Value × Value)) (rep : t.rep = u.rep) :
    (map t xs).kindIndex = (map u ys).kindIndex := by
  obtain ⟨rep', state⟩ := t
  obtain ⟨rep'', state'⟩ := u
  obtain rfl : rep' = rep'' := rep
  cases rep' <;> rfl

theorem kindIndex_set (t : Table) (xs ys : List (Filed Value)) (rep : t.rep = u.rep) :
    (set t xs).kindIndex = (set u ys).kindIndex := by
  obtain ⟨rep', state⟩ := t
  obtain ⟨rep'', state'⟩ := u
  obtain rfl : rep' = rep'' := rep
  cases rep' <;> rfl

theorem kindIndex_vector (rep : Representation) (xs ys : List Value) :
    (vector rep xs).kindIndex = (vector rep ys).kindIndex := by
  cases rep <;> rfl

theorem markAll_eq (vs : List Value) : markAll text vs = vs.flatMap (mark text) := by
  induction vs with
  | nil => rfl
  | cons v vs ih => rw [markAll, ih, List.flatMap_cons]

theorem markAll_congr {R : Value → Value → Prop} {xs ys : List Value} (h : List.Forall₂ R xs ys)
    (step : ∀ x ∈ xs, ∀ y ∈ ys, R x y → x.mark text = y.mark text) :
    markAll text xs = markAll text ys := by
  rw [markAll_eq, markAll_eq, List.flatMap_def, List.flatMap_def, map_eq_of_forall₂ h step]

theorem markEntries_congr {xs ys : List (Filed Value × Value)}
    (perm : (printedEntries text xs).Perm (printedEntries text ys)) :
    markEntries text xs = markEntries text ys := by
  have length : xs.length = ys.length := by simpa [printedEntries] using perm.length_eq
  rw [markEntries, markEntries, length, Text.sorted_eq_of_perm Text.linear_pairAtMost perm]

theorem markItems_congr {xs ys : List (Filed Value)}
    (perm : (xs.map (·.value.render text)).Perm (ys.map (·.value.render text))) :
    markItems text xs = markItems text ys := by
  have length : xs.length = ys.length := by simpa using perm.length_eq
  rw [markItems, markItems, length, Text.sorted_eq_of_perm Text.linear_atMost perm]

/-- Everything the same as a flat value is hashed by the same. -/
theorem Flat.mark_eq (h : Flat v) (wv : WellKeyed v) (ww : WellKeyed w) (hvw : v.same w = true) :
    v.mark text = w.mark text := by
  induction h generalizing w with
  | atom leaf number =>
    cases alike_of_same hvw with
    | number hn => rw [mark, mark, Number.hashed_congr hn (number _ rfl)]; rfl
    | list hs | vector hs =>
      obtain rfl : _ = [] := leaf
      cases hs
      rfl
    | @map t u xs ys rep length =>
      obtain rfl := eq_nil_of_parts_map leaf
      obtain rfl := List.eq_nil_of_length_eq_zero length.symm
      rw [mark, mark, kindIndex_map t [] [] rep]
    | @set t u xs ys rep length =>
      obtain rfl := eq_nil_of_parts_set leaf
      obtain rfl := List.eq_nil_of_length_eq_zero length.symm
      rw [mark, mark, kindIndex_set t [] [] rep]
    | quoted => cases leaf
    | _ => rfl
  | @list xs _ ih =>
    obtain ⟨ys, rfl, hs⟩ := same_list_iff.1 hvw
    rw [mark, mark, markAll_congr hs fun x hx y hy hxy =>
      ih x hx (wv.inside hx) (ww.inside hy) hxy, hs.length_eq]
    rfl
  | @vector rep xs _ ih =>
    obtain ⟨ys, rfl, hs⟩ := same_vector_iff.1 hvw
    rw [mark, mark, kindIndex_vector rep xs ys, markAll_congr hs fun x hx y hy hxy =>
      ih x hx (wv.inside hx) (ww.inside hy) hxy, hs.length_eq]
  | @map t es keys values =>
    obtain ⟨u, ys, rfl, rep, -⟩ := same_map_iff.1 hvw
    rw [mark, mark, kindIndex_map t es ys rep, markEntries_congr (printedEntries_perm wv ww hvw ?_)]
    -- everything inside is thin, so it prints alike
    exact forall_parts_map.2 fun e he => ⟨fun y wy => (keys e he).render_eq (wv.key he) wy,
      fun y wy => (values e he).render_eq (wv.value he) wy⟩
  | @set t xs h =>
    obtain ⟨u, ys, rfl, rep, -⟩ := same_set_iff.1 hvw
    rw [mark, mark, kindIndex_set t xs ys rep, markItems_congr (printedItems_perm wv ww hvw ?_)]
    intro x hx y wy hxy
    obtain ⟨x, hx', rfl⟩ := List.mem_map.1 hx
    exact (h x hx').render_eq (wv.element hx') wy hxy
  | @quoted form _ ih =>
    obtain ⟨form', rfl, hs⟩ := same_quoted_iff.1 hvw
    rw [mark, mark, ih (wv.inside (List.mem_singleton_self _))
      (ww.inside (List.mem_singleton_self _)) hs]
    rfl

/-- Flat values serve as keys, if the keys in them are found. -/
theorem Flat.reliable [Tables] (h : Flat v) (wv : WellKeyed v) (found : Findable text v) :
    Reliable text v where
  wellKeyed := wv
  findable := found
  steady t a b wa wb hva hvb := by
    rw [← h.mark_eq wv wa hva, ← h.mark_eq wv wb hvb, Tables.meets_self]

/-- What has nothing inside serves as a key, unless it is no number. -/
theorem reliable_leaf [Tables] (leaf : v.parts = [])
    (number : ∀ n, v = number n → n.isNaN = false) :
    Reliable text v :=
  (Flat.atom leaf number).reliable (wellKeyed_leaf leaf) (findable_leaf leaf)

end Value

end Lisp
