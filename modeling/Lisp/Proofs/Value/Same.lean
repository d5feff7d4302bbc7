import Lisp.Proofs.Value.Parts
import Mathlib.Data.List.Forall2
import Mathlib.Data.List.Pairwise

/-!
# Sameness is an equivalence

Sameness of maps and sets looks one way only: equal sizes, and every entry of the one among those of
the other. On values in which no two keys of a map and no two elements of a set are the same, at any
depth, this is enough for an equivalence: finding is injective, so by counting it is onto.

## Main definitions

* `Value.Differ` — two values that are not the same
* `Value.WellKeyed` — no two keys of a map or elements of a set are the same, at any depth
* `Value.Alike` — how two values can be the same
* `Value.Coherent` — the laws of an equivalence, as far as they begin at one value

## Main results

* `Value.alike_of_same` — values that are the same have the same shape
* `Value.WellKeyed.same_refl`, `same_symm`, `same_trans` — sameness is an equivalence
* `Value.same_map_of_matched` — maps with matching entries are the same
-/

namespace Lisp

namespace Number

theorem isNaN_of_isZero {x : Number} (h : x.isZero = true) : x.isNaN = false := by
  simp only [isZero, decide_eq_true_eq] at h
  have hexponent : x.exponentField ≠ 2047 := by
    unfold exponentField
    omega
  unfold isNaN
  rw [decide_eq_false hexponent, Bool.false_and]

theorem exact_of_isZero {x : Number} (h : x.isZero = true) :
    x.exact = .finite x.isNegative 0 (-1074) := by
  simp only [isZero, decide_eq_true_eq] at h
  have hexponent : x.exponentField = 0 := by
    unfold exponentField
    omega
  have hfraction : x.fractionField = 0 := by
    unfold fractionField
    omega
  simp [exact, hexponent, hfraction]

theorem exact_of_isNaN {x : Number} (h : x.isNaN = true) : x.exact = .nan := by
  simp only [isNaN, Bool.and_eq_true, decide_eq_true_eq, bne_iff_ne] at h
  simp [exact, h.1, h.2]

theorem same_iff {x y : Number} :
    x.same y = true ↔ x = y ∨ (x.isZero = true ∧ y.isZero = true) ∨
      (x.isNaN = true ∧ y.isNaN = true) := by
  have hbits : x.bits = y.bits ↔ x = y := by
    cases x
    cases y
    simp
  simp [same, hbits, or_assoc]

theorem same_refl (x : Number) : x.same x = true :=
  same_iff.2 (.inl rfl)

theorem same_symm {x y : Number} (h : x.same y = true) : y.same x = true := by
  rw [same_iff] at h ⊢
  tauto

theorem same_trans {x y z : Number} (h : x.same y = true) (h' : y.same z = true) :
    x.same z = true := by
  rw [same_iff] at h h' ⊢
  rcases h with rfl | ⟨hx, hy⟩ | ⟨hx, hy⟩
  · exact h'
  · have := isNaN_of_isZero hy
    rcases h' with rfl | ⟨-, hz⟩ | ⟨hy', -⟩
    · exact .inr (.inl ⟨hx, hy⟩)
    · exact .inr (.inl ⟨hx, hz⟩)
    · simp [this] at hy'
  · rcases h' with rfl | ⟨hy', -⟩ | ⟨-, hz⟩
    · exact .inr (.inr ⟨hx, hy⟩)
    · simp [isNaN_of_isZero hy'] at hy
    · exact .inr (.inr ⟨hx, hz⟩)

end Number

/-- If a relation leads from every element of one list to the other, never from two of them to the
same one, and the other list is not longer, then it reaches all of the other list. -/
theorem exists_related_of_length_le {α β : Type} {R : α → β → Prop} {xs : List α} {ys : List β}
    (apart : xs.Pairwise fun a b => ∀ y ∈ ys, R a y → ¬ R b y)
    (total : ∀ x ∈ xs, ∃ y ∈ ys, R x y) (short : ys.length ≤ xs.length) :
    ∀ y ∈ ys, ∃ x ∈ xs, R x y := by
  induction xs generalizing ys with
  | nil =>
    obtain rfl := List.eq_nil_of_length_eq_zero (Nat.le_zero.1 short)
    simp
  | cons x xs ih =>
    obtain ⟨y₀, hy₀, hR⟩ := total x (by simp)
    obtain ⟨before, after, rfl⟩ := List.append_of_mem hy₀
    rw [List.pairwise_cons] at apart
    have rest : ∀ y ∈ before ++ after, ∃ x ∈ xs, R x y := by
      apply ih
      · refine apart.2.imp ?_
        intro a b h y hy
        refine h y ?_
        simp only [List.mem_append, List.mem_cons] at hy ⊢
        tauto
      · -- the partner of `x'` is not the one taken out, which belongs to `x`
        intro x' hx'
        obtain ⟨y', hy', hR'⟩ := total x' (List.mem_cons_of_mem _ hx')
        have hne : y' ≠ y₀ := fun h => apart.1 x' hx' y₀ hy₀ hR (h ▸ hR')
        refine ⟨y', ?_, hR'⟩
        simpa [hne] using hy'
      · simp only [List.length_append, List.length_cons] at short ⊢
        omega
    intro y hy
    by_cases h : y = y₀
    · exact ⟨x, by simp, h ▸ hR⟩
    · obtain ⟨x', hx', hR'⟩ := rest y (by simpa [h] using hy)
      exact ⟨x', List.mem_cons_of_mem _ hx', hR'⟩

/-- If a relation leads from every element of one list to the other, and never from two of them to
the same one, then the other list is not shorter. -/
theorem length_le_of_related {α β : Type} {R : α → β → Prop} {xs : List α} {ys : List β}
    (apart : xs.Pairwise fun a b => ∀ y ∈ ys, R a y → ¬ R b y)
    (total : ∀ x ∈ xs, ∃ y ∈ ys, R x y) : xs.length ≤ ys.length := by
  by_contra hshort
  cases xs with
  | nil => exact hshort (Nat.zero_le _)
  | cons x xs =>
    -- then all others reach all of `ys`, also the partner of `x`
    rw [List.pairwise_cons] at apart
    rw [List.forall_mem_cons] at total
    obtain ⟨y, hy, hxy⟩ := total.1
    have short : ys.length ≤ xs.length := by
      rw [List.length_cons] at hshort
      omega
    obtain ⟨x', hx', hxy'⟩ := exists_related_of_length_le apart.2 total.2 short y hy
    exact apart.1 x' hx' y hy hxy hxy'

/-- Two rows that match in one relation match in another if their members do. -/
theorem forall₂_of_mem {α β : Type} {R S : α → β → Prop} {xs : List α} {ys : List β}
    (step : ∀ x ∈ xs, ∀ y ∈ ys, R x y → S x y) (h : List.Forall₂ R xs ys) :
    List.Forall₂ S xs ys := by
  induction h with
  | nil => exact .nil
  | @cons x y xs ys hxy _ ih =>
    refine .cons (step x (by simp) y (by simp) hxy) (ih fun x' hx' y' hy' => ?_)
    exact step x' (List.mem_cons_of_mem _ hx') y' (List.mem_cons_of_mem _ hy')

namespace Value

/-- Two values that are not the same, whichever of them is asked. -/
def Differ (a b : Value) : Prop := a.same b = false ∧ b.same a = false

theorem Differ.symm {a b : Value} (h : Differ a b) : Differ b a := ⟨h.2, h.1⟩

/-- No two keys of a map and no two elements of a set are the same. -/
def KeysDiffer : Value → Prop
  | map _ entries => entries.Pairwise fun d e => Differ d.1.value e.1.value
  | set _ items => items.Pairwise fun x y => Differ x.value y.value
  | _ => True

/-- No two keys of a map and no two elements of a set are the same, at any depth. -/
def WellKeyed : Value → Prop := Everywhere KeysDiffer

theorem wellKeyed_leaf {v : Value} (leaf : v.parts = []) : WellKeyed v := by
  refine .leaf ?_ leaf
  cases v with
  | map t entries => exact eq_nil_of_parts_map leaf ▸ .nil
  | set t items => exact eq_nil_of_parts_set leaf ▸ .nil
  | _ => trivial

/-- Two entries with the same key and the same value. -/
def SameEntry (d e : Filed Value × Value) : Prop :=
  d.1.value.same e.1.value = true ∧ d.2.same e.2 = true

/-- Among keys that differ, a key is the same as itself only. -/
theorem eq_of_same_key {α : Type} {key : α → Value} {xs : List α} {a b : α}
    (hd : xs.Pairwise fun a b => Differ (key a) (key b)) (ha : a ∈ xs) (hb : b ∈ xs)
    (h : (key a).same (key b) = true) : a = b := by
  by_contra hne
  have : Std.Symm fun a b : α => Differ (key a) (key b) := ⟨fun _ _ => Differ.symm⟩
  have := (hd.forall ha hb hne).1
  simp [h] at this

attribute [local simp] same sameAll elementsWithin entriesWithin entryWithin

theorem sameAll_iff {xs ys : List Value} :
    sameAll xs ys = true ↔ List.Forall₂ (fun x y => x.same y = true) xs ys := by
  induction xs generalizing ys with
  | nil => cases ys <;> simp [sameAll]
  | cons x xs ih => cases ys <;> simp [sameAll, ih]

theorem elementsWithin_iff {xs ys : List (Filed Value)} :
    elementsWithin xs ys = true ↔ ∀ x ∈ xs, ∃ y ∈ ys, x.value.same y.value = true := by
  induction xs with
  | nil => simp [elementsWithin]
  | cons x xs ih => simp [elementsWithin, ih]

theorem entriesWithin_iff {xs ys : List (Filed Value × Value)} :
    entriesWithin xs ys = true ↔ ∀ d ∈ xs, entryWithin d ys = true := by
  induction xs with
  | nil => simp [entriesWithin]
  | cons d xs ih => simp [entriesWithin, ih]

theorem exists_of_entryWithin {d : Filed Value × Value} {ys : List (Filed Value × Value)}
    (h : entryWithin d ys = true) : ∃ e ∈ ys, SameEntry d e := by
  obtain ⟨⟨k, mark⟩, v⟩ := d
  simp only [entryWithin] at h
  split at h
  · next e he =>
    have hkey := List.find?_some he
    exact ⟨e, List.mem_of_find?_eq_some he, hkey, h⟩
  · simp at h

theorem entryWithin_of_unique {d e : Filed Value × Value} {ys : List (Filed Value × Value)}
    (he : e ∈ ys) (h : SameEntry d e)
    (unique : ∀ e' ∈ ys, d.1.value.same e'.1.value = true → e' = e) : entryWithin d ys = true := by
  obtain ⟨⟨k, mark⟩, v⟩ := d
  simp only [entryWithin]
  split
  · next e' he' =>
    have hkey := List.find?_some he'
    obtain rfl := unique e' (List.mem_of_find?_eq_some he') hkey
    exact h.2
  · next hnone =>
    have := List.find?_eq_none.1 hnone e he
    simp [h.1] at this

/-! ### What a value can be the same as -/

theorem same_number_iff {a : Number} {y : Value} :
    (number a).same y = true ↔ ∃ b, y = number b ∧ a.same b = true := by
  cases y <;> simp [same]

theorem same_list_iff {xs : List Value} {y : Value} :
    (list xs).same y = true ↔
      ∃ ys, y = list ys ∧ List.Forall₂ (fun x y => x.same y = true) xs ys := by
  cases y <;> simp [same, sameAll_iff]

theorem same_vector_iff {rep : Representation} {xs : List Value} {y : Value} :
    (vector rep xs).same y = true ↔
      ∃ ys, y = vector rep ys ∧ List.Forall₂ (fun x y => x.same y = true) xs ys := by
  cases y with
  | vector rep' ys => cases rep <;> cases rep' <;> simp [same, sameAll_iff]
  | _ => simp [same]

theorem same_map_iff {t : Table} {xs : List (Filed Value × Value)} {y : Value} :
    (map t xs).same y = true ↔
      ∃ u ys, y = map u ys ∧ t.rep = u.rep ∧ xs.length = ys.length ∧
        entriesWithin xs ys = true := by
  cases y with
  | map u ys => simp [same, and_assoc]
  | _ => simp [same]

theorem same_set_iff {t : Table} {xs : List (Filed Value)} {y : Value} :
    (set t xs).same y = true ↔
      ∃ u ys, y = set u ys ∧ t.rep = u.rep ∧ xs.length = ys.length ∧
        elementsWithin xs ys = true := by
  cases y with
  | set u ys => simp [same, and_assoc]
  | _ => simp [same]

theorem same_quoted_iff {x y : Value} :
    (quoted x).same y = true ↔ ∃ y', y = quoted y' ∧ x.same y' = true := by
  cases y <;> simp [same]

/-- How two values can be the same. -/
inductive Alike : Value → Value → Prop where
  | nil : Alike nil nil
  | bool (b : Bool) : Alike (bool b) (bool b)
  | number {m n : Number} (h : m.same n = true) : Alike (number m) (number n)
  | string (s : String) : Alike (string s) (string s)
  | symbol (name : Name) : Alike (symbol name) (symbol name)
  | keyword (name : Name) : Alike (keyword name) (keyword name)
  | list {xs ys : List Value} (h : List.Forall₂ (fun x y => x.same y = true) xs ys) :
    Alike (list xs) (list ys)
  | vector {rep : Representation} {xs ys : List Value}
      (h : List.Forall₂ (fun x y => x.same y = true) xs ys) : Alike (vector rep xs) (vector rep ys)
  | map {t u : Table} {xs ys : List (Filed Value × Value)} (rep : t.rep = u.rep)
      (length : xs.length = ys.length) (within : entriesWithin xs ys = true) :
    Alike (map t xs) (map u ys)
  | set {t u : Table} {xs ys : List (Filed Value)} (rep : t.rep = u.rep)
      (length : xs.length = ys.length) (within : elementsWithin xs ys = true) :
    Alike (set t xs) (set u ys)
  | quoted {v w : Value} (h : v.same w = true) : Alike (quoted v) (quoted w)
  | regex (pattern : String) : Alike (regex pattern) (regex pattern)
  | entity (e : Entity) : Alike (entity e) (entity e)

/-- Values that are the same have the same shape. -/
theorem alike_of_same {v w : Value} (h : v.same w = true) : Alike v w := by
  cases v with
  | number m =>
    obtain ⟨n, rfl, hmn⟩ := same_number_iff.1 h
    exact .number hmn
  | list xs =>
    obtain ⟨ys, rfl, hxs⟩ := same_list_iff.1 h
    exact .list hxs
  | vector rep xs =>
    obtain ⟨ys, rfl, hxs⟩ := same_vector_iff.1 h
    exact .vector hxs
  | map t xs =>
    obtain ⟨u, ys, rfl, rep, length, within⟩ := same_map_iff.1 h
    exact .map rep length within
  | set t xs =>
    obtain ⟨u, ys, rfl, rep, length, within⟩ := same_set_iff.1 h
    exact .set rep length within
  | quoted v =>
    obtain ⟨w, rfl, hvw⟩ := same_quoted_iff.1 h
    exact .quoted hvw
  | nil =>
    obtain rfl : w = .nil := by cases w <;> simp [same] at h ⊢
    exact .nil
  | bool b =>
    obtain rfl : w = .bool b := by cases w <;> simp_all [same]
    exact .bool b
  | string s =>
    obtain rfl : w = .string s := by cases w <;> simp_all [same]
    exact .string s
  | symbol name =>
    obtain rfl : w = .symbol name := by cases w <;> simp_all [same]
    exact .symbol name
  | keyword name =>
    obtain rfl : w = .keyword name := by cases w <;> simp_all [same]
    exact .keyword name
  | regex pattern =>
    obtain rfl : w = .regex pattern := by cases w <;> simp_all [same]
    exact .regex pattern
  | entity e =>
    obtain rfl : w = .entity e := by cases w <;> simp_all [same]
    exact .entity e

/-! ### The laws of an equivalence, value by value -/

/-- The laws of an equivalence, as far as they begin at one value. -/
structure Coherent (x : Value) : Prop where
  symm : ∀ {y : Value}, WellKeyed y → x.same y = true → y.same x = true
  trans : ∀ {y z : Value}, WellKeyed y → WellKeyed z →
    x.same y = true → y.same z = true → x.same z = true
  eucl : ∀ {y z : Value}, WellKeyed y → WellKeyed z →
    x.same y = true → x.same z = true → y.same z = true

/-- Of two values that differ, at most one is the same as a third. -/
theorem Coherent.not_same {x y z : Value} (cx : Coherent x) (cy : Coherent y) (hy : WellKeyed y)
    (hz : WellKeyed z) (differ : Differ x y) (hxz : x.same z = true) : y.same z = false := by
  by_contra hyz
  have hxy := cx.trans hz hy hxz (cy.symm hz (by simpa using hyz))
  simp [differ.1] at hxy

theorem coherent_of_same_iff_eq {x : Value} (h : ∀ y, x.same y = true ↔ x = y) : Coherent x where
  symm _ hxy := by
    obtain rfl := (h _).1 hxy
    exact hxy
  trans _ _ hxy hyz := by
    obtain rfl := (h _).1 hxy
    exact hyz
  eucl _ _ hxy hxz := by
    obtain rfl := (h _).1 hxy
    exact hxz

theorem coherent_number (a : Number) : Coherent (number a) where
  symm _ hxy := by
    obtain ⟨b, rfl, hab⟩ := same_number_iff.1 hxy
    exact same_number_iff.2 ⟨a, rfl, Number.same_symm hab⟩
  trans _ _ hxy hyz := by
    obtain ⟨b, rfl, hab⟩ := same_number_iff.1 hxy
    obtain ⟨c, rfl, hbc⟩ := same_number_iff.1 hyz
    exact same_number_iff.2 ⟨c, rfl, Number.same_trans hab hbc⟩
  eucl _ _ hxy hxz := by
    obtain ⟨b, rfl, hab⟩ := same_number_iff.1 hxy
    obtain ⟨c, rfl, hac⟩ := same_number_iff.1 hxz
    exact same_number_iff.2 ⟨c, rfl, Number.same_trans (Number.same_symm hab) hac⟩

theorem coherent_quoted {x : Value} (h : Coherent x) : Coherent (quoted x) where
  symm hy hxy := by
    obtain ⟨y, rfl, hxy⟩ := same_quoted_iff.1 hxy
    exact same_quoted_iff.2 ⟨x, rfl, h.symm (hy.inside (by simp [parts])) hxy⟩
  trans hy hz hxy hyz := by
    obtain ⟨y, rfl, hxy⟩ := same_quoted_iff.1 hxy
    obtain ⟨z, rfl, hyz⟩ := same_quoted_iff.1 hyz
    exact same_quoted_iff.2 ⟨z, rfl, h.trans (hy.inside (by simp [parts]))
      (hz.inside (by simp [parts])) hxy hyz⟩
  eucl hy hz hxy hxz := by
    obtain ⟨y, rfl, hxy⟩ := same_quoted_iff.1 hxy
    obtain ⟨z, rfl, hxz⟩ := same_quoted_iff.1 hxz
    exact same_quoted_iff.2 ⟨z, rfl, h.eucl (hy.inside (by simp [parts]))
      (hz.inside (by simp [parts])) hxy hxz⟩

section Sequences

variable {xs ys zs : List Value}

theorem forall₂_same_symm (hx : ∀ x ∈ xs, Coherent x) (hy : ∀ y ∈ ys, WellKeyed y)
    (h : List.Forall₂ (fun x y => x.same y = true) xs ys) :
    List.Forall₂ (fun x y => x.same y = true) ys xs := by
  induction h with
  | nil => exact .nil
  | cons hxy _ ih =>
    simp only [List.forall_mem_cons] at hx hy
    exact .cons (hx.1.symm hy.1 hxy) (ih hx.2 hy.2)

theorem forall₂_same_trans (hx : ∀ x ∈ xs, Coherent x) (hy : ∀ y ∈ ys, WellKeyed y)
    (hz : ∀ z ∈ zs, WellKeyed z) (hxy : List.Forall₂ (fun x y => x.same y = true) xs ys)
    (hyz : List.Forall₂ (fun x y => x.same y = true) ys zs) :
    List.Forall₂ (fun x y => x.same y = true) xs zs := by
  induction hxy generalizing zs with
  | nil => exact hyz
  | cons hxy _ ih =>
    cases hyz with
    | cons hyz hrest =>
      simp only [List.forall_mem_cons] at hx hy hz
      exact .cons (hx.1.trans hy.1 hz.1 hxy hyz) (ih hx.2 hy.2 hz.2 hrest)

theorem forall₂_same_eucl (hx : ∀ x ∈ xs, Coherent x) (hy : ∀ y ∈ ys, WellKeyed y)
    (hz : ∀ z ∈ zs, WellKeyed z) (hxy : List.Forall₂ (fun x y => x.same y = true) xs ys)
    (hxz : List.Forall₂ (fun x y => x.same y = true) xs zs) :
    List.Forall₂ (fun x y => x.same y = true) ys zs := by
  induction hxy generalizing zs with
  | nil => exact hxz
  | cons hxy _ ih =>
    cases hxz with
    | cons hxz hrest =>
      simp only [List.forall_mem_cons] at hx hy hz
      exact .cons (hx.1.eucl hy.1 hz.1 hxy hxz) (ih hx.2 hy.2 hz.2 hrest)

/-- Lists and vectors alike: `make` builds a value that is the same as those built of the same
elements. -/
theorem coherent_sequence {make : List Value → Value} (hparts : ∀ ys, (make ys).parts = ys)
    (hsame : ∀ xs y, (make xs).same y = true ↔
      ∃ ys, y = make ys ∧ List.Forall₂ (fun x y => x.same y = true) xs ys)
    (hx : ∀ x ∈ xs, Coherent x) : Coherent (make xs) := by
  have inside : ∀ {ys}, WellKeyed (make ys) → ∀ y ∈ ys, WellKeyed y :=
    fun h y hy => h.inside (by rwa [hparts])
  refine ⟨fun hy hxy => ?_, fun hy hz hxy hyz => ?_, fun hy hz hxy hxz => ?_⟩
  · obtain ⟨ys, rfl, hxs⟩ := (hsame _ _).1 hxy
    exact (hsame _ _).2 ⟨xs, rfl, forall₂_same_symm hx (inside hy) hxs⟩
  · obtain ⟨ys, rfl, hxs⟩ := (hsame _ _).1 hxy
    obtain ⟨zs, rfl, hys⟩ := (hsame _ _).1 hyz
    exact (hsame _ _).2 ⟨zs, rfl, forall₂_same_trans hx (inside hy) (inside hz) hxs hys⟩
  · obtain ⟨ys, rfl, hxs⟩ := (hsame _ _).1 hxy
    obtain ⟨zs, rfl, hxs'⟩ := (hsame _ _).1 hxz
    exact (hsame _ _).2 ⟨zs, rfl, forall₂_same_eucl hx (inside hy) (inside hz) hxs hxs'⟩

end Sequences

section Entries

variable {t u : Table} {xs ys zs : List (Filed Value × Value)}

theorem WellKeyed.key (h : WellKeyed (map t xs)) {d : Filed Value × Value} (hd : d ∈ xs) :
    WellKeyed d.1.value :=
  h.inside (key_mem_parts hd)

theorem WellKeyed.value (h : WellKeyed (map t xs)) {d : Filed Value × Value} (hd : d ∈ xs) :
    WellKeyed d.2 :=
  h.inside (value_mem_parts hd)

theorem WellKeyed.entry_eq (h : WellKeyed (map t xs)) {d d' : Filed Value × Value} (hd : d ∈ xs)
    (hd' : d' ∈ xs) (hsame : d.1.value.same d'.1.value = true) : d = d' :=
  eq_of_same_key h.here hd hd' hsame

/-- Finding entries is onto: an entry that is found by two keys would make them the same. -/
theorem exists_sameEntry (hx : WellKeyed (map t xs)) (hy : WellKeyed (map u ys))
    (cx : ∀ x ∈ (map t xs).parts, Coherent x) (length : xs.length = ys.length)
    (within : entriesWithin xs ys = true) : ∀ e ∈ ys, ∃ d ∈ xs, SameEntry d e := by
  refine exists_related_of_length_le ?_ ?_ (Nat.le_of_eq length.symm)
  · -- no entry matches two of `xs`, as their keys would be the same
    refine hx.here.imp_of_mem ?_
    intro d d' hd hd' differ e he hde hde'
    exact Bool.eq_false_iff.1 ((cx _ (key_mem_parts hd)).not_same (cx _ (key_mem_parts hd'))
      (hx.key hd') (hy.key he) differ hde.1) hde'.1
  · intro d hd
    exact exists_of_entryWithin (entriesWithin_iff.1 within d hd)

theorem coherent_map (hx : WellKeyed (map t xs)) (cx : ∀ x ∈ (map t xs).parts, Coherent x) :
    Coherent (map t xs) where
  -- the comparison looks a key up and compares the first value it finds, so each law has two parts:
  -- some entry matches, and no other entry has that key
  symm hy hxy := by
    obtain ⟨u, ys, rfl, rep, length, within⟩ := same_map_iff.1 hxy
    refine same_map_iff.2 ⟨t, xs, rfl, rep.symm, length.symm, entriesWithin_iff.2 fun e he => ?_⟩
    obtain ⟨d, hd, hde⟩ := exists_sameEntry hx hy cx length within e he
    have ck := cx _ (key_mem_parts hd)
    refine entryWithin_of_unique hd
      ⟨ck.symm (hy.key he) hde.1, (cx _ (value_mem_parts hd)).symm (hy.value he) hde.2⟩ ?_
    intro d' hd' hed'
    exact (hx.entry_eq hd hd' (ck.trans (hy.key he) (hx.key hd') hde.1 hed')).symm
  trans hy hz hxy hyz := by
    obtain ⟨u, ys, rfl, rep, length, within⟩ := same_map_iff.1 hxy
    obtain ⟨w, zs, rfl, rep', length', within'⟩ := same_map_iff.1 hyz
    refine same_map_iff.2 ⟨w, zs, rfl, rep.trans rep', length.trans length',
      entriesWithin_iff.2 fun d hd => ?_⟩
    obtain ⟨e, he, hde⟩ := exists_of_entryWithin (entriesWithin_iff.1 within d hd)
    obtain ⟨f, hf, hef⟩ := exists_of_entryWithin (entriesWithin_iff.1 within' e he)
    have ck := cx _ (key_mem_parts hd)
    have hdf := ck.trans (hy.key he) (hz.key hf) hde.1 hef.1
    refine entryWithin_of_unique hf ⟨hdf, (cx _ (value_mem_parts hd)).trans (hy.value he)
      (hz.value hf) hde.2 hef.2⟩ ?_
    intro f' hf' hdf'
    exact (hz.entry_eq hf hf' (ck.eucl (hz.key hf) (hz.key hf') hdf hdf')).symm
  eucl hy hz hxy hxz := by
    obtain ⟨u, ys, rfl, rep, length, within⟩ := same_map_iff.1 hxy
    obtain ⟨w, zs, rfl, rep', length', within'⟩ := same_map_iff.1 hxz
    refine same_map_iff.2
      ⟨w, zs, rfl, rep.symm.trans rep', length.symm.trans length',
        entriesWithin_iff.2 fun e he => ?_⟩
    -- from `e` back to the entry of `xs` that it matches, and on to `zs`
    obtain ⟨d, hd, hde⟩ := exists_sameEntry hx hy cx length within e he
    obtain ⟨f, hf, hdf⟩ := exists_of_entryWithin (entriesWithin_iff.1 within' d hd)
    have ck := cx _ (key_mem_parts hd)
    refine entryWithin_of_unique hf ⟨ck.eucl (hy.key he) (hz.key hf) hde.1 hdf.1,
      (cx _ (value_mem_parts hd)).eucl (hy.value he) (hz.value hf) hde.2 hdf.2⟩ ?_
    intro f' hf' hef'
    have hdf' := ck.trans (hy.key he) (hz.key hf') hde.1 hef'
    exact (hz.entry_eq hf hf' (ck.eucl (hz.key hf) (hz.key hf') hdf.1 hdf')).symm

end Entries

section Elements

variable {t u : Table} {xs ys zs : List (Filed Value)}

theorem WellKeyed.element (h : WellKeyed (set t xs)) {x : Filed Value} (hx : x ∈ xs) :
    WellKeyed x.value :=
  h.inside (element_mem_parts hx)

theorem exists_same_element (hx : WellKeyed (set t xs)) (hy : WellKeyed (set u ys))
    (cx : ∀ x ∈ (set t xs).parts, Coherent x) (length : xs.length = ys.length)
    (within : elementsWithin xs ys = true) :
    ∀ y ∈ ys, ∃ x ∈ xs, x.value.same y.value = true := by
  refine exists_related_of_length_le ?_ (elementsWithin_iff.1 within) (Nat.le_of_eq length.symm)
  refine hx.here.imp_of_mem ?_
  intro x x' hmem hmem' differ y hymem hxy hxy'
  exact Bool.eq_false_iff.1 ((cx _ (element_mem_parts hmem)).not_same
    (cx _ (element_mem_parts hmem')) (hx.element hmem') (hy.element hymem) differ hxy) hxy'

theorem coherent_set (hx : WellKeyed (set t xs)) (cx : ∀ x ∈ (set t xs).parts, Coherent x) :
    Coherent (set t xs) where
  symm hy hxy := by
    obtain ⟨u, ys, rfl, rep, length, within⟩ := same_set_iff.1 hxy
    refine same_set_iff.2 ⟨t, xs, rfl, rep.symm, length.symm,
      elementsWithin_iff.2 fun y hymem => ?_⟩
    obtain ⟨x, hmem, hxy'⟩ := exists_same_element hx hy cx length within y hymem
    exact ⟨x, hmem, (cx _ (element_mem_parts hmem)).symm (hy.element hymem) hxy'⟩
  trans hy hz hxy hyz := by
    obtain ⟨u, ys, rfl, rep, length, within⟩ := same_set_iff.1 hxy
    obtain ⟨w, zs, rfl, rep', length', within'⟩ := same_set_iff.1 hyz
    refine same_set_iff.2 ⟨w, zs, rfl, rep.trans rep', length.trans length',
      elementsWithin_iff.2 fun x hmem => ?_⟩
    obtain ⟨y, hymem, hxy'⟩ := elementsWithin_iff.1 within x hmem
    obtain ⟨z, hzmem, hyz'⟩ := elementsWithin_iff.1 within' y hymem
    exact ⟨z, hzmem, (cx _ (element_mem_parts hmem)).trans (hy.element hymem)
      (hz.element hzmem) hxy' hyz'⟩
  eucl hy hz hxy hxz := by
    obtain ⟨u, ys, rfl, rep, length, within⟩ := same_set_iff.1 hxy
    obtain ⟨w, zs, rfl, rep', length', within'⟩ := same_set_iff.1 hxz
    refine same_set_iff.2
      ⟨w, zs, rfl, rep.symm.trans rep', length.symm.trans length',
        elementsWithin_iff.2 fun y hymem => ?_⟩
    obtain ⟨x, hmem, hxy'⟩ := exists_same_element hx hy cx length within y hymem
    obtain ⟨z, hzmem, hxz'⟩ := elementsWithin_iff.1 within' x hmem
    exact ⟨z, hzmem, (cx _ (element_mem_parts hmem)).eucl (hy.element hymem)
      (hz.element hzmem) hxy' hxz'⟩

end Elements

/-! ### Sameness is an equivalence -/

theorem WellKeyed.coherent {x : Value} (h : WellKeyed x) : Coherent x := by
  induction h with
  | @intro v here inside ih =>
    have wellKeyed : WellKeyed v := ⟨here, inside⟩
    cases v with
    | number a => exact coherent_number a
    | list xs => exact coherent_sequence (fun _ => rfl) (fun _ _ => same_list_iff) ih
    | vector rep xs => exact coherent_sequence (fun _ => rfl) (fun _ _ => same_vector_iff) ih
    | map t xs => exact coherent_map wellKeyed ih
    | set t xs => exact coherent_set wellKeyed ih
    | quoted x => exact coherent_quoted (ih x (by simp [parts]))
    -- nothing else has parts, and is the same as itself only
    | _ => exact coherent_of_same_iff_eq fun y => by cases y <;> simp [same]

theorem WellKeyed.same_refl {x : Value} (h : WellKeyed x) : x.same x = true := by
  induction h with
  | @intro v here inside ih =>
    have wellKeyed : WellKeyed v := ⟨here, inside⟩
    cases v with
    | number a => exact same_number_iff.2 ⟨a, rfl, a.same_refl⟩
    | list xs => exact same_list_iff.2 ⟨xs, rfl, List.forall₂_same.2 ih⟩
    | vector rep xs => exact same_vector_iff.2 ⟨xs, rfl, List.forall₂_same.2 ih⟩
    | map t xs =>
      refine same_map_iff.2 ⟨t, xs, rfl, rfl, rfl, entriesWithin_iff.2 fun d hd => ?_⟩
      refine entryWithin_of_unique hd ⟨ih _ (key_mem_parts hd), ih _ (value_mem_parts hd)⟩ ?_
      intro d' hd' hsame
      exact (wellKeyed.entry_eq hd hd' hsame).symm
    | set t xs =>
      refine same_set_iff.2 ⟨t, xs, rfl, rfl, rfl, elementsWithin_iff.2 fun x hx => ?_⟩
      exact ⟨x, hx, ih _ (element_mem_parts hx)⟩
    | quoted x => exact same_quoted_iff.2 ⟨x, rfl, ih x (by simp [parts])⟩
    | _ => simp [same]

theorem WellKeyed.same_symm {x y : Value} (hx : WellKeyed x) (hy : WellKeyed y)
    (h : x.same y = true) : y.same x = true :=
  hx.coherent.symm hy h

theorem WellKeyed.same_trans {x y z : Value} (hx : WellKeyed x) (hy : WellKeyed y)
    (hz : WellKeyed z) (hxy : x.same y = true) (hyz : y.same z = true) : x.same z = true :=
  hx.coherent.trans hy hz hxy hyz

theorem Differ.not_same {x y z : Value} (h : Differ x y) (hx : WellKeyed x) (hy : WellKeyed y)
    (hz : WellKeyed z) (hxz : x.same z = true) : y.same z = false :=
  hx.coherent.not_same hy.coherent hy hz h hxz

/-- Maps of one size are the same if every entry of the one has a match in the other. -/
theorem same_map_of_matched {t u : Table} {xs ys : List (Filed Value × Value)}
    (rep : t.rep = u.rep) (hx : WellKeyed (map t xs)) (hy : WellKeyed (map u ys))
    (length : xs.length = ys.length) (matched : ∀ d ∈ xs, ∃ e ∈ ys, SameEntry d e) :
    (map t xs).same (map u ys) = true := by
  refine same_map_iff.2 ⟨u, ys, rfl, rep, length, entriesWithin_iff.2 fun d hd => ?_⟩
  obtain ⟨e, he, hde⟩ := matched d hd
  refine entryWithin_of_unique he hde ?_
  intro e' he' hde'
  exact (hy.entry_eq he he' ((hx.key hd).coherent.eucl (hy.key he) (hy.key he') hde.1 hde')).symm

/-- What differs goes on to differ when it is replaced by the same. -/
theorem Differ.of_same {a a' b b' : Value} (h : Differ a b) (wa : WellKeyed a) (wa' : WellKeyed a')
    (wb : WellKeyed b) (wb' : WellKeyed b') (ha : a.same a' = true) (hb : b.same b' = true) :
    Differ a' b' := by
  have forward : ∀ {x x' y y' : Value}, WellKeyed x → WellKeyed x' → WellKeyed y → WellKeyed y' →
      x.same x' = true → y.same y' = true → x.same y = false → x'.same y' = false := by
    intro x x' y y' wx wx' wy wy' hx hy hxy
    -- otherwise `x`, `x'`, `y'` and `y` would all be the same
    by_contra hne
    have hxy' : x.same y' = true := wx.same_trans wx' wy' hx (by simpa using hne)
    have := wx.same_trans wy' wy hxy' (wy.same_symm wy' hy)
    simp [hxy] at this
  exact ⟨forward wa wa' wb wb' ha hb h.1, forward wb wb' wa wa' hb ha h.2⟩

end Value

end Lisp
