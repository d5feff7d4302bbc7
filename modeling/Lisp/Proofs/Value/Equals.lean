import Lisp.Proofs.Value.Finding
import Lisp.Proofs.Value.Layout

/-!
# Language equality is an equivalence

Language equality overlooks how sequences, maps and sets are represented, outside of quotes. So it
compares plain layouts: vectors as lists, maps and sets in one representation. What is left to show
is that plain layouts keep keys apart. They do if no two keys are equal at any depth, since keys
that are the same are equal. Quoted forms compare by key equality, which looks keys up; so the maps
and sets in them have to find their keys.

## Main definitions

* `Value.Layout.plain` — the layout that language equality sees
* `Value.QuotesFound` — keys in quoted forms are found
* `Value.Distinct` — no two keys of a map or elements of a set are equal, at any depth

## Main results

* `Value.equals_eq_same` — language equality is sameness of plain layouts
* `Value.Distinct.wellKeyed_plain` — plain layouts keep keys apart
* `Value.equals_equivalence` — language equality is an equivalence, in any order of maps and sets
-/

namespace Lisp.Value

/-- The layout that language equality sees: no vectors, one representation, quotes as they are. -/
def Layout.plain : Layout := ⟨none, .native, false⟩

section Plain

variable [Tables] {text : Entity → String} {a b v w : Value}

/-- All keys in a quoted form are found. -/
def QuoteFound (text : Entity → String) : Value → Prop
  | quoted form => Findable text form
  | _ => True

/-- All keys in the quoted forms of a value are found. -/
def QuotesFound (text : Entity → String) : Value → Prop := Everywhere (QuoteFound text)

/-! ### Language equality as sameness -/

/-- Language equality compares plain layouts, as far as one value is concerned. -/
def SeenPlain (text : Entity → String) (x : Value) : Prop :=
  ∀ y, WellKeyed y → QuotesFound text y →
    x.equals y text = (x.layOut .plain).same (y.layOut .plain)

theorem equalsAll_eq_sameAll {xs ys : List Value} (seen : ∀ x ∈ xs, SeenPlain text x)
    (hys : ∀ y ∈ ys, WellKeyed y ∧ QuotesFound text y) :
    equalsAll text xs ys = sameAll (xs.map (layOut .plain)) (ys.map (layOut .plain)) := by
  induction xs generalizing ys with
  | nil => cases ys <;> rfl
  | cons x xs ih =>
    rw [List.forall_mem_cons] at seen
    cases ys with
    | nil => rfl
    | cons y ys =>
      rw [List.forall_mem_cons] at hys
      rw [equalsAll, seen.1 y hys.1.1 hys.1.2, ih seen.2 hys.2, List.map_cons, List.map_cons,
        sameAll]

section Keyed

variable {xs ys : List (Filed Value × Value)}

theorem entryMatch_eq_entryWithin {d : Filed Value × Value} (key : SeenPlain text d.1.value)
    (value : SeenPlain text d.2)
    (keys : ∀ e ∈ ys, WellKeyed e.1.value ∧ QuotesFound text e.1.value)
    (values : ∀ e ∈ ys, WellKeyed e.2 ∧ QuotesFound text e.2) :
    entryMatch text d ys = entryWithin (layOutItem .plain d.1, d.2.layOut .plain)
      (ys.map fun e => (layOutItem .plain e.1, e.2.layOut .plain)) := by
  obtain ⟨⟨k, m⟩, v⟩ := d
  have found : (ys.find? fun e => k.equals e.1.value text) =
      ys.find? fun e => (k.layOut .plain).same (e.1.value.layOut .plain) :=
    List.find?_congr fun e he => key _ (keys e he).1 (keys e he).2
  simp only [entryMatch, entryWithin, layOutItem, List.find?_map, Function.comp_def, found]
  cases hfind : ys.find? fun e => (k.layOut .plain).same (e.1.value.layOut .plain) with
  | none => rfl
  | some e =>
    have he := values e (List.mem_of_find?_eq_some hfind)
    exact value e.2 he.1 he.2

theorem entriesMatch_eq_entriesWithin
    (seen : ∀ d ∈ xs, SeenPlain text d.1.value ∧ SeenPlain text d.2)
    (keys : ∀ e ∈ ys, WellKeyed e.1.value ∧ QuotesFound text e.1.value)
    (values : ∀ e ∈ ys, WellKeyed e.2 ∧ QuotesFound text e.2) :
    entriesMatch text xs ys =
      entriesWithin (xs.map fun e => (layOutItem .plain e.1, e.2.layOut .plain))
        (ys.map fun e => (layOutItem .plain e.1, e.2.layOut .plain)) := by
  induction xs with
  | nil => rfl
  | cons d xs ih =>
    rw [List.forall_mem_cons] at seen
    rw [entriesMatch, entryMatch_eq_entryWithin seen.1.1 seen.1.2 keys values, ih seen.2,
      List.map_cons, entriesWithin]

theorem elementsMatch_eq_elementsWithin {xs ys : List (Filed Value)}
    (seen : ∀ x ∈ xs, SeenPlain text x.value)
    (elements : ∀ y ∈ ys, WellKeyed y.value ∧ QuotesFound text y.value) :
    elementsMatch text xs ys =
      elementsWithin (xs.map (layOutItem .plain)) (ys.map (layOutItem .plain)) := by
  induction xs with
  | nil => rfl
  | cons x xs ih =>
    rw [List.forall_mem_cons] at seen
    obtain ⟨x, m⟩ := x
    simp only [elementsMatch, List.map_cons, elementsWithin, layOutItem, ih seen.2, List.any_map,
      Function.comp_def]
    congr 1
    rw [Bool.eq_iff_iff, List.any_eq_true, List.any_eq_true]
    refine exists_congr fun y => and_congr_right fun hy => ?_
    rw [seen.1 y.value (elements y hy).1 (elements y hy).2]

end Keyed

variable (text) in
/-- Where keys are found in everything the same as a value, key equality with it is sameness. -/
theorem agrees_eq_same_of_findable (wa : WellKeyed a) (wb : WellKeyed b)
    (found : a.same b = true → Findable text b) : a.agrees text b = a.same b :=
  Bool.eq_iff_iff.2 ⟨same_of_agrees wa wb, fun h => agrees_of_same wa wb (found h) h⟩

/-- Language equality is sameness of plain layouts. -/
theorem equals_eq_same (wa : WellKeyed a) (wb : WellKeyed b) (qb : QuotesFound text b) :
    a.equals b text = (a.layOut .plain).same (b.layOut .plain) := by
  induction a using induction_on_parts generalizing b with
  | step a ih =>
    have seen : ∀ x ∈ a.parts, SeenPlain text x := fun x hx y wy qy => ih x hx (wa.inside hx) wy qy
    have inside : ∀ y ∈ b.parts, WellKeyed y ∧ QuotesFound text y :=
      fun y hy => ⟨wb.inside hy, qb.inside hy⟩
    have key := agrees_eq_same_of_findable text wa wb
    cases a with
    | list xs | vector r xs =>
      -- sequences of either kind have the same plain layout
      cases b with
      | list ys | vector s ys =>
        simp only [equals, layOut_list, layOut_vector, Layout.sequence, Layout.plain, same]
        exact equalsAll_eq_sameAll seen inside
      | _ => exact key fun h => by cases h
    | map t xs =>
      cases b with
      | map u ys =>
        have entries := entriesMatch_eq_entriesWithin
          (fun d hd => ⟨seen _ (key_mem_parts hd), seen _ (value_mem_parts hd)⟩)
          (fun e he => inside _ (key_mem_parts he)) fun e he => inside _ (value_mem_parts he)
        simp only [equals, layOut_map, same, entries, List.length_map]
        rfl
      | _ => exact key fun h => by cases h
    | set t xs =>
      cases b with
      | set u ys =>
        have items := elementsMatch_eq_elementsWithin (fun x hx => seen _ (element_mem_parts hx))
          fun y hy => inside _ (element_mem_parts hy)
        simp only [equals, layOut_set, same, items, List.length_map]
        rfl
      | _ => exact key fun h => by cases h
    | quoted form =>
      cases b with
      | quoted form' => exact key fun _ => ⟨trivial, List.forall_mem_singleton.2 qb.here⟩
      | _ => exact key fun h => by cases h
    | _ =>
      cases b with
      | list _ | vector _ _ | map _ _ | set _ _ | quoted _ => exact key fun h => by cases h
      | _ => exact key fun _ => findable_leaf rfl

/-! ### Values without equal keys -/

/-- Two values that are not equal, whichever of them is asked. -/
def Unequal (text : Entity → String) (a b : Value) : Prop :=
  a.equals b text = false ∧ b.equals a text = false

/-- No two keys of a map and no two elements of a set are equal, at any depth. -/
def Distinct (text : Entity → String) : Value → Prop := Everywhere (KeysApart (Unequal text))

theorem unequal_iff (wa : WellKeyed a) (wb : WellKeyed b) (qa : QuotesFound text a)
    (qb : QuotesFound text b) :
    Unequal text a b ↔ Differ (a.layOut .plain) (b.layOut .plain) := by
  rw [Unequal, Differ, equals_eq_same wa wb qb, equals_eq_same wb wa qa]

/-- Without equal keys no keys are the same, neither as they are nor in plain layout. -/
theorem Distinct.wellKeyed_plain (h : Distinct text v) (q : QuotesFound text v) :
    WellKeyed v ∧ WellKeyed (v.layOut .plain) := by
  -- a plain layout keeps what is the same only if its keys differ, so both are proved together
  induction h with
  | @intro v here inside ih =>
    have inner : ∀ w ∈ v.parts, WellKeyed w ∧ WellKeyed (w.layOut .plain) :=
      fun w hw => ih w hw (q.inside hw)
    have apart : KeysApart (fun j k => Differ (j.layOut .plain) (k.layOut .plain)) v :=
      here.imp fun j hj k hk =>
        (unequal_iff (inner j hj).1 (inner k hk).1 (q.inside hj) (q.inside hk)).1
    have differ : KeysApart Differ v := by
      refine apart.imp fun j hj k hk hplain => ?_
      have same : ∀ {j k : Value}, j ∈ v.parts → k ∈ v.parts →
          (j.layOut .plain).same (k.layOut .plain) = false → j.same k = false := by
        intro j k hj hk hplain
        by_contra hjk
        rw [same_layOut (inner j hj).2 (inner k hk).2 (by simpa using hjk)] at hplain
        cases hplain
      exact ⟨same hj hk hplain.1, same hk hj hplain.2⟩
    exact ⟨⟨keysApart_differ_iff.1 differ, fun w hw => (inner w hw).1⟩,
      wellKeyed_layOut_of_parts inner (keysDiffer_layOut_iff.2 apart)⟩

/-- Values that language equality is meant for: without equal keys, and with keys in quoted forms
that are found. -/
structure Comparable (text : Entity → String) (v : Value) : Prop where
  distinct : Distinct text v
  quotes : QuotesFound text v

namespace Comparable

theorem wellKeyed (h : Comparable text v) : WellKeyed v :=
  (h.distinct.wellKeyed_plain h.quotes).1

theorem plain (h : Comparable text v) : WellKeyed (v.layOut .plain) :=
  (h.distinct.wellKeyed_plain h.quotes).2

theorem equals_refl (h : Comparable text v) : v.equals v text = true := by
  rw [equals_eq_same h.wellKeyed h.wellKeyed h.quotes]
  exact h.plain.same_refl

theorem equals_symm (ha : Comparable text a) (hb : Comparable text b)
    (h : a.equals b text = true) : b.equals a text = true := by
  rw [equals_eq_same ha.wellKeyed hb.wellKeyed hb.quotes] at h
  rw [equals_eq_same hb.wellKeyed ha.wellKeyed ha.quotes]
  exact ha.plain.same_symm hb.plain h

theorem equals_trans {c : Value} (ha : Comparable text a) (hb : Comparable text b)
    (hc : Comparable text c) (hab : a.equals b text = true) (hbc : b.equals c text = true) :
    a.equals c text = true := by
  rw [equals_eq_same ha.wellKeyed hb.wellKeyed hb.quotes] at hab
  rw [equals_eq_same hb.wellKeyed hc.wellKeyed hc.quotes] at hbc
  rw [equals_eq_same ha.wellKeyed hc.wellKeyed hc.quotes]
  exact ha.plain.same_trans hb.plain hc.plain hab hbc

end Comparable

theorem Distinct.reordered (hv : Distinct text v) (qv : QuotesFound text v)
    (qw : QuotesFound text w) (h : Reordered v w) : Distinct text w := by
  induction hv generalizing w with
  | @intro v here inside ih =>
    have wv := (Distinct.wellKeyed_plain ⟨here, inside⟩ qv)
    have plain := wv.2.reordered h.layOut
    have ww := (wv.1.reordered h).1
    refine ⟨(keysDiffer_layOut_iff.1 plain.1.here).imp fun j hj k hk => ?_, ?_⟩
    · exact (unequal_iff (ww.inside hj) (ww.inside hk) (qw.inside hj) (qw.inside hk)).2
    · intro x hx
      obtain ⟨y, hy, hyx⟩ := h.exists_part hx
      exact ih y hy (qv.inside hy) (qw.inside hx) hyx

theorem Comparable.reordered (hv : Comparable text v) (qw : QuotesFound text w)
    (h : Reordered v w) : Comparable text w ∧ v.equals w text = true := by
  refine ⟨⟨hv.distinct.reordered hv.quotes qw h, qw⟩, ?_⟩
  rw [equals_eq_same hv.wellKeyed (hv.wellKeyed.reordered h).1 qw]
  exact (hv.plain.reordered h.layOut).2

end Plain

end Lisp.Value
