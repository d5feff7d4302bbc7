import Lisp.Library.Procedure
import Lisp.Proofs.Value.Equals

/-!
# What agrees is equal

Language equality is meant to be coarser than key equality: it overlooks how things are represented
and looks at the rest alike. It respects sameness on its left: of two values that are the same, as
those are that agree, it says the same. So it affirms that they are equal as soon as it affirms that
of one of them and itself. That it need not do. Keys are told apart by key equality, so a map can
have two keys that are equal, such as a list and a vector; of these, language equality only looks at
the first, and what stands under the other may be something else.

## Main definitions

* `Value.EntriesAgree` — equal keys of a map stand for equal values

## Main results

* `Value.equals_congr_left` — language equality respects sameness
* `Value.equals_of_same` — values that agree are equal, if one of them is equal to itself
* `Value.same_but_unequal` — a value that is not
-/

namespace Lisp.Value

section Coarser

variable [Tables] {text : Entity → String} {a b y : Value}

/-! ### What language equality looks at -/

/-- Sequences are compared by their elements, whatever their kind. -/
theorem equals_of_sequence? {xs : List Value} (h : a.sequence? = some xs) (y : Value) :
    a.equals y text = y.sequence?.any (equalsAll text xs) := by
  cases a with
  | list items | vector _ items =>
    cases h
    cases y <;> simp [equals, agrees, sequence?, Tables.shared_eq_false]
  | _ => cases h

theorem entriesMatch_iff {xs ys : List (Filed Value × Value)} :
    entriesMatch text xs ys = true ↔ ∀ d ∈ xs, entryMatch text d ys = true := by
  induction xs with
  | nil => simp [entriesMatch]
  | cons d xs ih => simp [entriesMatch, ih]

theorem elementsMatch_iff {xs ys : List (Filed Value)} :
    elementsMatch text xs ys = true ↔ ∀ x ∈ xs, ∃ y ∈ ys, x.value.equals y.value text = true := by
  induction xs with
  | nil => simp [elementsMatch]
  | cons x xs ih => simp [elementsMatch, ih]

/-- An entry is matched by the first one with an equal key. -/
theorem entryMatch_eq (d : Filed Value × Value) (ys : List (Filed Value × Value)) :
    entryMatch text d ys =
      (ys.find? fun e => d.1.value.equals e.1.value text).any fun e => d.2.equals e.2 text := by
  obtain ⟨⟨k, m⟩, v⟩ := d
  simp only [entryMatch]
  cases ys.find? fun e => k.equals e.1.value text with
  | none => rfl
  | some e => rfl

/-! ### Language equality respects sameness -/

/-- Values with keys that differ, and with keys in quoted forms that are found. -/
def Plain (text : Entity → String) (y : Value) : Prop := WellKeyed y ∧ QuotesFound text y

theorem Plain.inside {w : Value} (h : Plain text y) (hw : w ∈ y.parts) : Plain text w :=
  ⟨Everywhere.inside h.1 hw, h.2.inside hw⟩

/-- Two values of which language equality says the same, whatever they are compared with. -/
def Interchangeable (text : Entity → String) (a b : Value) : Prop :=
  ∀ y, Plain text y → a.equals y text = b.equals y text

theorem Interchangeable.symm (h : Interchangeable text a b) : Interchangeable text b a :=
  fun y hy => (h y hy).symm

theorem equalsAll_congr_left {xs ys zs : List Value}
    (h : List.Forall₂ (Interchangeable text) xs ys) (hz : ∀ z ∈ zs, Plain text z) :
    equalsAll text xs zs = equalsAll text ys zs := by
  induction h generalizing zs with
  | nil => rfl
  | cons hxy _ ih =>
    cases zs with
    | nil => rfl
    | cons z zs =>
      rw [List.forall_mem_cons] at hz
      rw [equalsAll, equalsAll, hxy z hz.1, ih hz.2]

/-- Sequences of interchangeable elements are interchangeable. -/
theorem interchangeable_of_sequence? {xs ys : List Value} (ha : a.sequence? = some xs)
    (hb : b.sequence? = some ys) (h : List.Forall₂ (Interchangeable text) xs ys) :
    Interchangeable text a b := by
  intro y hy
  rw [equals_of_sequence? ha, equals_of_sequence? hb]
  cases hseq : y.sequence? with
  | none => rfl
  | some zs =>
    refine equalsAll_congr_left h fun z hz => hy.inside ?_
    cases y with
    | list items | vector rep items =>
      cases hseq
      exact hz
    | _ => cases hseq

section Keyed

variable {t u : Table}

/-- Entries whose keys and values are interchangeable. -/
abbrev Partners (text : Entity → String) (d e : Filed Value × Value) : Prop :=
  Interchangeable text d.1.value e.1.value ∧ Interchangeable text d.2 e.2

/-- Entries whose keys are interchangeable find the same entry. -/
theorem entryMatch_congr_left {d e : Filed Value × Value} {zs : List (Filed Value × Value)}
    (hz : Plain text (map t zs)) (hde : Partners text d e) :
    entryMatch text d zs = entryMatch text e zs := by
  have found : (zs.find? fun z => d.1.value.equals z.1.value text) =
      zs.find? fun z => e.1.value.equals z.1.value text :=
    List.find?_congr fun z hmem => hde.1 _ (hz.inside (key_mem_parts hmem))
  rw [entryMatch_eq, entryMatch_eq, found]
  cases hfind : zs.find? fun z => e.1.value.equals z.1.value text with
  | none => rfl
  | some z => exact hde.2 z.2 (hz.inside (value_mem_parts (List.mem_of_find?_eq_some hfind)))

/-- Entries are matched if each is interchangeable with one that is. -/
theorem entriesMatch_of_partners {xs ys zs : List (Filed Value × Value)}
    (hz : Plain text (map t zs)) (partner : ∀ e ∈ ys, ∃ d ∈ xs, Partners text d e)
    (h : entriesMatch text xs zs = true) : entriesMatch text ys zs = true := by
  rw [entriesMatch_iff] at h ⊢
  intro e he
  obtain ⟨d, hd, hde⟩ := partner e he
  rw [← entryMatch_congr_left hz hde]
  exact h d hd

theorem elementsMatch_of_partners {xs ys zs : List (Filed Value)}
    (hz : Plain text (set t zs))
    (partner : ∀ y ∈ ys, ∃ x ∈ xs, Interchangeable text x.value y.value)
    (h : elementsMatch text xs zs = true) : elementsMatch text ys zs = true := by
  rw [elementsMatch_iff] at h ⊢
  intro y hy
  obtain ⟨x, hx, hxy⟩ := partner y hy
  obtain ⟨z, hz', hxz⟩ := h x hx
  exact ⟨z, hz', (hxy _ (hz.inside (element_mem_parts hz'))).symm.trans hxz⟩

/-- Maps whose entries are partners, each way, are interchangeable. -/
theorem interchangeable_map {xs ys : List (Filed Value × Value)} (length : xs.length = ys.length)
    (forth : ∀ e ∈ ys, ∃ d ∈ xs, Partners text d e)
    (back : ∀ d ∈ xs, ∃ e ∈ ys, Partners text e d) :
    Interchangeable text (map t xs) (map u ys) := by
  intro z hz
  cases z with
  | map w zs =>
    rw [equals, equals, length, Bool.eq_iff_iff, Bool.and_eq_true, Bool.and_eq_true]
    exact and_congr_right fun _ =>
      ⟨entriesMatch_of_partners hz forth, entriesMatch_of_partners hz back⟩
  | _ => simp [equals, agrees, Tables.shared_eq_false]

theorem interchangeable_set {xs ys : List (Filed Value)} (length : xs.length = ys.length)
    (forth : ∀ y ∈ ys, ∃ x ∈ xs, Interchangeable text x.value y.value)
    (back : ∀ x ∈ xs, ∃ y ∈ ys, Interchangeable text y.value x.value) :
    Interchangeable text (set t xs) (set u ys) := by
  intro z hz
  cases z with
  | set w zs =>
    rw [equals, equals, length, Bool.eq_iff_iff, Bool.and_eq_true, Bool.and_eq_true]
    exact and_congr_right fun _ =>
      ⟨elementsMatch_of_partners hz forth, elementsMatch_of_partners hz back⟩
  | _ => simp [equals, agrees, Tables.shared_eq_false]

end Keyed

/-- What language equality compares by key equality is interchangeable if it is the same. -/
theorem interchangeable_of_same (wa : WellKeyed a) (wb : WellKeyed b) (h : a.same b = true)
    (ha : ∀ y, Plain text y → a.equals y text = a.same y)
    (hb : ∀ y, Plain text y → b.equals y text = b.same y) : Interchangeable text a b := by
  intro y hy
  rw [ha y hy, hb y hy, Bool.eq_iff_iff]
  exact ⟨wa.coherent.eucl wb hy.1 h, wa.same_trans wb hy.1 h⟩

theorem equals_quoted (wa : WellKeyed (quoted a)) (hy : Plain text y) :
    (quoted a).equals y text = (quoted a).same y := by
  have key := agrees_eq_same_of_findable text wa hy.1
  cases y with
  | quoted form => exact key fun _ => ⟨trivial, List.forall_mem_singleton.2 hy.2.here⟩
  | _ => exact key fun h => by cases h

/-- Atoms are equal to what they are the same as. -/
theorem equals_atom (atom : ∀ y, a.equals y text = a.agrees text y)
    (only : ∀ {y}, a.same y = true → y.parts = []) (wa : WellKeyed a) (hy : Plain text y) :
    a.equals y text = a.same y := by
  rw [atom]
  exact agrees_eq_same_of_findable text wa hy.1 fun h => findable_leaf (only h)

/-- Of values that are the same, language equality says the same. -/
theorem equals_congr_left (wa : WellKeyed a) (wb : WellKeyed b) (h : a.same b = true) :
    Interchangeable text a b := by
  induction a using induction_on_parts generalizing b with
  | step a ih =>
    cases alike_of_same h with
    | list hs | vector hs =>
      refine interchangeable_of_sequence? rfl rfl (forall₂_of_mem ?_ hs)
      exact fun x hx y hy => ih x hx (wa.inside hx) (wb.inside hy)
    | @map t u xs ys _ length within =>
      -- the entries of the two maps are partners, each way
      have forth : ∀ e ∈ ys, ∃ d ∈ xs, Partners text d e := by
        intro e he
        obtain ⟨d, hd, hde⟩ := exists_sameEntry wa wb
          (fun x hx => WellKeyed.coherent (wa.inside hx)) length within e he
        exact ⟨d, hd, ih _ (key_mem_parts hd) (wa.key hd) (wb.key he) hde.1,
          ih _ (value_mem_parts hd) (wa.value hd) (wb.value he) hde.2⟩
      have back : ∀ d ∈ xs, ∃ e ∈ ys, Partners text e d := by
        intro d hd
        obtain ⟨e, he, hde⟩ := exists_of_entryWithin (entriesWithin_iff.1 within d hd)
        exact ⟨e, he, (ih _ (key_mem_parts hd) (wa.key hd) (wb.key he) hde.1).symm,
          (ih _ (value_mem_parts hd) (wa.value hd) (wb.value he) hde.2).symm⟩
      exact interchangeable_map length forth back
    | @set t u xs ys _ length within =>
      have forth : ∀ y ∈ ys, ∃ x ∈ xs, Interchangeable text x.value y.value := by
        intro y hy
        obtain ⟨x, hx, hxy⟩ := exists_same_element wa wb
          (fun x hx => WellKeyed.coherent (wa.inside hx)) length within y hy
        exact ⟨x, hx, ih _ (element_mem_parts hx) (wa.element hx) (wb.element hy) hxy⟩
      have back : ∀ x ∈ xs, ∃ y ∈ ys, Interchangeable text y.value x.value := by
        intro x hx
        obtain ⟨y, hy, hxy⟩ := elementsWithin_iff.1 within x hx
        exact ⟨y, hy, (ih _ (element_mem_parts hx) (wa.element hx) (wb.element hy) hxy).symm⟩
      exact interchangeable_set length forth back
    | quoted =>
      exact interchangeable_of_same wa wb h (fun y => equals_quoted wa) fun y => equals_quoted wb
    | _ =>
      refine interchangeable_of_same wa wb h (fun y => equals_atom ?_ ?_ wa)
        fun y => equals_atom ?_ ?_ wb
      all_goals intro y
      all_goals cases y <;> simp [equals, same, parts]

/-! ### Values that are equal to themselves -/

/-- What stands under equal keys of a map is equal. -/
def EntriesAgree (text : Entity → String) : Value → Prop
  | map _ entries => ∀ d ∈ entries, ∀ e ∈ entries,
    d.1.value.equals e.1.value text = true → d.2.equals e.2 text = true
  | _ => True

theorem equalsAll_self {xs : List Value} (h : ∀ x ∈ xs, x.equals x text = true) :
    equalsAll text xs xs = true := by
  induction xs with
  | nil => rfl
  | cons x xs ih =>
    rw [List.forall_mem_cons] at h
    rw [equalsAll, h.1, ih h.2, Bool.and_self]

/-- A value whose maps have equal values under equal keys, at any depth, is equal to itself. -/
theorem equals_self (hb : Plain text b) (agree : Everywhere (EntriesAgree text) b) :
    b.equals b text = true := by
  induction b using induction_on_parts with
  | step b ih =>
    have inside : ∀ w ∈ b.parts, w.equals w text = true :=
      fun w hw => ih w hw (hb.inside hw) (agree.inside hw)
    cases b with
    | list xs | vector rep xs => exact equalsAll_self inside
    | map t xs =>
      rw [equals, beq_self_eq_true, Bool.true_and, entriesMatch_iff]
      intro d hd
      rw [entryMatch_eq]
      -- the key finds an equal one, if not itself, and what stands there is equal
      cases hfind : xs.find? fun e => d.1.value.equals e.1.value text with
      | none =>
        have := List.find?_eq_none.1 hfind d hd
        exact absurd (inside _ (key_mem_parts hd)) this
      | some e =>
        have hkey : d.1.value.equals e.1.value text = true := by simpa using List.find?_some hfind
        exact agree.here d hd e (List.mem_of_find?_eq_some hfind) hkey
    | set t xs =>
      rw [equals, beq_self_eq_true, Bool.true_and, elementsMatch_iff]
      exact fun x hx => ⟨x, hx, inside _ (element_mem_parts hx)⟩
    | quoted form => exact (equals_quoted hb.1 hb).trans (WellKeyed.same_refl hb.1)
    | _ => exact agrees_of_same hb.1 hb.1 (findable_leaf rfl) (WellKeyed.same_refl hb.1)

/-- What agrees is the same; and of two values that are the same, language equality says what it
says of the second and itself: that they are equal, if in no map, at any depth, equal keys stand for
values that are not. -/
theorem equals_of_same (wa : WellKeyed a) (wb : WellKeyed b) (qb : QuotesFound text b) :
    (a.agrees text b = true → a.same b = true) ∧
    (a.same b = true → a.equals b text = b.equals b text ∧
      (Everywhere (EntriesAgree text) b → a.equals b text = true ∧
        ∀ (heap : Heap) mode, heap.text = text →
          Library.compute heap mode .equal [a, b] = .ok (.bool true))) := by
  refine ⟨same_of_agrees wa wb, fun h => ?_⟩
  have left : a.equals b text = b.equals b text := equals_congr_left wa wb h b ⟨wb, qb⟩
  refine ⟨left, fun agree => ?_⟩
  have equal : a.equals b text = true := left.trans (equals_self ⟨wb, qb⟩ agree)
  refine ⟨equal, fun heap mode htext => ?_⟩
  rw [Library.compute, Library.chain, Library.chain, htext, equal]
  · rfl
  · simp

end Coarser

/-- A list and a vector as keys, for one value and in two orders. -/
theorem equals_of_same_mixed :
    let a := map ⟨.native, 3⟩ [((list []).file Entity.untold, kw "a"),
      ((vector .native []).file Entity.untold, kw "a")]
    let b := map ⟨.native, 3⟩ [((vector .native []).file Entity.untold, kw "a"),
      ((list []).file Entity.untold, kw "a")]
    WellKeyed a ∧ WellKeyed b ∧ a.agrees Entity.untold b = true ∧ a.equals b = true := by
  intro a b
  have wa : WellKeyed a := everywhere_pair (List.pairwise_pair.2 ⟨by decide, by decide⟩)
    (.leaf trivial rfl) (.leaf trivial rfl) (.leaf trivial rfl) (.leaf trivial rfl)
  have wb : WellKeyed b := everywhere_pair (List.pairwise_pair.2 ⟨by decide, by decide⟩)
    (.leaf trivial rfl) (.leaf trivial rfl) (.leaf trivial rfl) (.leaf trivial rfl)
  have qb : QuotesFound Entity.untold b := everywhere_pair trivial (.leaf trivial rfl)
    (.leaf trivial rfl) (.leaf trivial rfl) (.leaf trivial rfl)
  have agree : Everywhere (EntriesAgree Entity.untold) b := by
    refine everywhere_pair ?_ (.leaf trivial rfl) (.leaf trivial rfl) (.leaf trivial rfl)
      (.leaf trivial rfl)
    simp only [EntriesAgree, List.forall_mem_cons]
    decide
  obtain ⟨same, equal⟩ := equals_of_same wa wb qb
  have agrees : a.agrees Entity.untold b = true := by decide
  exact ⟨wa, wb, agrees, ((equal (same agrees)).2 agree).1⟩

/-- With a list and a vector as keys for two values, a map agrees with itself but is not equal to
itself: under the vector, equality finds the list. -/
theorem same_but_unequal :
    let x := map ⟨.native, 3⟩ [((list []).file Entity.untold, kw "a"),
      ((vector .native []).file Entity.untold, kw "b")]
    WellKeyed x ∧ x.agrees Entity.untold x = true ∧ x.equals x = false :=
  ⟨everywhere_pair (List.pairwise_pair.2 ⟨by decide, by decide⟩) (.leaf trivial rfl)
    (.leaf trivial rfl) (.leaf trivial rfl) (.leaf trivial rfl), by decide, by decide⟩

end Lisp.Value
