import Lisp.Proofs.Value.Same
import Lisp.Value.Keyed
import Mathlib.Data.List.Find

/-!
# Keys that are found

Key equality looks every entry of a map up in the other one, so it can deny what is the same, but it
never affirms what is not. Where all keys are found by what is the same as they, it comes to
sameness. A key that goes in is found as long as the table comes past it for everything the same as
it; then it can be filed anew at any time and goes on to be found.

## Main definitions

* `Filed.Found` — a key that is found by everything the same as it
* `Value.Findable` — all keys in a value are found, at any depth
* `Value.Steady` — everything the same as a value is filed alike, as far as tables can tell
* `Value.Reliable`, `Filed.Reliable` — values that serve as keys, and keys that are found
* `Tables.Exhaustive` — tables are finite maps keyed by key equality

## Main results

* `Value.same_of_agrees` — what agrees is the same
* `Value.agrees_eq_same` — where keys are found, key equality is sameness
* `Filed.Reliable.answers_eq` — where keys are found, look-up goes by sameness
* `Value.Steady.of_same` — what is the same as a value filed alike is filed alike
-/

namespace Lisp

variable [Tables] {text : Entity → String}

/-- A key that is found by everything the same as it, whatever becomes of its table. -/
def Filed.Found (text : Entity → String) (f : Filed Value) : Prop :=
  ∀ t (k : Value), k.WellKeyed → k.same f.value = true → Tables.meets t f.mark (k.mark text) = true

/-- Different values are not one in memory. -/
theorem Tables.shared_eq_false {v w : Value} (h : v ≠ w) : Tables.shared v w = false := by
  by_contra hne
  exact h (Tables.eq_of_shared v w (by simpa using hne))

namespace Value

/-- The keys of a map or the elements of a set are found. -/
def KeysFound (text : Entity → String) : Value → Prop
  | map _ entries => ∀ e ∈ entries, e.1.Found text
  | set _ items => ∀ x ∈ items, x.Found text
  | _ => True

/-- The keys of maps and the elements of sets are found, at any depth. -/
def Findable (text : Entity → String) : Value → Prop := Everywhere (KeysFound text)

variable {v w k : Value} {t u : Table}

theorem findable_leaf (leaf : v.parts = []) : Findable text v := by
  refine .leaf ?_ leaf
  cases v with
  | map t entries => exact eq_nil_of_parts_map leaf ▸ List.forall_mem_nil _
  | set t items => exact eq_nil_of_parts_set leaf ▸ List.forall_mem_nil _
  | _ => trivial

/-! ### Key equality by the shape of values -/

theorem agrees_eq_or (v w : Value) :
    v.agrees text w = true ↔ Tables.shared v w = true ∨
      match v, w with
      | nil, nil => True
      | bool a, bool b => a = b
      | number a, number b => a.same b = true
      | string a, string b => a = b
      | symbol a, symbol b => a = b
      | keyword a, keyword b => a = b
      | list xs, list ys => agreesAll text xs ys = true
      | vector r xs, vector s ys => r = s ∧ agreesAll text xs ys = true
      | map t xs, map u ys => t.rep = u.rep ∧ xs.length = ys.length ∧
          entriesFound text xs u ys = true
      | set t xs, set u ys => t.rep = u.rep ∧ xs.length = ys.length ∧
          elementsFound text xs u ys = true
      | quoted a, quoted b => a.agrees text b = true
      | regex a, regex b => a = b
      | entity a, entity b => a = b
      | _, _ => False := by
  cases v <;> cases w <;> simp [agrees, and_assoc]

theorem agreesAll_iff {xs ys : List Value} :
    agreesAll text xs ys = true ↔ List.Forall₂ (fun x y => x.agrees text y = true) xs ys := by
  induction xs generalizing ys with
  | nil => cases ys <;> simp [agreesAll]
  | cons x xs ih => cases ys <;> simp [agreesAll, ih]

theorem agrees_list {xs ys : List Value}
    (h : List.Forall₂ (fun x y => x.agrees text y = true) xs ys) :
    (list xs).agrees text (list ys) = true :=
  (agrees_eq_or _ _).2 (.inr (agreesAll_iff.2 h))

theorem agrees_vector {rep : Representation} {xs ys : List Value}
    (h : List.Forall₂ (fun x y => x.agrees text y = true) xs ys) :
    (vector rep xs).agrees text (vector rep ys) = true :=
  (agrees_eq_or _ _).2 (.inr ⟨rfl, agreesAll_iff.2 h⟩)

theorem agrees_quoted (h : v.agrees text w = true) :
    (quoted v).agrees text (quoted w) = true :=
  (agrees_eq_or _ _).2 (.inr h)

theorem entriesFound_iff {xs ys : List (Filed Value × Value)} :
    entriesFound text xs u ys = true ↔ ∀ d ∈ xs, entryFound text d u ys = true := by
  induction xs with
  | nil => simp [entriesFound]
  | cons d xs ih => simp [entriesFound, ih]

theorem elementsFound_iff {xs ys : List (Filed Value)} :
    elementsFound text xs u ys = true ↔
      ∀ x ∈ xs, ∃ y ∈ ys, y.answers text u x.value = true := by
  induction xs with
  | nil => simp [elementsFound]
  | cons x xs ih => simp [elementsFound, ih, Filed.answers]

/-- An entry is found by looking its key up. -/
theorem entryFound_eq (d : Filed Value × Value) (ys : List (Filed Value × Value)) :
    entryFound text d u ys =
      ((Shelf.mk u ys).find? text d.1.value).any fun w => d.2.agrees text w := by
  obtain ⟨⟨k, m⟩, v⟩ := d
  simp only [entryFound, Shelf.find?, Filed.answers]
  cases ys.find? fun e => Tables.meets u e.1.mark (k.mark text) && k.agrees text e.1.value with
  | none => rfl
  | some e => rfl

theorem exists_of_entryFound {d : Filed Value × Value} {ys : List (Filed Value × Value)}
    (h : entryFound text d u ys = true) :
    ∃ e ∈ ys, e.1.answers text u d.1.value = true ∧ d.2.agrees text e.2 = true := by
  rw [entryFound_eq, Shelf.find?, Option.any_map] at h
  obtain ⟨e, he, hvalue⟩ := (Option.any_eq_true _ _).1 h
  have answers := List.find?_some he
  exact ⟨e, List.mem_of_find?_eq_some he, answers, hvalue⟩

theorem agrees_of_answers {f : Filed Value} (h : f.answers text t k = true) :
    k.agrees text f.value = true :=
  (Bool.and_eq_true_iff.1 h).2

/-! ### Key equality and sameness -/

/-- What agrees is the same. -/
theorem same_of_agrees (wv : WellKeyed v) (ww : WellKeyed w) (h : v.agrees text w = true) :
    v.same w = true := by
  induction v using induction_on_parts generalizing w with
  | step v ih =>
    rw [agrees_eq_or] at h
    obtain shared | h := h
    · -- one value in memory
      obtain rfl := Tables.eq_of_shared v w shared
      exact wv.same_refl
    · split at h
      · rfl
      · exact beq_iff_eq.2 h
      · exact h
      · exact beq_iff_eq.2 h
      · exact beq_iff_eq.2 h
      · exact beq_iff_eq.2 h
      · next xs ys =>
        refine same_list_iff.2 ⟨ys, rfl, forall₂_of_mem (fun x hx y hy => ?_) (agreesAll_iff.1 h)⟩
        exact ih x hx (wv.inside hx) (ww.inside hy)
      · next r xs s ys =>
        obtain ⟨rfl, h⟩ := h
        refine same_vector_iff.2
          ⟨ys, rfl, forall₂_of_mem (fun x hx y hy => ?_) (agreesAll_iff.1 h)⟩
        exact ih x hx (wv.inside hx) (ww.inside hy)
      · next t xs u ys =>
        obtain ⟨rep, length, found⟩ := h
        refine same_map_of_matched rep wv ww length fun d hd => ?_
        obtain ⟨e, he, hkey, hvalue⟩ := exists_of_entryFound (entriesFound_iff.1 found d hd)
        exact ⟨e, he, ih _ (key_mem_parts hd) (wv.key hd) (ww.key he) (agrees_of_answers hkey),
          ih _ (value_mem_parts hd) (wv.value hd) (ww.value he) hvalue⟩
      · next t xs u ys =>
        obtain ⟨rep, length, found⟩ := h
        refine same_set_iff.2 ⟨u, ys, rfl, rep, length, elementsWithin_iff.2 fun x hx => ?_⟩
        obtain ⟨y, hy, hxy⟩ := elementsFound_iff.1 found x hx
        exact ⟨y, hy, ih _ (element_mem_parts hx) (wv.element hx) (ww.element hy)
          (agrees_of_answers hxy)⟩
      · next a b =>
        exact same_quoted_iff.2 ⟨b, rfl, ih a (by simp [parts]) (wv.inside (by simp [parts]))
          (ww.inside (by simp [parts])) h⟩
      · exact beq_iff_eq.2 h
      · exact beq_iff_eq.2 h
      · exact h.elim

/-- Maps agree if every entry of the one answers to an entry of the other. -/
theorem agrees_map_of_matched {xs ys : List (Filed Value × Value)} (wx : WellKeyed (map t xs))
    (wy : WellKeyed (map u ys)) (rep : t.rep = u.rep) (length : xs.length = ys.length)
    (matched : ∀ d ∈ xs, ∃ e ∈ ys, e.1.answers text u d.1.value = true ∧
      d.2.agrees text e.2 = true) : (map t xs).agrees text (map u ys) = true := by
  refine (agrees_eq_or _ _).2 (.inr ⟨rep, length, entriesFound_iff.2 fun d hd => ?_⟩)
  obtain ⟨e, he, hkey, hvalue⟩ := matched d hd
  have same {e : Filed Value × Value} (he : e ∈ ys) (h : e.1.answers text u d.1.value = true) :
      d.1.value.same e.1.value = true :=
    same_of_agrees (wx.key hd) (wy.key he) (agrees_of_answers h)
  rw [entryFound_eq, Shelf.find?]
  cases hfind : ys.find? fun e => e.1.answers text u d.1.value with
  | none => exact absurd hkey (List.find?_eq_none.1 hfind e he)
  | some e' =>
    -- no other entry of the other map has this key
    have he' := List.mem_of_find?_eq_some hfind
    have hkey' : e'.1.answers text u d.1.value = true := by simpa using List.find?_some hfind
    obtain rfl := wy.entry_eq he he' ((wx.key hd).coherent.eucl (wy.key he) (wy.key he')
      (same he hkey) (same he' hkey'))
    exact hvalue

theorem agrees_set_of_matched {xs ys : List (Filed Value)} (rep : t.rep = u.rep)
    (length : xs.length = ys.length)
    (matched : ∀ x ∈ xs, ∃ y ∈ ys, y.answers text u x.value = true) :
    (set t xs).agrees text (set u ys) = true :=
  (agrees_eq_or _ _).2 (.inr ⟨rep, length, elementsFound_iff.2 matched⟩)

/-- What is the same agrees, if all keys on the right are found. -/
theorem agrees_of_same (wv : WellKeyed v) (ww : WellKeyed w) (fw : Findable text w)
    (h : v.same w = true) : v.agrees text w = true := by
  induction v using induction_on_parts generalizing w with
  | step v ih =>
    cases alike_of_same h with
    | list hs =>
      refine agrees_list (forall₂_of_mem (fun x hx y hy => ?_) hs)
      exact ih x hx (wv.inside hx) (ww.inside hy) (fw.inside hy)
    | vector hs =>
      refine agrees_vector (forall₂_of_mem (fun x hx y hy => ?_) hs)
      exact ih x hx (wv.inside hx) (ww.inside hy) (fw.inside hy)
    | @map t u xs ys rep length within =>
      -- the entry that is the same is found, as the right map has it filed so that it is
      refine agrees_map_of_matched wv ww rep length fun d hd => ?_
      obtain ⟨e, he, hkey, hvalue⟩ := exists_of_entryWithin (entriesWithin_iff.1 within d hd)
      refine ⟨e, he, Bool.and_eq_true_iff.2 ⟨fw.here e he u _ (wv.key hd) hkey, ?_⟩, ?_⟩
      · exact ih _ (key_mem_parts hd) (wv.key hd) (ww.key he) (fw.inside (key_mem_parts he)) hkey
      · exact ih _ (value_mem_parts hd) (wv.value hd) (ww.value he)
          (fw.inside (value_mem_parts he)) hvalue
    | @set t u xs ys rep length within =>
      refine agrees_set_of_matched rep length fun x hx => ?_
      obtain ⟨y, hy, hxy⟩ := elementsWithin_iff.1 within x hx
      refine ⟨y, hy, Bool.and_eq_true_iff.2 ⟨fw.here y hy u _ (wv.element hx) hxy, ?_⟩⟩
      exact ih _ (element_mem_parts hx) (wv.element hx) (ww.element hy)
        (fw.inside (element_mem_parts hy)) hxy
    | quoted h =>
      exact agrees_quoted (ih _ (by simp [parts]) (wv.inside (by simp [parts]))
        (ww.inside (by simp [parts])) (fw.inside (by simp [parts])) h)
    | number h => exact (agrees_eq_or _ _).2 (.inr h)
    | nil => exact (agrees_eq_or _ _).2 (.inr trivial)
    | bool | string | symbol | keyword | regex | entity => exact (agrees_eq_or _ _).2 (.inr rfl)

/-- Where keys are found, key equality is sameness. -/
theorem agrees_eq_same (wv : WellKeyed v) (ww : WellKeyed w) (fw : Findable text w) :
    v.agrees text w = v.same w :=
  Bool.eq_iff_iff.2 ⟨same_of_agrees wv ww, agrees_of_same wv ww fw⟩

/-! ### Values that serve as keys -/

/-- Everything the same as a value is filed alike, as far as tables can tell. -/
def Steady (text : Entity → String) (v : Value) : Prop :=
  ∀ t a b, WellKeyed a → WellKeyed b → v.same a = true → v.same b = true →
    Tables.meets t (a.mark text) (b.mark text) = true

/-- A value that serves as a key: it is the same as itself, all keys in it are found, and everything
the same as it is filed alike. -/
structure Reliable (text : Entity → String) (v : Value) : Prop where
  wellKeyed : WellKeyed v
  findable : Findable text v
  steady : Steady text v

theorem Steady.of_same (h : Steady text v) (wv : WellKeyed v) (ww : WellKeyed w)
    (hvw : v.same w = true) : Steady text w :=
  fun t _ _ wa wb ha hb =>
    h t _ _ wa wb (wv.same_trans ww wa hvw ha) (wv.same_trans ww wb hvw hb)

end Value

/-! ### Tables that miss no key -/

/-- Tables are finite maps keyed by key equality: every look-up comes past every key. -/
def Tables.Exhaustive : Prop := ∀ t m n, Tables.meets t m n = true

namespace Tables.Exhaustive

variable {v w : Value}

theorem found (h : Tables.Exhaustive) (f : Filed Value) : f.Found text := fun t _ _ _ => h t _ _

theorem findable (h : Tables.Exhaustive) (v : Value) : v.Findable text := by
  induction v using Value.induction_on_parts with
  | step v ih =>
    refine ⟨?_, ih⟩
    cases v with
    | map t es => exact fun e _ => h.found e.1
    | set t xs => exact fun x _ => h.found x
    | _ => trivial

theorem reliable (h : Tables.Exhaustive) (wv : v.WellKeyed) : v.Reliable text :=
  ⟨wv, h.findable v, fun t _ _ _ _ _ _ => h t _ _⟩

/-- Then key equality is sameness. -/
theorem agrees_eq_same (h : Tables.Exhaustive) (wv : v.WellKeyed) (ww : w.WellKeyed) :
    v.agrees text w = v.same w :=
  Value.agrees_eq_same wv ww (h.findable w)

end Tables.Exhaustive

/-! ### Keys in a table -/

/-- A key that is found, and that goes on to be found when it is filed anew. -/
structure Filed.Reliable (text : Entity → String) (f : Filed Value) : Prop where
  value : f.value.Reliable text
  found : f.Found text

theorem Value.Reliable.file {k : Value} (h : k.Reliable text) : (k.file text).Reliable text where
  value := h
  found t _ wj hjk := h.steady t _ _ h.wellKeyed wj h.wellKeyed.same_refl
    (wj.same_symm h.wellKeyed hjk)

/-- Where keys are found, look-up goes by sameness. -/
theorem Filed.Reliable.answers_eq {f : Filed Value} (h : f.Reliable text) {k : Value}
    (wk : k.WellKeyed) (t : Table) : f.answers text t k = f.value.same k := by
  rw [answers, Bool.eq_iff_iff, Bool.and_eq_true]
  have wf := h.value.wellKeyed
  refine ⟨fun hfound => wk.same_symm wf (Value.same_of_agrees wk wf hfound.2), fun hsame => ?_⟩
  have hback := wf.same_symm wk hsame
  exact ⟨h.found t k wk hback, Value.agrees_of_same wk wf h.value.findable hback⟩

end Lisp
