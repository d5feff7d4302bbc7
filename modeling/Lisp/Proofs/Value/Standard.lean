import Lisp.Json.Form
import Lisp.Proofs.Reader.Readable

/-!
# Values of one representation

A standard says in which representation the maps and sets inside a value are, and the vectors too if
it covers them. What is built of values that meet a standard, in the representation that it asks
for, meets it as well: maps and sets, whatever order their entries come in and however often keys
are repeated, forms that are read from a text, and forms that are written as JSON.

## Main definitions

* `Standard` — a representation, and whether it is asked of vectors
* `Standard.Meets` — the vectors, maps and sets in a value are as the standard says, at any depth

## Main results

* `Standard.meets_insert`, `Standard.meets_mapOf`, `Standard.meets_setOf` — maps and sets
* `Standard.meets_readAll`, `Standard.meets_toForm` — forms
-/

namespace Lisp

/-- What is asked of the representation of things. -/
structure Standard where
  rep : Representation
  /-- Whether it is asked of vectors. -/
  vectors : Bool := true

namespace Standard

variable (σ : Standard) {v : Value} {xs : List Value} {r : Representation} {t : Table}

/-- A vector, map or set in the representation asked for, or something else. -/
def Allows : Value → Prop
  | .vector r _ => σ.vectors = true → r = σ.rep
  | .map t _ | .set t _ => t.rep = σ.rep
  | _ => True

/-- All vectors, maps and sets are in the representation asked for, at any depth. -/
def Meets (v : Value) : Prop := v.Everywhere σ.Allows

variable {σ}

theorem meets_iff : σ.Meets v ↔ σ.Allows v ∧ ∀ w ∈ v.parts, σ.Meets w :=
  ⟨fun h => ⟨h.here, fun _ hw => h.inside hw⟩, fun h => ⟨h.1, h.2⟩⟩

/-! ### Values by their kind -/

@[simp] theorem meets_nil : σ.Meets .nil := .leaf trivial rfl

@[simp] theorem meets_bool (b : Bool) : σ.Meets (.bool b) := .leaf trivial rfl

@[simp] theorem meets_number (n : Number) : σ.Meets (.number n) := .leaf trivial rfl

@[simp] theorem meets_string (s : String) : σ.Meets (.string s) := .leaf trivial rfl

@[simp] theorem meets_symbol (name : Name) : σ.Meets (.symbol name) := .leaf trivial rfl

@[simp] theorem meets_keyword (name : Name) : σ.Meets (.keyword name) := .leaf trivial rfl

@[simp] theorem meets_regex (pattern : String) : σ.Meets (.regex pattern) := .leaf trivial rfl

@[simp] theorem meets_entity (e : Entity) : σ.Meets (.entity e) := .leaf trivial rfl

@[simp] theorem meets_sym (text : String) : σ.Meets (.sym text) := meets_symbol _

@[simp] theorem meets_kw (text : String) : σ.Meets (.kw text) := meets_keyword _

@[simp] theorem meets_quoted : σ.Meets (.quoted v) ↔ σ.Meets v := by
  rw [meets_iff]
  simp [Allows, Value.parts]

@[simp] theorem meets_list : σ.Meets (.list xs) ↔ ∀ x ∈ xs, σ.Meets x := by
  rw [meets_iff]
  simp [Allows, Value.parts]

@[simp] theorem meets_vector :
    σ.Meets (.vector r xs) ↔ (σ.vectors = true → r = σ.rep) ∧ ∀ x ∈ xs, σ.Meets x := by
  rw [meets_iff]
  rfl

@[simp] theorem meets_map {es : List (Filed Value × Value)} :
    σ.Meets (.map t es) ↔ t.rep = σ.rep ∧ ∀ e ∈ es, σ.Meets e.1.value ∧ σ.Meets e.2 := by
  rw [meets_iff]
  exact and_congr_right fun _ => Value.forall_parts_map

@[simp] theorem meets_set {items : List (Filed Value)} :
    σ.Meets (.set t items) ↔ t.rep = σ.rep ∧ ∀ x ∈ items, σ.Meets x.value := by
  rw [meets_iff]
  exact and_congr_right fun _ => List.forall_mem_map

/-- What the standard asks for serves. -/
theorem meets_vector_rep (h : ∀ x ∈ xs, σ.Meets x) : σ.Meets (.vector σ.rep xs) :=
  meets_vector.2 ⟨fun _ => rfl, h⟩

theorem meets_getD {o : Option Value} (h : ∀ w ∈ o, σ.Meets w) : σ.Meets (o.getD .nil) := by
  cases o with
  | none => exact meets_nil
  | some w => exact h w rfl

/-! ### Maps and sets -/

variable [Tables] {text : Entity → String} {s : Shelf} {k : Value} {items : List (Filed Value)}

theorem meets_insert (hs : σ.Meets s.toMap) (hk : σ.Meets k) (hv : σ.Meets v) :
    σ.Meets (s.insert text k v).toMap :=
  Shelf.everywhere_insert (Shelf.insert_rep.trans hs.here) hs hk hv

theorem meets_erase (hs : σ.Meets s.toMap) : σ.Meets (s.erase text k).toMap := by
  obtain ⟨hrep, hes⟩ := meets_map.1 hs
  exact meets_map.2 ⟨Shelf.erase_rep.trans hrep, fun e he => hes e (Shelf.mem_of_mem_erase he)⟩

theorem meets_opened {n : Nat} : σ.Meets (Shelf.opened σ.rep n).toMap :=
  meets_map.2 ⟨rfl, by simp [Shelf.opened]⟩

theorem meets_mapOf {ps : List (Value × Value)} (h : ∀ p ∈ ps, σ.Meets p.1 ∧ σ.Meets p.2) :
    σ.Meets (.mapOf text σ.rep ps) := by
  refine meets_map.2 ⟨Shelf.insertAll_rep ps, fun e he => ?_⟩
  obtain ⟨⟨p, hp, hkey⟩, q, hq, hvalue⟩ := Shelf.exists_of_mem_insertAll rfl he
  rw [hkey, hvalue]
  exact ⟨(h p hp).1, (h q hq).2⟩

omit [Tables] in
/-- A set is a map with nothing to tell about its keys. -/
theorem meets_ofSet (h : σ.Meets (.set t items)) : σ.Meets (Shelf.ofSet t items).toMap := by
  obtain ⟨hrep, hitems⟩ := meets_set.1 h
  exact meets_map.2 ⟨hrep, List.forall_mem_map.2 fun x hx => ⟨hitems x hx, meets_nil⟩⟩

omit [Tables] in
theorem meets_toSet (h : σ.Meets s.toMap) : σ.Meets s.toSet := by
  obtain ⟨hrep, hes⟩ := meets_map.1 h
  exact meets_set.2 ⟨hrep, List.forall_mem_map.2 fun e he => (hes e he).1⟩

theorem meets_setOf (h : ∀ x ∈ xs, σ.Meets x) : σ.Meets (.setOf text σ.rep xs) := by
  refine meets_toSet (meets_map.2 ⟨Shelf.insertAll_rep _, fun e he => ?_⟩)
  obtain ⟨⟨p, hp, hkey⟩, q, hq, hvalue⟩ := Shelf.exists_of_mem_insertAll rfl he
  obtain ⟨x, hx, rfl⟩ := List.mem_map.1 hp
  obtain ⟨y, -, rfl⟩ := List.mem_map.1 hq
  rw [hkey, hvalue]
  exact ⟨h x hx, meets_nil⟩

omit [Tables] in
theorem meets_pairUp (h : ∀ x ∈ xs, σ.Meets x) :
    ∀ p ∈ Value.pairUp xs, σ.Meets p.1 ∧ σ.Meets p.2 := by
  intro p hp
  have mem := Value.mem_of_mem_pairUp hp
  exact ⟨h _ mem.1, h _ mem.2⟩

/-! ### Forms -/

omit [Tables] in
/-- The reader has everything in its representation. -/
theorem meets_of_readable (h : Reader.Readable σ.rep v) : σ.Meets v := by
  refine h.mono fun w here => ?_
  cases w with
  | vector r items => exact fun _ => here
  | map t es => exact here
  | set t xs => exact here
  | _ => trivial

/-- All forms that are read are in the representation of the reader, also those in front of a
fault. -/
theorem meets_readAll (text : String) :
    ∀ f ∈ (Reader.readAll σ.rep text).forms, σ.Meets f.form := by
  have start : Reader.State.Sound σ.rep {} :=
    ⟨trivial, by simp [Reader.State.view], by simp [Reader.State.view]⟩
  have sound := Reader.State.sound_endToken (Reader.State.sound_run start text.toList)
  intro f hf
  simp only [Reader.readAll, Reader.readChars_eq, Reader.State.outcome, List.mem_reverse] at hf
  have readable : Reader.Readable σ.rep f.form := sound.view.forms _ (List.mem_map_of_mem hf)
  exact meets_of_readable readable

theorem meets_read {source : String} {forms : List Value}
    (h : Reader.read σ.rep source = .ok forms) : ∀ v ∈ forms, σ.Meets v :=
  fun v hv => meets_of_readable (Reader.readable_of_read h v hv)

omit [Tables] in
theorem meets_stringForm (s : String) : σ.Meets (Json.stringForm s) := by
  unfold Json.stringForm
  split
  · exact meets_keyword _
  · split
    · exact meets_string _
    · exact meets_symbol _
  · exact meets_symbol _

mutual

theorem meets_toForm : ∀ j : Json, σ.Meets (Json.toForm σ.rep j)
  | .null => meets_nil
  | .bool b => meets_bool b
  | .number n => meets_number n
  | .string s => meets_stringForm s
  | .array items => meets_list.2 (meets_toForms items)
  | .object fields => meets_mapOf (meets_toEntries fields)

theorem meets_toForms : ∀ js : List Json, ∀ v ∈ Json.toForms σ.rep js, σ.Meets v
  | [] => by simp [Json.toForms]
  | j :: js => List.forall_mem_cons.2 ⟨meets_toForm j, meets_toForms js⟩

theorem meets_toEntries : ∀ fs : List (String × Json), ∀ p ∈ Json.toEntries σ.rep fs,
    σ.Meets p.1 ∧ σ.Meets p.2
  | [] => by simp [Json.toEntries]
  | (_, j) :: fs => List.forall_mem_cons.2
      ⟨⟨meets_keyword _, meets_toForm j⟩, meets_toEntries fs⟩

end

end Standard

end Lisp
