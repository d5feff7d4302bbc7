import Lisp.Value.Equality

/-!
# The parts of a value

What a property of values says "at every depth" is said here once: a value has immediate parts, and
a property holds everywhere in a value if it holds of the value and everywhere in its parts. Filed
keys count as parts, marks do not.

## Main definitions

* `Value.parts` — the immediate parts of a value
* `Value.Everywhere` — a property of a value and of all that is inside it

## Main results

* `Value.induction_on_parts` — induction on values, part by part
-/

namespace Lisp.Value

/-- The immediate parts of a value: elements, keys, entries and quoted forms. -/
def parts : Value → List Value
  | list items | vector _ items => items
  | map _ entries => entries.flatMap fun e => [e.1.value, e.2]
  | set _ items => items.map (·.value)
  | quoted form => [form]
  | _ => []

theorem key_mem_parts {t : Table} {entries : List (Filed Value × Value)}
    {e : Filed Value × Value} (h : e ∈ entries) : e.1.value ∈ (map t entries).parts :=
  List.mem_flatMap.2 ⟨e, h, by simp⟩

theorem value_mem_parts {t : Table} {entries : List (Filed Value × Value)}
    {e : Filed Value × Value} (h : e ∈ entries) : e.2 ∈ (map t entries).parts :=
  List.mem_flatMap.2 ⟨e, h, by simp⟩

theorem element_mem_parts {t : Table} {items : List (Filed Value)} {x : Filed Value}
    (h : x ∈ items) : x.value ∈ (set t items).parts :=
  List.mem_map.2 ⟨x, h, rfl⟩

/-- The parts of a map are its keys and its values. -/
theorem forall_parts_map {P : Value → Prop} {t : Table} {entries : List (Filed Value × Value)} :
    (∀ w ∈ (map t entries).parts, P w) ↔ ∀ e ∈ entries, P e.1.value ∧ P e.2 := by
  constructor
  · exact fun h e he => ⟨h _ (key_mem_parts he), h _ (value_mem_parts he)⟩
  · intro h w hw
    obtain ⟨e, he, hw⟩ := List.mem_flatMap.1 hw
    rcases List.mem_cons.1 hw with rfl | hw
    · exact (h e he).1
    · obtain rfl := List.mem_singleton.1 hw
      exact (h e he).2

theorem eq_nil_of_parts_map {t : Table} {entries : List (Filed Value × Value)}
    (h : (map t entries).parts = []) : entries = [] := by
  cases entries with
  | nil => rfl
  | cons e entries => simp [parts] at h

theorem eq_nil_of_parts_set {t : Table} {items : List (Filed Value)}
    (h : (set t items).parts = []) : items = [] :=
  List.map_eq_nil_iff.1 h

theorem sizeOf_lt_of_mem_parts {v w : Value} (h : w ∈ v.parts) : sizeOf w < sizeOf v := by
  cases v with
  | list items | vector _ items =>
    have : sizeOf w < sizeOf items := List.sizeOf_lt_of_mem h
    simp only [list.sizeOf_spec, vector.sizeOf_spec]
    omega
  | map t entries =>
    obtain ⟨⟨⟨k, mark⟩, x⟩, he, hw⟩ := List.mem_flatMap.1 h
    have := List.sizeOf_lt_of_mem he
    simp only [Prod.mk.sizeOf_spec, Filed.mk.sizeOf_spec] at this
    simp only [map.sizeOf_spec]
    rcases List.mem_cons.1 hw with rfl | hw
    · omega
    · obtain rfl := List.mem_singleton.1 hw
      omega
  | set t items =>
    obtain ⟨⟨x, mark⟩, hx, rfl⟩ := List.mem_map.1 h
    have := List.sizeOf_lt_of_mem hx
    simp only [Filed.mk.sizeOf_spec] at this
    simp only [set.sizeOf_spec]
    omega
  | quoted form =>
    obtain rfl := List.mem_singleton.1 h
    simp only [quoted.sizeOf_spec]
    omega
  | nil | bool _ | number _ | string _ | symbol _ | keyword _ | regex _ | entity _ =>
    exact absurd h List.not_mem_nil

/-- Induction on values: what passes from the parts of a value to the value holds of all. -/
@[elab_as_elim]
theorem induction_on_parts {motive : Value → Prop} (v : Value)
    (step : ∀ v, (∀ w ∈ v.parts, motive w) → motive v) : motive v :=
  step v fun w _ => induction_on_parts w step
termination_by sizeOf v
decreasing_by exact sizeOf_lt_of_mem_parts ‹_›

/-- A property that a value and everything inside it has. -/
inductive Everywhere (P : Value → Prop) : Value → Prop where
  | intro {v : Value} (here : P v) (inside : ∀ w ∈ v.parts, Everywhere P w) : Everywhere P v

namespace Everywhere

variable {P Q : Value → Prop} {v w : Value}

theorem here (h : Everywhere P v) : P v := by
  cases h
  assumption

theorem inside (h : Everywhere P v) (hw : w ∈ v.parts) : Everywhere P w := by
  cases h with
  | intro _ inside => exact inside w hw

theorem leaf (here : P v) (leaf : v.parts = []) : Everywhere P v :=
  ⟨here, by simp [leaf]⟩

theorem mono (h : Everywhere P v) (hPQ : ∀ v, P v → Q v) : Everywhere Q v := by
  induction h with
  | intro here _ ih => exact ⟨hPQ _ here, ih⟩

end Everywhere

end Lisp.Value
