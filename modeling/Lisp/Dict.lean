/-!
# Dictionaries

Finite maps from texts, small enough to be searched from front to back.

## Main definitions

* `Dict` — a finite map from texts
* `Dict.get?`, `Dict.insert`, `Dict.merge`
-/

namespace Lisp

/-- A finite map from texts; the first entry of a text counts. -/
structure Dict (β : Type) where
  entries : List (String × β) := []
deriving Inhabited

namespace Dict

variable {β : Type}

/-- The dictionary without entries. -/
def empty : Dict β := {}

/-- The value under a text. -/
def get? (d : Dict β) (k : String) : Option β := d.entries.lookup k

/-- Whether there is an entry for a text. -/
def contains (d : Dict β) (k : String) : Bool := (d.get? k).isSome

/-- Replaces the value of the first entry of a text. -/
def replace (k : String) (v : β) : List (String × β) → List (String × β)
  | [] => []
  | e :: rest => if e.1 == k then (k, v) :: rest else e :: replace k v rest

/-- Sets the value under a text. -/
def insert (d : Dict β) (k : String) (v : β) : Dict β :=
  if d.contains k then ⟨replace k v d.entries⟩ else ⟨(k, v) :: d.entries⟩

/-- The dictionary of some pairs; the last of several for one text wins. -/
def ofPairs (ps : List (String × β)) : Dict β :=
  ps.foldl (fun d p => d.insert p.1 p.2) {}

/-- The entries of both, those of the second winning. -/
def merge (d e : Dict β) : Dict β :=
  e.entries.reverse.foldl (fun d p => d.insert p.1 p.2) d

/-- The texts that have entries. -/
def keys (d : Dict β) : List String := d.entries.map (·.1)

/-- The entries in order of their texts. -/
def sorted (d : Dict β) : List (String × β) :=
  d.entries.mergeSort fun a b => decide (a.1 ≤ b.1)

@[simp] theorem get?_empty (k : String) : (empty : Dict β).get? k = none := rfl

theorem lookup_cons_eq_ite (k j : String) (v : β) (es : List (String × β)) :
    ((k, v) :: es).lookup j = if j = k then some v else es.lookup j := by
  by_cases h : j = k
  · subst h
    simp
  · have hj : (j == k) = false := beq_false_of_ne h
    simp [List.lookup_cons, hj, h]

theorem lookup_replace_self (k : String) (v : β) (es : List (String × β))
    (h : (es.lookup k).isSome) : (replace k v es).lookup k = some v := by
  induction es with
  | nil => simp at h
  | cons e rest ih =>
    obtain ⟨first, old⟩ := e
    by_cases he : first = k
    · simp [replace, he]
    · rw [lookup_cons_eq_ite, if_neg (Ne.symm he)] at h
      simp only [replace, beq_iff_eq, he, if_false, lookup_cons_eq_ite, Ne.symm he]
      exact ih h

theorem lookup_replace_of_ne {k j : String} (v : β) (es : List (String × β)) (h : j ≠ k) :
    (replace k v es).lookup j = es.lookup j := by
  induction es with
  | nil => rfl
  | cons e rest ih =>
    obtain ⟨first, old⟩ := e
    by_cases he : first = k
    · simp [replace, he, lookup_cons_eq_ite, h]
    · simp only [replace, beq_iff_eq, he, if_false, lookup_cons_eq_ite, ih]

/-- Setting a value changes what stands under its text and nothing else. -/
theorem get?_insert (d : Dict β) (k j : String) (v : β) :
    (d.insert k v).get? j = if j = k then some v else d.get? j := by
  unfold insert
  by_cases hc : d.contains k
  · simp only [hc, if_true, get?]
    split
    · next h => subst h; exact lookup_replace_self _ _ _ hc
    · next h => exact lookup_replace_of_ne _ _ h
  · rw [if_neg hc]
    exact lookup_cons_eq_ite k j v d.entries

end Dict

end Lisp
