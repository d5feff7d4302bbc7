import Lisp.Path
import Mathlib.Data.List.Basic

/-!
# Dotted names

A dotted name and the row of its segments say the same: joining the segments with dots gives the
name back, whatever the segments are, empty ones included. So no two names have the same segments.

## Main results

* `Path.intercalate_splitDots` — the segments of a name make up the name
* `Path.splitDots_inj` — names with the same segments are the same
-/

namespace Lisp.Path

theorem splitDots_go_ne_nil (cs acc : List Char) : splitDots.go cs acc ≠ [] := by
  induction cs generalizing acc with
  | nil => exact List.cons_ne_nil _ _
  | cons c rest ih =>
    rw [splitDots.go]
    split
    · exact List.cons_ne_nil _ _
    · exact ih (c :: acc)

/-- The pieces, joined with dots, are the piece so far and the rest. -/
theorem intercalate_splitDots_go (cs acc : List Char) :
    ['.'].intercalate ((splitDots.go cs acc).map String.toList) = acc.reverse ++ cs := by
  induction cs generalizing acc with
  | nil => simp [splitDots.go]
  | cons c rest ih =>
    rw [splitDots.go]
    by_cases hdot : c = '.'
    · -- a piece ends here, and at least one more follows
      obtain ⟨piece, pieces, hrest⟩ := List.exists_cons_of_ne_nil (splitDots_go_ne_nil rest [])
      have joined := ih []
      rw [hrest, List.map_cons, List.reverse_nil, List.nil_append] at joined
      rw [if_pos hdot, hrest, List.map_cons, List.map_cons, List.intercalate_cons_cons, joined,
        String.toList_ofList, hdot, List.append_assoc, List.singleton_append]
    · rw [if_neg hdot, ih, List.reverse_cons, List.append_assoc, List.singleton_append]

/-- The segments of a name make up the name. -/
theorem intercalate_splitDots (name : String) : ".".intercalate (splitDots name) = name := by
  rw [← String.toList_inj, String.toList_intercalate]
  exact intercalate_splitDots_go name.toList []

/-- Names with the same segments are the same. -/
theorem splitDots_inj {name other : String} : splitDots name = splitDots other ↔ name = other := by
  refine ⟨fun h => ?_, congrArg splitDots⟩
  rw [← intercalate_splitDots name, h, intercalate_splitDots]

end Lisp.Path
