import Lisp.Dict
import Lisp.ModuleTree

/-!
# Trees of modules as finite maps

What is filed under a path is found under it, and what is filed under other paths stays where it is.
That segments are kept in order does not matter for this.

## Main results

* `ModuleTree.findPath?_insertPath` — filing is an update at one path
* `ModuleTree.find?_insert_of_some` — filing under a new name leaves every other name alone
-/

namespace Lisp.ModuleTree

variable {α : Type}

/-- Putting a tree under a segment changes what stands under that segment and nothing else. -/
theorem lookup_putChild (segment other : String) (t : ModuleTree α)
    (cs : List (String × ModuleTree α)) :
    (putChild segment t cs).lookup other = if other = segment then some t else cs.lookup other := by
  induction cs with
  | nil => exact Dict.lookup_cons_eq_ite segment other t []
  | cons c rest ih =>
    obtain ⟨first, below⟩ := c
    unfold putChild
    by_cases hfirst : segment = first
    · subst hfirst
      rw [if_pos rfl]
      simp only [Dict.lookup_cons_eq_ite]
      grind
    · rw [if_neg hfirst]
      by_cases hlt : segment < first
      · rw [if_pos hlt, Dict.lookup_cons_eq_ite]
      · rw [if_neg hlt]
        simp only [Dict.lookup_cons_eq_ite, ih]
        grind

@[simp] theorem findPath?_empty (path : List String) :
    findPath? path (empty : ModuleTree α) = none := by
  cases path with
  | nil => rfl
  | cons segment rest => rfl

/-- Filing a value under a path changes what is found under that path and nothing else. -/
theorem findPath?_insertPath (a : α) (path other : List String) (t : ModuleTree α) :
    findPath? other (insertPath a path t) = if other = path then some a else findPath? other t := by
  induction path generalizing other t with
  | nil =>
    cases other with
    | nil => rfl
    | cons segment rest => rfl
  | cons segment rest ih =>
    cases other with
    | nil => rfl
    | cons first below =>
      obtain ⟨value, cs⟩ := t
      simp only [insertPath, findPath?, child?, children, lookup_putChild]
      by_cases hfirst : first = segment
      · subst hfirst
        simp only [if_true, Option.bind_some, ih, List.cons.injEq, true_and]
        -- a segment without a tree is treated as one with the empty tree
        cases cs.lookup first with
        | none => simp only [Option.getD_none, findPath?_empty, Option.bind_none]
        | some tree => rfl
      · simp only [hfirst, if_false, List.cons.injEq, false_and]

theorem find?_insert (t : ModuleTree α) (name other : String) (a : α) :
    (t.insert name a).find? other =
      if Path.splitDots other = Path.splitDots name then some a else t.find? other := by
  rw [find?, insert, findPath?_insertPath, find?]

/-- Filing under a name that is not there leaves what is there as it was. -/
theorem find?_insert_of_some {t : ModuleTree α} {name other : String} {a b : α}
    (missing : t.find? name = none) (found : t.find? other = some b) :
    (t.insert name a).find? other = some b := by
  have hne : Path.splitDots other ≠ Path.splitDots name := by
    intro heq
    rw [find?, heq] at found
    rw [find?, found] at missing
    exact Option.some_ne_none b missing
  rw [find?_insert, if_neg hne]
  exact found

end Lisp.ModuleTree
