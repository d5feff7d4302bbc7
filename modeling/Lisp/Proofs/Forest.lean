import Lisp.Forest
import Mathlib.Data.List.Chain

/-!
# The way up in a forest

New nodes and new contents leave the nodes that are there where they hang. The way up from a node is
a list that can be written down, and a search on the way up is a search of this list.

## Main results

* `Forest.get?_push`, `Forest.parent?_push`, `Forest.get?_update`, `Forest.parent?_update` — what
  the two operations change
* `Forest.isChain_chain`, `Forest.outermost_chain` — the way up goes from parent to parent and ends
  where there is none
* `Forest.findUp?_eq` — searching on the way up
-/

namespace Lisp.Forest

variable {α β : Type} {f g : Forest α}

/-! ### Contents and parents -/

theorem size_push (f : Forest α) (parent : Option Nat) (a : α) :
    (f.push parent a).size = f.size + 1 :=
  Array.size_push ..

theorem size_update (f : Forest α) (i : Nat) (step : α → α) : (f.update i step).size = f.size :=
  Array.size_modify

theorem nodes_push (f : Forest α) (parent : Option Nat) (a : α) (i : Nat) :
    (f.push parent a).nodes[i]? =
      if i = f.size then some (parent.filter (· < f.size), a) else f.nodes[i]? :=
  Array.getElem?_push

theorem get?_push (f : Forest α) (parent : Option Nat) (a : α) (i : Nat) :
    (f.push parent a).get? i = if i = f.size then some a else f.get? i := by
  rw [get?, nodes_push]
  by_cases hi : i = f.size
  · rw [if_pos hi, if_pos hi, Option.map_some]
  · rw [if_neg hi, if_neg hi, get?]

theorem parent?_push (f : Forest α) (parent : Option Nat) (a : α) (i : Nat) :
    (f.push parent a).parent? i =
      if i = f.size then parent.filter (· < f.size) else f.parent? i := by
  rw [parent?, nodes_push]
  by_cases hi : i = f.size
  · rw [if_pos hi, if_pos hi, Option.bind_some]
  · rw [if_neg hi, if_neg hi, parent?]

theorem parent?_push_self {p : Nat} (hp : p < f.size) (a : α) :
    (f.push (some p) a).parent? f.size = some p := by
  rw [parent?_push, if_pos rfl, Option.filter_some, if_pos (decide_eq_true hp)]

theorem get?_push_of_some {i : Nat} {a : α} (h : f.get? i = some a) (parent : Option Nat) (b : α) :
    (f.push parent b).get? i = some a ∧ (f.push parent b).parent? i = f.parent? i := by
  obtain ⟨node, hnode, -⟩ := Option.map_eq_some_iff.1 h
  have hi : i ≠ f.size := Nat.ne_of_lt (Array.getElem?_eq_some_iff.1 hnode).1
  rw [get?_push, parent?_push, if_neg hi, if_neg hi]
  exact ⟨h, rfl⟩

theorem get?_update (f : Forest α) (i j : Nat) (step : α → α) :
    (f.update i step).get? j = if i = j then (f.get? j).map step else f.get? j := by
  simp only [get?, update, Array.getElem?_modify]
  by_cases hij : i = j
  · simp only [if_pos hij, Option.map_map]
    rfl
  · simp only [if_neg hij]

theorem parent?_update (f : Forest α) (i j : Nat) (step : α → α) :
    (f.update i step).parent? j = f.parent? j := by
  simp only [parent?, update, Array.getElem?_modify]
  by_cases hij : i = j
  · simp only [if_pos hij]
    cases f.nodes[j]? with
    | none => rfl
    | some node => rfl
  · simp only [if_neg hij]

/-! ### The way up -/

theorem chain_of_parent {i p : Nat} (h : f.parent? i = some p) : f.chain i = i :: f.chain p := by
  rw [chain]
  split
  · next q hq =>
    rw [h, Option.some.injEq] at hq
    rw [hq]
  · next hq => simp [h] at hq

theorem chain_of_root {i : Nat} (h : f.parent? i = none) : f.chain i = [i] := by
  rw [chain]
  split
  · next q hq => simp [h] at hq
  · rfl

theorem head?_chain (f : Forest α) (i : Nat) : (f.chain i).head? = some i := by
  rw [chain, List.head?_cons]

/-- The way up is the same in two forests in which all nodes up to some place hang alike. -/
theorem chain_congr {i : Nat} (h : ∀ j ≤ i, g.parent? j = f.parent? j) : g.chain i = f.chain i := by
  induction i using Nat.strong_induction_on with
  | _ i ih =>
    have hi := h i (Nat.le_refl i)
    cases hp : f.parent? i with
    | none => rw [chain_of_root hp, chain_of_root (hi.trans hp)]
    | some p =>
      have hlt := parent?_lt hp
      rw [chain_of_parent hp, chain_of_parent (hi.trans hp),
        ih p hlt fun j hj => h j (Nat.le_trans hj (Nat.le_of_lt hlt))]

theorem chain_push_of_lt {i : Nat} (hi : i < f.size) (parent : Option Nat) (a : α) :
    (f.push parent a).chain i = f.chain i := by
  refine chain_congr fun j hj => ?_
  rw [parent?_push, if_neg (by omega)]

theorem chain_update (f : Forest α) (i j : Nat) (step : α → α) :
    (f.update i step).chain j = f.chain j :=
  chain_congr fun k _ => parent?_update f i k step

/-- Going up one always gets to earlier nodes. -/
theorem pairwise_chain (f : Forest α) (i : Nat) : (f.chain i).Pairwise (· > ·) ∧
    ∀ j ∈ f.chain i, j ≤ i := by
  induction i using Nat.strong_induction_on with
  | _ i ih =>
    cases hp : f.parent? i with
    | none => simp [chain_of_root hp]
    | some p =>
      have hlt := parent?_lt hp
      obtain ⟨pairwise, below⟩ := ih p hlt
      rw [chain_of_parent hp]
      refine ⟨List.pairwise_cons.2 ⟨fun j hj => ?_, pairwise⟩, ?_⟩
      · exact Nat.lt_of_le_of_lt (below j hj) hlt
      · rw [List.forall_mem_cons]
        exact ⟨Nat.le_refl i, fun j hj => Nat.le_trans (below j hj) (Nat.le_of_lt hlt)⟩

theorem isChain_chain (f : Forest α) (i : Nat) :
    (f.chain i).IsChain fun child parent => f.parent? child = some parent := by
  induction i using Nat.strong_induction_on with
  | _ i ih =>
    cases hp : f.parent? i with
    | none =>
      rw [chain_of_root hp]
      exact .singleton i
    | some p =>
      have rest := ih p (parent?_lt hp)
      rw [chain_of_parent hp]
      refine rest.cons fun q hq => ?_
      rw [head?_chain, Option.mem_some_iff] at hq
      rw [hp, hq]

/-- The way up ends at a node without a parent. -/
theorem outermost_chain (f : Forest α) (i : Nat) :
    ∃ root, (f.chain i).getLast? = some root ∧ f.parent? root = none := by
  induction i using Nat.strong_induction_on with
  | _ i ih =>
    cases hp : f.parent? i with
    | none => exact ⟨i, by rw [chain_of_root hp, List.getLast?_singleton], hp⟩
    | some p =>
      obtain ⟨root, hlast, hroot⟩ := ih p (parent?_lt hp)
      refine ⟨root, ?_, hroot⟩
      rw [chain_of_parent hp, List.getLast?_cons, hlast, Option.getD_some]

/-- The first answer on the way up is the first answer among the nodes of the way. -/
theorem findUp?_eq (f : Forest α) (answer : Nat → α → Option β) (i : Nat) :
    f.findUp? answer i = (f.chain i).findSome? fun j => (f.get? j).bind (answer j) := by
  induction i using Nat.strong_induction_on with
  | _ i ih =>
    rw [findUp?]
    split
    · next b hb =>
      rw [chain, List.findSome?_cons, hb]
    · next hb =>
      split
      · next p hp =>
        rw [chain_of_parent hp, List.findSome?_cons, hb]
        exact ih p (parent?_lt hp)
      · next hp => rw [chain_of_root hp, List.findSome?_cons, hb, List.findSome?_nil]

end Lisp.Forest
