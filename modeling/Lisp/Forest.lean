/-!
# Forests

An append-only collection of nodes in which every node may have an earlier one as its parent. Since
parents are earlier, every way up ends.

## Main definitions

* `Forest` — the nodes and their parents
* `Forest.push` — a new node
* `Forest.update` — changes what a node carries, but not where it hangs
* `Forest.chain` — a node and its ancestors, nearest first
* `Forest.findUp?` — the first answer on the way up
-/

namespace Lisp

/-- Nothing hangs anywhere where there are no nodes. -/
theorem parent_lt_of_empty {α : Type} (i p : Nat) (a : α)
    (h : (#[] : Array (Option Nat × α))[i]? = some (some p, a)) : p < i := by
  simp at h

/-- Nodes that carry a value and hang below an earlier node or below nothing. -/
structure Forest (α : Type) where
  nodes : Array (Option Nat × α) := #[]
  /-- Parents are earlier than their children. -/
  parent_lt : ∀ (i p : Nat) (a : α), nodes[i]? = some (some p, a) → p < i := by
    exact parent_lt_of_empty

namespace Forest

variable {α β : Type}

instance : Inhabited (Forest α) := ⟨{}⟩

/-- The number of nodes. -/
def size (f : Forest α) : Nat := f.nodes.size

/-- What a node carries. -/
def get? (f : Forest α) (i : Nat) : Option α := f.nodes[i]?.map (·.2)

/-- The parent of a node. -/
def parent? (f : Forest α) (i : Nat) : Option Nat := f.nodes[i]?.bind (·.1)

/-- A parent is earlier than its child. -/
theorem parent?_lt {f : Forest α} {i p : Nat} (h : f.parent? i = some p) : p < i := by
  unfold parent? at h
  cases hn : f.nodes[i]? with
  | none => simp [hn] at h
  | some node =>
    obtain ⟨parent, a⟩ := node
    simp only [hn, Option.bind_some] at h
    subst h
    exact f.parent_lt i p a hn

/-- Adds a node below another one, or below nothing; a parent that is not there counts as nothing.
The new node's place is the former size. -/
def push (f : Forest α) (parent : Option Nat) (a : α) : Forest α where
  nodes := f.nodes.push (parent.filter (· < f.nodes.size), a)
  parent_lt i p b h := by
    rw [Array.getElem?_push] at h
    split at h
    · next hi =>
      simp only [Option.some.injEq, Prod.mk.injEq, Option.filter_eq_some_iff, decide_eq_true_eq]
        at h
      omega
    · exact f.parent_lt i p b h

/-- Changes what a node carries. -/
def update (f : Forest α) (i : Nat) (g : α → α) : Forest α where
  nodes := f.nodes.modify i fun (p, a) => (p, g a)
  parent_lt j p b h := by
    rw [Array.getElem?_modify] at h
    split at h
    · next hij =>
      obtain ⟨⟨q, a⟩, hn, he⟩ := Option.map_eq_some_iff.1 h
      simp only [Prod.mk.injEq] at he
      obtain ⟨rfl, -⟩ := he
      exact f.parent_lt j p a hn
    · exact f.parent_lt j p b h

/-- A node and its ancestors, nearest first. -/
def chain (f : Forest α) (i : Nat) : List Nat :=
  i :: match h : f.parent? i with
    | some p => have := parent?_lt h; chain f p
    | none => []
termination_by i

/-- The first answer that a node or one of its ancestors gives, nearest first. -/
def findUp? (f : Forest α) (answer : Nat → α → Option β) (i : Nat) : Option β :=
  match (f.get? i).bind (answer i) with
  | some b => some b
  | none =>
    match h : f.parent? i with
    | some p => have := parent?_lt h; findUp? f answer p
    | none => none
termination_by i

end Forest

end Lisp
