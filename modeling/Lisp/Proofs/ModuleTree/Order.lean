import Lisp.Proofs.ModuleTree
import Lisp.Proofs.Path
import Mathlib.Data.List.Induction
import Mathlib.Data.List.Lex
import Mathlib.Data.String.Basic

/-!
# Trees of modules list what is filed

A tree lists its values in the order of their paths: a path comes before those that go on from it,
and otherwise the first segments that differ decide. For this the segments below every node have to
be in order, which filing keeps so. A tree whose values are all filed under their own names is thus
a finite map from names that can be listed.

## Main definitions

* `ModuleTree.entries` — what is filed, with the paths it is filed under
* `ModuleTree.Ordered` — the segments below every node are in order
* `ModuleTree.ofList` — values filed under their names, one after the other

## Main results

* `ModuleTree.pairwise_entries`, `ModuleTree.mem_entries_iff` — what is listed
* `ModuleTree.ordered_insertPath` — filing keeps the order
* `ModuleTree.registry_finite_map` — finding and listing what has been filed
-/

namespace Lisp.ModuleTree

variable {α : Type}

mutual

/-- All values with the paths they are filed under. -/
def entries : ModuleTree α → List (List String × α)
  | node v cs => v.toList.map (([], ·)) ++ entriesChildren cs
termination_by structural t => t

/-- The entries of some trees. -/
def entriesChildren : List (String × ModuleTree α) → List (List String × α)
  | [] => []
  | c :: rest => entriesChild c ++ entriesChildren rest
termination_by structural cs => cs

/-- The entries of the tree below a segment. -/
def entriesChild : String × ModuleTree α → List (List String × α)
  | (segment, t) => (entries t).map fun e => (segment :: e.1, e.2)
termination_by structural c => c

end

/-- The segments below every node are in order, so that no two are the same. -/
inductive Ordered : ModuleTree α → Prop
  | node {value : Option α} {children : List (String × ModuleTree α)}
      (sorted : (children.map (·.1)).Pairwise (· < ·)) (below : ∀ c ∈ children, Ordered c.2) :
      Ordered (node value children)

/-! ### What is listed -/

mutual

/-- The values are listed as they are filed. -/
theorem toList_eq : (t : ModuleTree α) → t.toList = t.entries.map (·.2)
  | node v cs => by
    rw [toList, entries, toListChildren_eq cs, List.map_append, List.map_map]
    exact congrArg (· ++ _) (List.map_id _).symm
termination_by structural t => t

theorem toListChildren_eq : (cs : List (String × ModuleTree α)) →
    toListChildren cs = (entriesChildren cs).map (·.2)
  | [] => rfl
  | c :: rest => by
    rw [toListChildren, entriesChildren, List.map_append, toListChild_eq c, toListChildren_eq rest]
termination_by structural cs => cs

theorem toListChild_eq : (c : String × ModuleTree α) →
    toListChild c = (entriesChild c).map (·.2)
  | (segment, t) => by
    rw [toListChild, entriesChild, toList_eq t, List.map_map]
    rfl
termination_by structural c => c

end

theorem entriesChildren_eq (cs : List (String × ModuleTree α)) :
    entriesChildren cs = cs.flatMap entriesChild := by
  induction cs with
  | nil => rfl
  | cons c rest ih => rw [entriesChildren, ih, List.flatMap_cons]

theorem entriesChild_eq (c : String × ModuleTree α) :
    entriesChild c = c.2.entries.map fun e => (c.1 :: e.1, e.2) := by
  obtain ⟨segment, t⟩ := c
  rw [entriesChild]

theorem mem_entriesChild {c : String × ModuleTree α} {path : List String} {a : α} :
    (path, a) ∈ entriesChild c ↔ ∃ rest, path = c.1 :: rest ∧ (rest, a) ∈ c.2.entries := by
  simp only [entriesChild_eq, List.mem_map, Prod.mk.injEq, Prod.exists]
  grind

/-- Paths are listed in order: one before those that go on from it, and otherwise by the first
segments that differ. -/
theorem pairwise_entries {t : ModuleTree α} (h : t.Ordered) :
    t.entries.Pairwise fun e f => e.1 < f.1 := by
  induction h with
  | @node value children sorted below ih =>
    rw [entries, entriesChildren_eq, List.pairwise_append]
    refine ⟨?_, ?_, ?_⟩
    · cases value with
      | none => exact List.Pairwise.nil
      | some a => exact List.pairwise_singleton _ _
    · rw [List.pairwise_flatMap]
      refine ⟨fun c hc => ?_, (List.pairwise_map.1 sorted).imp fun {c d} hlt e he f hf => ?_⟩
      · rw [entriesChild_eq, List.pairwise_map]
        exact (ih c hc).imp fun hlt => List.cons_lt_cons_self.2 hlt
      · obtain ⟨rest, hrest, -⟩ := mem_entriesChild.1 he
        obtain ⟨rest', hrest', -⟩ := mem_entriesChild.1 hf
        rw [hrest, hrest']
        exact List.Lex.rel hlt
    · -- the value of a node comes before all that is below the node
      intro e he f hf
      obtain ⟨c, -, hf⟩ := List.mem_flatMap.1 hf
      obtain ⟨rest, hrest, -⟩ := mem_entriesChild.1 hf
      obtain ⟨a, -, rfl⟩ := List.mem_map.1 he
      rw [hrest]
      exact List.nil_lt_cons _ _

/-- Where no two entries have the same key, look-ups find what is there. -/
theorem lookup_eq_some_iff {β : Type} {es : List (String × β)}
    (sorted : (es.map (·.1)).Pairwise (· < ·)) {k : String} {b : β} :
    es.lookup k = some b ↔ (k, b) ∈ es := by
  induction es with
  | nil => simp
  | cons e rest ih =>
    obtain ⟨first, value⟩ := e
    rw [List.map_cons, List.pairwise_cons] at sorted
    obtain ⟨smaller, sorted⟩ := sorted
    rw [Dict.lookup_cons_eq_ite, List.mem_cons, Prod.mk.injEq]
    by_cases hk : k = first
    · subst hk
      have absent : (k, b) ∉ rest := fun hmem =>
        lt_irrefl k (smaller k (List.mem_map_of_mem hmem))
      rw [if_pos rfl, Option.some_inj]
      exact ⟨fun h => .inl ⟨rfl, h.symm⟩, fun h => (h.resolve_right absent).2.symm⟩
    · rw [if_neg hk, ih sorted]
      exact ⟨.inr, fun h => h.resolve_left fun h => hk h.1⟩

/-- What is listed under a path is what is found there. -/
theorem mem_entries_iff {t : ModuleTree α} (h : t.Ordered) {path : List String} {a : α} :
    (path, a) ∈ t.entries ↔ findPath? path t = some a := by
  induction h generalizing path with
  | @node value children sorted below ih =>
    rw [entries, entriesChildren_eq, List.mem_append, List.mem_flatMap]
    cases path with
    | nil =>
      -- what is listed below a node has a segment at least
      have below : ¬ ∃ c ∈ children, ([], a) ∈ entriesChild c := by
        rintro ⟨c, -, hmem⟩
        obtain ⟨rest, hrest, -⟩ := mem_entriesChild.1 hmem
        exact List.cons_ne_nil _ _ hrest.symm
      rw [or_iff_left below]
      simp [findPath?, value?]
    | cons segment rest =>
      have found : (∃ c ∈ children, (segment :: rest, a) ∈ entriesChild c) ↔
          findPath? (segment :: rest) (node value children) = some a := by
        simp only [findPath?, child?, ModuleTree.children, Option.bind_eq_some_iff,
          lookup_eq_some_iff sorted]
        constructor
        · rintro ⟨⟨first, tree⟩, hc, hmem⟩
          obtain ⟨_, ⟨⟩, hmem⟩ := mem_entriesChild.1 hmem
          exact ⟨tree, hc, (ih _ hc).1 hmem⟩
        · rintro ⟨tree, hc, hfind⟩
          exact ⟨_, hc, mem_entriesChild.2 ⟨rest, rfl, (ih _ hc).2 hfind⟩⟩
      rw [found, or_iff_right]
      simp

/-! ### Filing keeps the order -/

theorem mem_putChild {segment : String} {t : ModuleTree α} {cs : List (String × ModuleTree α)}
    {c : String × ModuleTree α} (h : c ∈ putChild segment t cs) : c = (segment, t) ∨ c ∈ cs := by
  induction cs with
  | nil => exact .inl (List.mem_singleton.1 h)
  | cons first rest ih =>
    unfold putChild at h
    split_ifs at h
    · exact (List.mem_cons.1 h).imp_right (List.mem_cons_of_mem _)
    · exact List.mem_cons.1 h
    · rcases List.mem_cons.1 h with rfl | h
      · exact .inr List.mem_cons_self
      · exact (ih h).imp_right (List.mem_cons_of_mem _)

theorem sorted_putChild (segment : String) (t : ModuleTree α) {cs : List (String × ModuleTree α)}
    (sorted : (cs.map (·.1)).Pairwise (· < ·)) :
    ((putChild segment t cs).map (·.1)).Pairwise (· < ·) := by
  induction cs with
  | nil => exact List.pairwise_singleton _ _
  | cons first rest ih =>
    have hsorted := sorted
    rw [List.map_cons, List.pairwise_cons] at sorted
    obtain ⟨smaller, sorted⟩ := sorted
    unfold putChild
    split_ifs with hsame hlt
    · rw [List.map_cons, hsame]
      exact List.pairwise_cons.2 ⟨smaller, sorted⟩
    · rw [List.map_cons, List.pairwise_cons]
      refine ⟨fun key hkey => ?_, hsorted⟩
      rcases List.mem_cons.1 hkey with rfl | hkey
      · exact hlt
      · exact hlt.trans (smaller key hkey)
    · rw [List.map_cons, List.pairwise_cons]
      refine ⟨fun key hkey => ?_, ih sorted⟩
      obtain ⟨c, hc, rfl⟩ := List.mem_map.1 hkey
      rcases mem_putChild hc with rfl | hc
      · exact lt_of_le_of_ne (not_lt.1 hlt) (Ne.symm hsame)
      · exact smaller c.1 (List.mem_map_of_mem hc)

theorem ordered_empty : (empty : ModuleTree α).Ordered :=
  .node List.Pairwise.nil fun _ hc => absurd hc List.not_mem_nil

/-- Filing keeps the segments in order. -/
theorem ordered_insertPath (a : α) (path : List String) {t : ModuleTree α} (h : t.Ordered) :
    (insertPath a path t).Ordered := by
  induction path generalizing t with
  | nil =>
    cases h with
    | node sorted below => exact .node sorted below
  | cons segment rest ih =>
    cases h with
    | @node value cs sorted below =>
      refine .node (sorted_putChild _ _ sorted) fun c hc => ?_
      rcases mem_putChild hc with rfl | hc
      · refine ih ?_
        cases hchild : (node value cs).child? segment with
        | none => exact ordered_empty
        | some tree => exact below _ ((lookup_eq_some_iff sorted).1 hchild)
      · exact below c hc

/-! ### Values under their names -/

/-- The tree that comes of filing values under their names, one after the other. -/
def ofList (name : α → String) (as : List α) : ModuleTree α :=
  as.foldl (fun t a => t.insert (name a) a) empty

variable (name : α → String) (as : List α)

theorem ordered_ofList : (ofList name as).Ordered := by
  have hfold (t : ModuleTree α) (h : t.Ordered) :
      (as.foldl (fun t a => t.insert (name a) a) t).Ordered := by
    induction as generalizing t with
    | nil => exact h
    | cons a as ih => exact ih _ (ordered_insertPath a _ h)
  exact hfold empty ordered_empty

/-- Under a path there is the last value whose name has these segments. -/
theorem findPath?_ofList (path : List String) :
    findPath? path (ofList name as) =
      as.reverse.find? fun a => decide (Path.splitDots (name a) = path) := by
  -- from the last value that is filed, which hides those before it
  induction as using List.reverseRecOn with
  | nil => exact findPath?_empty path
  | append_singleton as a ih =>
    rw [ofList, List.foldl_append, List.foldl_cons, List.foldl_nil, ← ofList, insert,
      findPath?_insertPath, ih, List.reverse_append, List.reverse_singleton, List.singleton_append,
      List.find?_cons]
    by_cases hpath : path = Path.splitDots (name a)
    · simp [hpath]
    · simp [hpath, Ne.symm hpath]

/-- Values that are filed under their names, one after the other, make up a finite map: under a name
there is the last value of exactly this name, if there is one. What is listed are the names that
have been filed, each of them once, in the order of their rows of segments, in which a row comes
before those that go on from it. -/
theorem registry_finite_map :
    (∀ n, (ofList name as).find? n = as.reverse.find? fun a => decide (name a = n)) ∧
    (∀ n, n ∈ (ofList name as).toList.map name ↔ n ∈ as.map name) ∧
    ((ofList name as).toList.map name).Nodup ∧
    ((ofList name as).toList.map name).Pairwise fun n n' =>
      Path.splitDots n < Path.splitDots n' := by
  have ordered := ordered_ofList name as
  have find (n : String) :
      (ofList name as).find? n = as.reverse.find? fun a => decide (name a = n) := by
    rw [find?, findPath?_ofList]
    simp only [Path.splitDots_inj]
  -- each value is listed under the segments of its name
  have filed : ∀ e ∈ (ofList name as).entries, Path.splitDots (name e.2) = e.1 := by
    rintro ⟨path, a⟩ he
    rw [mem_entries_iff ordered, findPath?_ofList] at he
    simpa using List.find?_some he
  have sorted : ((ofList name as).toList.map name).Pairwise fun n n' =>
      Path.splitDots n < Path.splitDots n' := by
    rw [toList_eq, List.map_map, List.pairwise_map]
    refine (pairwise_entries ordered).imp_of_mem fun {e f} he hf hlt => ?_
    rw [Function.comp_apply, Function.comp_apply, filed e he, filed f hf]
    exact hlt
  refine ⟨find, fun n => ?_, sorted.imp fun {n n'} hlt hsame => ?_, sorted⟩
  · rw [toList_eq, List.map_map, List.mem_map, List.mem_map]
    constructor
    · rintro ⟨⟨path, a⟩, he, rfl⟩
      rw [mem_entries_iff ordered, findPath?_ofList] at he
      exact ⟨a, List.mem_reverse.1 (List.mem_of_find?_eq_some he), rfl⟩
    · rintro ⟨a, ha, rfl⟩
      obtain ⟨b, hb⟩ : ∃ b, (ofList name as).find? (name a) = some b := by
        rw [find, ← Option.isSome_iff_exists, List.find?_isSome]
        exact ⟨a, List.mem_reverse.2 ha, decide_eq_true rfl⟩
      have hname : name b = name a := by
        simpa using List.find?_some ((find _).symm.trans hb)
      exact ⟨(_, b), (mem_entries_iff ordered).2 hb, hname⟩
  · rw [hsame] at hlt
    exact lt_irrefl _ hlt

/-- A name is listed before those that go on from it, and empty segments come first. -/
example : (ofList id ["a.b.c", "a", "", "a.b.c", "a..b"]).toList = ["", "a", "a..b", "a.b.c"] := by
  decide +kernel

end Lisp.ModuleTree
