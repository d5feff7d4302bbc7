import Lisp.Proofs.Value.Order

/-!
# Values in another layout

Vectors, maps and sets come in two representations that never mix silently. A layout says how all of
them in a value are to be written: vectors in one representation or as lists, maps and sets in one
representation, and whether this goes on behind quotes. Values that are the same are the same in any
layout that keeps their keys apart, and changing the representation everywhere keeps them apart.

## Main definitions

* `Value.Layout`, `Value.layOut` — a value with its vectors, maps and sets written another way
* `Value.Uniform` — all vectors, maps and sets in one representation

## Main results

* `Value.same_layOut` — what is the same is the same in a layout
* `Value.Reordered.layOut` — a layout keeps the order
* `Value.layOut_layOut`, `Value.Uniform.wellKeyed_layOut`, `Value.Uniform.same_layOut_eq` — changing
  the representation everywhere loses nothing
-/

namespace Lisp.Value

/-- How the vectors, maps and sets of a value are written. -/
structure Layout where
  /-- The representation of vectors; without one they are lists. -/
  vectors : Option Representation
  /-- The representation of maps and sets. -/
  keyed : Representation
  /-- Whether this holds behind quotes too. -/
  quotes : Bool

/-- Everything in one representation. -/
def Layout.of (rep : Representation) : Layout := ⟨some rep, rep, true⟩

/-- The elements of a vector in a layout. -/
def Layout.sequence (l : Layout) (items : List Value) : Value :=
  match l.vectors with
  | none => list items
  | some rep => vector rep items

mutual

/-- A value in a layout; keys stay filed as they are. -/
def layOut (l : Layout) : Value → Value
  | list items => list (layOutAll l items)
  | vector _ items => l.sequence (layOutAll l items)
  | map t entries => map ⟨l.keyed, t.state⟩ (layOutEntries l entries)
  | set t items => set ⟨l.keyed, t.state⟩ (layOutItems l items)
  | quoted form => quoted (if l.quotes then layOut l form else form)
  | v => v
termination_by structural v => v

/-- Several values in a layout. -/
def layOutAll (l : Layout) : List Value → List Value
  | [] => []
  | v :: rest => layOut l v :: layOutAll l rest
termination_by structural vs => vs

/-- The entries of a map in a layout. -/
def layOutEntries (l : Layout) : List (Filed Value × Value) → List (Filed Value × Value)
  | [] => []
  | e :: rest => layOutEntry l e :: layOutEntries l rest
termination_by structural es => es

/-- An entry of a map in a layout. -/
def layOutEntry (l : Layout) : Filed Value × Value → Filed Value × Value
  | (⟨k, m⟩, v) => (⟨layOut l k, m⟩, layOut l v)
termination_by structural e => e

/-- The elements of a set in a layout. -/
def layOutItems (l : Layout) : List (Filed Value) → List (Filed Value)
  | [] => []
  | ⟨x, m⟩ :: rest => ⟨layOut l x, m⟩ :: layOutItems l rest
termination_by structural xs => xs

end

attribute [local simp] layOut layOutAll layOutEntries layOutEntry layOutItems

variable {l : Layout} {t : Table} {rep rep' : Representation} {a b v : Value}

/-- An element of a set in a layout. -/
def layOutItem (l : Layout) (x : Filed Value) : Filed Value := ⟨layOut l x.value, x.mark⟩

theorem layOutAll_eq (vs : List Value) : layOutAll l vs = vs.map (layOut l) := by
  induction vs with
  | nil => rfl
  | cons v vs ih => rw [layOutAll, ih, List.map_cons]

theorem layOutEntries_eq (es : List (Filed Value × Value)) :
    layOutEntries l es = es.map fun e => (layOutItem l e.1, layOut l e.2) := by
  induction es with
  | nil => rfl
  | cons e es ih =>
    obtain ⟨⟨k, m⟩, v⟩ := e
    rw [layOutEntries, ih, List.map_cons, layOutEntry, layOutItem]

theorem layOutItems_eq (xs : List (Filed Value)) : layOutItems l xs = xs.map (layOutItem l) := by
  induction xs with
  | nil => rfl
  | cons x xs ih => rw [layOutItems, ih, List.map_cons, layOutItem]

theorem layOut_list (items : List Value) : layOut l (list items) = list (items.map (layOut l)) := by
  rw [layOut, layOutAll_eq]

theorem layOut_vector (items : List Value) :
    layOut l (vector rep items) = l.sequence (items.map (layOut l)) := by
  rw [layOut, layOutAll_eq]

theorem layOut_map (entries : List (Filed Value × Value)) :
    layOut l (map t entries) =
      map ⟨l.keyed, t.state⟩ (entries.map fun e => (layOutItem l e.1, layOut l e.2)) := by
  rw [layOut, layOutEntries_eq]

theorem layOut_set (items : List (Filed Value)) :
    layOut l (set t items) = set ⟨l.keyed, t.state⟩ (items.map (layOutItem l)) := by
  rw [layOut, layOutItems_eq]

theorem parts_sequence (items : List Value) : (l.sequence items).parts = items := by
  unfold Layout.sequence
  split
  · rfl
  · rfl

theorem same_sequence {xs ys : List Value} (h : List.Forall₂ (fun x y => x.same y = true) xs ys) :
    (l.sequence xs).same (l.sequence ys) = true := by
  unfold Layout.sequence
  split
  · exact same_list_iff.2 ⟨ys, rfl, h⟩
  · exact same_vector_iff.2 ⟨ys, rfl, h⟩

/-! ### Keys in a layout -/

/-- The keys of a map or the elements of a set stand in a relation, each to all after it. -/
def KeysApart (R : Value → Value → Prop) : Value → Prop
  | map _ entries => entries.Pairwise fun d e => R d.1.value e.1.value
  | set _ items => items.Pairwise fun x y => R x.value y.value
  | _ => True

theorem keysApart_differ_iff : KeysApart Differ v ↔ KeysDiffer v := by
  cases v <;> rfl

theorem KeysApart.imp {R S : Value → Value → Prop} (h : KeysApart R v)
    (step : ∀ j ∈ v.parts, ∀ k ∈ v.parts, R j k → S j k) : KeysApart S v := by
  cases v with
  | map t entries =>
    refine List.Pairwise.imp_of_mem (fun hd he => ?_) h
    exact step _ (key_mem_parts hd) _ (key_mem_parts he)
  | set t items =>
    refine List.Pairwise.imp_of_mem (fun hx hy => ?_) h
    exact step _ (element_mem_parts hx) _ (element_mem_parts hy)
  | _ => trivial

/-- Keys differ in a layout exactly if their layouts do. -/
theorem keysDiffer_layOut_iff :
    KeysDiffer (layOut l v) ↔ KeysApart (fun j k => Differ (layOut l j) (layOut l k)) v := by
  cases v with
  | map t entries =>
    rw [layOut_map]
    exact List.pairwise_map
  | set t items =>
    rw [layOut_set]
    exact List.pairwise_map
  | vector rep items =>
    rw [layOut_vector, Layout.sequence]
    split
    · exact Iff.rfl
    · exact Iff.rfl
  | _ => exact Iff.rfl

/-- The parts of a value in a layout are its parts in that layout, or as they were. -/
theorem exists_of_mem_parts_layOut {w : Value} (hw : w ∈ (layOut l v).parts) :
    ∃ u ∈ v.parts, w = layOut l u ∨ w = u := by
  cases v with
  | list items =>
    rw [layOut_list] at hw
    obtain ⟨u, hu, rfl⟩ := List.mem_map.1 hw
    exact ⟨u, hu, .inl rfl⟩
  | vector rep items =>
    rw [layOut_vector, parts_sequence] at hw
    obtain ⟨u, hu, rfl⟩ := List.mem_map.1 hw
    exact ⟨u, hu, .inl rfl⟩
  | map t entries =>
    rw [layOut_map] at hw
    refine forall_parts_map (P := fun w => ∃ u ∈ (map t entries).parts, w = layOut l u ∨ w = u).2
      (fun e' he' => ?_) w hw
    obtain ⟨e, he, rfl⟩ := List.mem_map.1 he'
    exact ⟨⟨_, key_mem_parts he, .inl rfl⟩, ⟨_, value_mem_parts he, .inl rfl⟩⟩
  | set t items =>
    rw [layOut_set] at hw
    obtain ⟨x', hx', rfl⟩ := List.mem_map.1 hw
    obtain ⟨x, hx, rfl⟩ := List.mem_map.1 hx'
    exact ⟨_, element_mem_parts hx, .inl rfl⟩
  | quoted form =>
    rw [layOut] at hw
    refine ⟨form, List.mem_singleton_self _, ?_⟩
    have hw := List.mem_singleton.1 hw
    split at hw
    · exact .inl hw
    · exact .inr hw
  | _ => exact absurd hw List.not_mem_nil

theorem wellKeyed_layOut_of_parts (inside : ∀ w ∈ v.parts, WellKeyed w ∧ WellKeyed (layOut l w))
    (here : KeysDiffer (layOut l v)) : WellKeyed (layOut l v) := by
  refine ⟨here, fun w hw => ?_⟩
  obtain ⟨u, hu, rfl | rfl⟩ := exists_of_mem_parts_layOut hw
  · exact (inside u hu).2
  · exact (inside w hu).1

/-! ### What is the same in every layout -/

theorem forall₂_same_map {xs ys : List Value} {f : Value → Value}
    (step : ∀ x ∈ xs, ∀ y ∈ ys, x.same y = true → (f x).same (f y) = true)
    (h : List.Forall₂ (fun x y => x.same y = true) xs ys) :
    List.Forall₂ (fun x y => x.same y = true) (xs.map f) (ys.map f) := by
  rw [List.forall₂_map_left_iff, List.forall₂_map_right_iff]
  exact forall₂_of_mem step h

/-- What is the same is the same in a layout that keeps keys apart. -/
theorem same_layOut (wa : WellKeyed (layOut l a)) (wb : WellKeyed (layOut l b))
    (h : a.same b = true) : (layOut l a).same (layOut l b) = true := by
  induction a using induction_on_parts generalizing b with
  | step a ih =>
    cases alike_of_same h with
    | list hs =>
      rw [layOut_list] at wa wb ⊢
      rw [layOut_list]
      refine same_list_iff.2 ⟨_, rfl, forall₂_same_map (fun x hx y hy => ?_) hs⟩
      exact ih x hx (wa.inside (List.mem_map_of_mem hx)) (wb.inside (List.mem_map_of_mem hy))
    | vector hs =>
      rw [layOut_vector] at wa wb ⊢
      rw [layOut_vector]
      refine same_sequence (forall₂_same_map (fun x hx y hy => ?_) hs)
      refine ih x hx (wa.inside ?_) (wb.inside ?_)
      · rw [parts_sequence]
        exact List.mem_map_of_mem hx
      · rw [parts_sequence]
        exact List.mem_map_of_mem hy
    | @map t u xs ys _ length within =>
      rw [layOut_map] at wa wb ⊢
      rw [layOut_map]
      refine same_map_of_matched rfl wa wb (by simpa using length)
        (List.forall_mem_map.2 fun d hd => ?_)
      -- the partner of `d` is, laid out, the partner of `d` laid out
      obtain ⟨e, he, hkey, hvalue⟩ := exists_of_entryWithin (entriesWithin_iff.1 within d hd)
      have hd' := List.mem_map_of_mem (f := fun e => (layOutItem l e.1, layOut l e.2)) hd
      have he' := List.mem_map_of_mem (f := fun e => (layOutItem l e.1, layOut l e.2)) he
      exact ⟨_, he', ih _ (key_mem_parts hd) (wa.key hd') (wb.key he') hkey,
        ih _ (value_mem_parts hd) (wa.value hd') (wb.value he') hvalue⟩
    | @set t u xs ys _ length within =>
      rw [layOut_set] at wa wb ⊢
      rw [layOut_set]
      refine same_set_iff.2 ⟨_, _, rfl, rfl, by simpa using length,
        elementsWithin_iff.2 (List.forall_mem_map.2 fun x hx => ?_)⟩
      obtain ⟨y, hy, hxy⟩ := elementsWithin_iff.1 within x hx
      have hx' := List.mem_map_of_mem (f := layOutItem l) hx
      have hy' := List.mem_map_of_mem (f := layOutItem l) hy
      exact ⟨_, hy', ih _ (element_mem_parts hx) (wa.element hx') (wb.element hy') hxy⟩
    | @quoted v w hs =>
      rw [layOut] at wa wb ⊢
      rw [layOut]
      refine same_quoted_iff.2 ⟨_, rfl, ?_⟩
      have wv := wa.inside (List.mem_singleton_self _)
      have ww := wb.inside (List.mem_singleton_self _)
      split at wv
      · next hquotes =>
        rw [if_pos hquotes] at ww ⊢
        rw [if_pos hquotes]
        exact ih v (by simp [parts]) wv ww hs
      · next hquotes =>
        -- the layout stops here, and what is quoted is compared as it is
        rw [if_neg hquotes, if_neg hquotes]
        exact hs
    | _ => exact h

/-- A value in another order is, in a layout, in another order. -/
theorem Reordered.layOut (h : Reordered a b) : Reordered (a.layOut l) (b.layOut l) := by
  induction h with
  | refl v => exact .refl _
  | trans _ _ ih₁ ih₂ => exact .trans ih₁ ih₂
  | list before after _ ih =>
    simp only [layOut_list, List.map_append, List.map_cons]
    exact .list _ _ ih
  | vector rep before after _ ih =>
    simp only [layOut_vector, Layout.sequence, List.map_append, List.map_cons]
    split
    · exact .list _ _ ih
    · exact .vector _ _ _ ih
  | entry t m m' before after _ _ ihk ihv =>
    simp only [layOut_map, List.map_append, List.map_cons]
    exact .entry _ _ _ _ _ ihk ihv
  | element t m m' before after _ ih =>
    simp only [layOut_set, List.map_append, List.map_cons]
    exact .element _ _ _ _ _ ih
  | @quoted v w h ih =>
    simp only [Value.layOut]
    split
    · exact .quoted ih
    · exact .quoted h
  | entries _ perm =>
    rw [layOut_map, layOut_map]
    exact .entries rfl (perm.map _)
  | elements _ perm =>
    rw [layOut_set, layOut_set]
    exact .elements rfl (perm.map _)

/-! ### Changing the representation everywhere -/

/-- A vector, map or set in the given representation, or something else. -/
def InRepresentation (rep : Representation) : Value → Prop
  | vector r _ => r = rep
  | map t _ | set t _ => t.rep = rep
  | _ => True

/-- All vectors, maps and sets are in one representation, at any depth. -/
def Uniform (rep : Representation) : Value → Prop := Everywhere (InRepresentation rep)

theorem map_eq_self {α : Type} {f : α → α} {xs : List α} (h : ∀ x ∈ xs, f x = x) :
    xs.map f = xs :=
  (List.map_congr_left h).trans (List.map_id xs)

/-- Changing the representation everywhere can be undone. -/
theorem layOut_layOut (h : Uniform rep v) : layOut (.of rep) (layOut (.of rep') v) = v := by
  induction h with
  | @intro v here inside ih =>
    cases v with
    | list items =>
      rw [layOut_list, layOut_list, List.map_map]
      exact congrArg list (map_eq_self ih)
    | vector r items =>
      obtain rfl := here
      rw [layOut_vector, Layout.sequence]
      simp only [Layout.of]
      rw [layOut_vector, List.map_map]
      exact congrArg (vector r) (map_eq_self ih)
    | map t entries =>
      obtain rfl := here
      rw [layOut_map, layOut_map, List.map_map]
      refine congrArg (map t) (map_eq_self fun e he => ?_)
      exact Prod.ext (congrArg (Filed.mk · e.1.mark) (ih _ (key_mem_parts he)))
        (ih _ (value_mem_parts he))
    | set t items =>
      obtain rfl := here
      rw [layOut_set, layOut_set, List.map_map]
      refine congrArg (set t) (map_eq_self fun x hx => ?_)
      exact congrArg (Filed.mk · x.mark) (ih _ (element_mem_parts hx))
    | quoted form => exact congrArg quoted (ih form (by simp [parts]))
    | _ => rfl

/-- Keys that differ go on to differ when the representation is changed everywhere. -/
theorem Uniform.wellKeyed_layOut (h : Uniform rep v) (wv : WellKeyed v) :
    WellKeyed (layOut (.of rep') v) := by
  induction h with
  | @intro v here inside ih =>
    have inside' : ∀ w ∈ v.parts, WellKeyed w ∧ WellKeyed (layOut (.of rep') w) :=
      fun w hw => ⟨wv.inside hw, ih w hw (wv.inside hw)⟩
    refine wellKeyed_layOut_of_parts inside' (keysDiffer_layOut_iff.2
      ((keysApart_differ_iff.2 wv.here).imp fun j hj k hk differ => ?_))
    -- were they the same now, they would be the same again once the change is undone
    have undone : ∀ {j k : Value}, j ∈ v.parts → k ∈ v.parts → j.same k = false →
        (layOut (.of rep') j).same (layOut (.of rep') k) = false := by
      intro j k hj hk hjk
      by_contra hsame
      have hback : layOut (.of rep) (layOut (.of rep') j) = j := layOut_layOut (inside j hj)
      have hback' : layOut (.of rep) (layOut (.of rep') k) = k := layOut_layOut (inside k hk)
      have := same_layOut (l := .of rep) (by rw [hback]; exact wv.inside hj)
        (by rw [hback']; exact wv.inside hk) (by simpa using hsame)
      rw [hback, hback', hjk] at this
      cases this
    exact ⟨undone hj hk differ.1, undone hk hj differ.2⟩

/-- Changing the representation everywhere keeps what is the same and what is not. -/
theorem Uniform.same_layOut_eq (ha : Uniform rep a) (hb : Uniform rep b) (wa : WellKeyed a)
    (wb : WellKeyed b) : (layOut (.of rep') a).same (layOut (.of rep') b) = a.same b := by
  have hback : layOut (.of rep) (layOut (.of rep') a) = a := layOut_layOut ha
  have hback' : layOut (.of rep) (layOut (.of rep') b) = b := layOut_layOut hb
  rw [Bool.eq_iff_iff]
  refine ⟨fun h => ?_, same_layOut (ha.wellKeyed_layOut wa) (hb.wellKeyed_layOut wb)⟩
  have := same_layOut (l := .of rep) (by rwa [hback]) (by rwa [hback']) h
  rwa [hback, hback'] at this

end Lisp.Value
