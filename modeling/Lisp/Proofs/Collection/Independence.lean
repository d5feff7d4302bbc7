import Lisp.Proofs.Collection.Congruence
import Lisp.Proofs.Value.Conversion

/-!
# The representation of collections does not matter

Native and persistent collections are one data type, as far as keys are found. An operation in one
mode, on values held in its representation, and the same operation in the other mode, on
counterparts, answer with counterparts, or complain alike. So does every sequence of operations,
each on what the ones before it have left: what is made, looked up and taken apart goes on to
correspond. Only where the elements of a map or a set are listed the two sides may list them in
different orders.

A key that is not found any more, such as a map of an object that has been changed, tells the two
apart: a native table files its keys anew when it makes room, and a persistent one does not.

## Main definitions

* `Collection.Operation`, `Collection.perform` — one operation on operands
* `Collection.run` — operations one after the other, each on the results of earlier ones
* `Collection.Operation.Fits`, `Collection.RunFits` — what becomes a key serves as one, and no
  elements are listed that stand in no order
* `Collection.Answers` — two sides that answer alike or complain alike
* `Collection.Mirrored` — objects that have counterparts in their fields

## Main results

* `Collection.perform_counterparts` — one operation
* `Collection.run_counterparts` — any composition
* `Collection.representation_independent` — values converted to the other representation
* `Collection.stale_key_found_natively` — but for keys that are not found
-/

namespace Lisp

namespace Collection

open Value

/-! ### Operations and their compositions -/

/-- An operation on collections, with its operands. -/
inductive Operation (α : Type) where
  | list (xs : List α)
  | vector (xs : List α)
  | hashMap (entries : List (α × α))
  | hashSet (xs : List α)
  | count (coll : α)
  | get (coll key : α)
  | contains (coll key : α)
  | assoc (coll key value : α)
  | dissoc (coll key : α)
  | merge (colls : List α)
  | conj (coll item : α)
  | items (coll : α)
  | first (coll : α)
  | rest (coll : α)
  | nth (coll : α) (index : Nat)
  | cons (item coll : α)
  | concat (colls : List α)

/-- An operation on other operands. -/
def Operation.map {α β : Type} (f : α → β) : Operation α → Operation β
  | list xs => .list (xs.map f)
  | vector xs => .vector (xs.map f)
  | hashMap entries => .hashMap (entries.map fun e => (f e.1, f e.2))
  | hashSet xs => .hashSet (xs.map f)
  | count coll => .count (f coll)
  | get coll key => .get (f coll) (f key)
  | contains coll key => .contains (f coll) (f key)
  | assoc coll key value => .assoc (f coll) (f key) (f value)
  | dissoc coll key => .dissoc (f coll) (f key)
  | merge colls => .merge (colls.map f)
  | conj coll item => .conj (f coll) (f item)
  | items coll => .items (f coll)
  | first coll => .first (f coll)
  | rest coll => .rest (f coll)
  | nth coll index => .nth (f coll) index
  | cons item coll => .cons (f item) (f coll)
  | concat colls => .concat (colls.map f)

/-- The collections whose elements an operation lists in order. -/
def Operation.listed {α : Type} : Operation α → List α
  | items coll | first coll | rest coll | nth coll _ | cons _ coll => [coll]
  | concat colls => colls
  | _ => []

/-- What an operation answers. -/
inductive Answer where
  | value (v : Value)
  | values (vs : List Value)
  | size (n : Nat)
  | truth (b : Bool)

/-- The values in an answer. -/
def Answer.results : Answer → List Value
  | value v => [v]
  | values vs => vs
  | size n => [.number (.ofNat n)]
  | truth b => [.bool b]

variable [Tables]

/-- The answer of an operation in a mode. -/
def perform (h : Heap) (mode : Representation) : Operation Value → Except Cause Answer
  | .list xs => .ok (.value (.list xs))
  | .vector xs => .ok (.value (.vector mode xs))
  | .hashMap entries => .ok (.value (.mapOf h.text mode entries))
  | .hashSet xs => .ok (.value (.setOf h.text mode xs))
  | .count coll => return .size (← count coll)
  | .get coll key => .ok (.value (get h coll key))
  | .contains coll key => .ok (.truth (contains h coll key))
  | .assoc coll key value => return .value (← assoc h mode coll key value)
  | .dissoc coll key => return .value (← dissoc h coll key)
  | .merge colls => return .value (← merge h mode colls)
  | .conj coll item => return .value (← conj h mode coll item)
  | .items coll => return .values (← items h mode coll)
  | .first coll => return .value (← first h mode coll)
  | .rest coll => return .value (← rest h mode coll)
  | .nth coll index => return .value (← nth h mode coll index)
  | .cons item coll => return .value (← cons h mode item coll)
  | .concat colls => return .value (← concat h mode colls)

/-- An operation whose operands are given by their places among the results so far. -/
def Operation.on (op : Operation Nat) (results : List Value) : Operation Value :=
  op.map fun place => results.getD place .nil

/-- The results of operations, each on the results of those before it. -/
def run (h : Heap) (mode : Representation) :
    List (Operation Nat) → List Value → Except Cause (List Value)
  | [], results => .ok results
  | op :: ops, results => do
    let answer ← perform h mode (op.on results)
    run h mode ops (results ++ answer.results)

/-- A map or a set. -/
def Unordered : Value → Prop
  | .map .. | .set .. => True
  | _ => False

/-- The operands of an operation that become keys. -/
def Operation.keys : Operation Value → List Value
  | hashMap entries => entries.map (·.1)
  | hashSet xs => xs
  | assoc .nil key _ | assoc (.map ..) key _ => [key]
  | conj (.set ..) item => [item]
  | conj (.map ..) item =>
    match item.sequence? with
    | some [key, _] => [key]
    | _ => []
  | _ => []

/-- An operation that lists no elements of a map or a set, and uses as keys what is filed like
everything the same as it. -/
structure Operation.Fits (text : Entity → String) (op : Operation Value) : Prop where
  ordered : ∀ coll ∈ op.listed, ¬ Unordered coll
  steady : ∀ key ∈ op.keys, Steady text key

/-- Operations that fit as they come, each on the results of those before it. -/
def RunFits (h : Heap) (mode : Representation) : List (Operation Nat) → List Value → Prop
  | [], _ => True
  | op :: ops, results =>
    (op.on results).Fits h.text ∧
      match perform h mode (op.on results) with
      | .ok answer => RunFits h mode ops (results ++ answer.results)
      | .error _ => True

/-! ### Answers that agree -/

/-- The side of values that are held in a representation, with the texts of a heap. -/
abbrev side (h : Heap) (rep : Representation) : Side := ⟨h.text, rep⟩

/-- The complaints about an operand of the wrong kind. -/
def complaints : List (String → Mismatch) :=
  [.notSequence, .notAssociative, .notDissociative, .notMergeable, .notConjoinable]

/-- What two sides answer: results that are related, the same complaint, or the same complaint about
an operand and about its counterpart. -/
inductive Answers {α β : Type} (h h' : Heap) (rep rep' : Representation) (R : α → β → Prop) :
    Except Cause α → Except Cause β → Prop where
  | value {a : α} {b : β} (related : R a b) : Answers h h' rep rep' R (.ok a) (.ok b)
  | complaint (c : Cause) : Answers h h' rep rep' R (.error c) (.error c)
  | about {complain : String → Mismatch} (known : complain ∈ complaints) {v w : Value}
      (operand : Counterpart (side h rep) (side h' rep') v w) :
    Answers h h' rep rep' R (.error (.mismatch (complain (h.print v))))
      (.error (.mismatch (complain (h'.print w))))

section Answers

variable {α β γ δ : Type} {h h' : Heap} {rep rep' : Representation} {R : α → β → Prop}
  {S : γ → δ → Prop}

theorem Answers.bind {x : Except Cause α} {y : Except Cause β} {f : α → Except Cause γ}
    {g : β → Except Cause δ} (first : Answers h h' rep rep' R x y)
    (next : ∀ a b, R a b → Answers h h' rep rep' S (f a) (g b)) :
    Answers h h' rep rep' S (x >>= f) (y >>= g) := by
  cases first with
  | value related => exact next _ _ related
  | complaint c => exact .complaint c
  | about known operand => exact .about known operand

theorem Answers.foldlM {f : γ → α → Except Cause γ} {g : δ → β → Except Cause δ}
    (step : ∀ c d a b, S c d → R a b → Answers h h' rep rep' S (f c a) (g d b)) {xs : List α}
    {ys : List β} (hxs : List.Forall₂ R xs ys) {c : γ} {d : δ} (start : S c d) :
    Answers h h' rep rep' S (xs.foldlM f c) (ys.foldlM g d) := by
  induction hxs generalizing c d with
  | nil => exact .value start
  | cons hxy _ ih =>
    rw [List.foldlM_cons, List.foldlM_cons]
    exact (step _ _ _ _ start hxy).bind fun _ _ hcd => ih hcd

theorem Answers.mapM {f : α → Except Cause γ} {g : β → Except Cause δ} {xs : List α} {ys : List β}
    (hxs : List.Forall₂ (fun x y => Answers h h' rep rep' S (f x) (g y)) xs ys) :
    Answers h h' rep rep' (List.Forall₂ S) (xs.mapM f) (ys.mapM g) := by
  induction hxs with
  | nil => exact .value .nil
  | cons hxy _ ih =>
    rw [List.mapM_cons, List.mapM_cons]
    exact hxy.bind fun _ _ head => ih.bind fun _ _ tail => .value (.cons head tail)

end Answers

/-- Answers whose values are counterparts. -/
inductive AnswersMatch (s s' : Side) : Answer → Answer → Prop where
  | value {v w : Value} (related : Counterpart s s' v w) : AnswersMatch s s' (.value v) (.value w)
  | values {vs ws : List Value} (related : List.Forall₂ (Counterpart s s') vs ws) :
    AnswersMatch s s' (.values vs) (.values ws)
  | size (n : Nat) : AnswersMatch s s' (.size n) (.size n)
  | truth (b : Bool) : AnswersMatch s s' (.truth b) (.truth b)

theorem AnswersMatch.results {s s' : Side} {a b : Answer} (h : AnswersMatch s s' a b) :
    List.Forall₂ (Counterpart s s') a.results b.results := by
  cases h with
  | value related => exact .cons related .nil
  | values related => exact related
  | size n => exact .cons (.number _) .nil
  | truth b => exact .cons (.bool b) .nil

/-- Objects that have counterparts in their fields. -/
def Mirrored (h h' : Heap) (rep rep' : Representation) : Prop :=
  ∀ r name, Option.Rel (Counterpart (side h rep) (side h' rep')) ((h.object r).fields.get? name)
    ((h'.object r).fields.get? name)

/-! ### One operation at a time -/

section Operations

variable {h h' : Heap} {rep rep' : Representation} {c c' k k' v v' : Value}

theorem getD_counterpart {s s' : Side} {o o' : Option Value}
    (ho : Option.Rel (Counterpart s s') o o') : Counterpart s s' (o.getD nil) (o'.getD nil) := by
  cases ho with
  | none => exact .nil
  | some related => exact related

theorem indexOf?_counterpart {s s' : Side} (hk : Counterpart s s' k k') :
    indexOf? k = indexOf? k' := by
  cases hk.facing with
  | number same => exact Number.toIndex?_congr same
  | _ => rfl

theorem count_counterpart {s s' : Side} (hc : Counterpart s s' c c') : count c = count c' := by
  cases hc.facing with
  | list related | vector related => exact congrArg Except.ok related.length_eq
  | map related => exact congrArg Except.ok related.length_eq
  | set related =>
    have length := (Counterpart.set_iff.1 related).length_eq
    rw [List.length_map, List.length_map] at length
    exact congrArg Except.ok length
  | _ => rfl

theorem contains_counterpart (hc : Counterpart (side h rep) (side h' rep') c c')
    (hk : Counterpart (side h rep) (side h' rep') k k') : contains h c k = contains h' c' k' := by
  cases hc.facing with
  | map related => exact isSome_eq_of_rel (related.found hk)
  | set related => exact related.has hk
  | vector related => simp only [contains, indexOf?_counterpart hk, related.length_eq]
  | _ => rfl

theorem get_counterpart (mirrored : Mirrored h h' rep rep')
    (hc : Counterpart (side h rep) (side h' rep') c c')
    (hk : Counterpart (side h rep) (side h' rep') k k') :
    Counterpart (side h rep) (side h' rep') (get h c k) (get h' c' k') := by
  cases hc.facing with
  | map related => exact getD_counterpart (related.found hk)
  | set related =>
    have found := related.has hk
    simp only [get, found]
    split
    · exact hk
    · exact .nil
  | vector related =>
    simp only [get, indexOf?_counterpart hk]
    cases indexOf? k' with
    | none => exact .nil
    | some i => exact getD_counterpart (rel_getElem? related i)
  | string t =>
    simp only [get, indexOf?_counterpart hk]
    cases (indexOf? k').bind ((Text.graphemes t)[·]?) with
    | none => exact .nil
    | some g => exact .string g
  | entity e =>
    cases e with
    | object r =>
      cases hk.facing with
      | keyword name => exact getD_counterpart (mirrored r name.base)
      | string t => exact getD_counterpart (mirrored r t)
      | _ => exact .nil
    | _ => exact .nil
  | _ => exact .nil

theorem assoc_counterpart (hc : Counterpart (side h rep) (side h' rep') c c')
    (hk : Counterpart (side h rep) (side h' rep') k k')
    (hv : Counterpart (side h rep) (side h' rep') v v')
    (steady : ∀ j ∈ (Operation.assoc c k v).keys, Steady h.text j)
    (steady' : ∀ j ∈ (Operation.assoc c' k' v').keys, Steady h'.text j) :
    Answers h h' rep rep' (Counterpart (side h rep) (side h' rep')) (assoc h rep c k v)
      (assoc h' rep' c' k' v') := by
  cases hc.facing with
  | nil =>
    exact .value (Counterpart.insert (a := .opened rep 1) (b := .opened rep' 1)
      (.map_empty rfl rfl) hk (steady k (.head _)) (steady' k' (.head _)) hv)
  | map related =>
    exact .value (Counterpart.insert (a := ⟨_, _⟩) (b := ⟨_, _⟩) related hk
      (steady k (.head _)) (steady' k' (.head _)) hv)
  | vector related =>
    -- both vectors have one length, so the place is inside both, right behind both or beyond
    simp only [assoc, indexOf?_counterpart hk, related.length_eq]
    split
    · exact .complaint _
    · split
      · exact .value (.vector (forall₂_set related hv _))
      · split
        · exact .value (.vector (List.rel_append related (.cons hv .nil)))
        · exact .complaint _
  | _ => exact .about (by simp [complaints]) hc

theorem dissoc_counterpart (hc : Counterpart (side h rep) (side h' rep') c c')
    (hk : Counterpart (side h rep) (side h' rep') k k') :
    Answers h h' rep rep' (Counterpart (side h rep) (side h' rep')) (dissoc h c k)
      (dissoc h' c' k') := by
  cases hc.facing with
  | nil => exact .value .nil
  | map related => exact .value (Counterpart.erase (a := ⟨_, _⟩) (b := ⟨_, _⟩) related hk)
  | _ => exact .about (by simp [complaints]) hc

/-- What maps are merged into: nothing or a map. -/
def Merged : Value → Prop
  | .nil | .map .. => True
  | _ => False

theorem foldlM_assoc (h : Heap) (mode : Representation) (s : Shelf)
    (ds : List (Filed Value × Value)) :
    ds.foldlM (fun m e => assoc h mode m e.1.value e.2) s.toMap =
      .ok (s.insertAll h.text (ds.map fun d => (d.1.value, d.2))).toMap := by
  induction ds generalizing s with
  | nil => rfl
  | cons d ds ih => exact ih _

theorem mergeInto_counterpart
    (hv : Counterpart (side h rep) (side h' rep') v v' ∧ Merged v)
    (hc : Counterpart (side h rep) (side h' rep') c c') :
    Answers h h' rep rep' (fun v v' => Counterpart (side h rep) (side h' rep') v v' ∧ Merged v)
      (mergeInto h rep v c) (mergeInto h' rep' v' c') := by
  cases hc.facing with
  | nil => exact .value hv
  | map related =>
    cases hv.1.facing with
    | nil => exact .value ⟨hc, trivial⟩
    | @map t u xs ys old =>
      -- the entries go in one by one, in whatever order each table lists them
      have merged := Counterpart.insertEntries (a := ⟨t, xs⟩) (b := ⟨u, ys⟩) old related
      have left := foldlM_assoc h rep ⟨t, xs⟩
      have right := foldlM_assoc h' rep' ⟨u, ys⟩
      simp only [Shelf.toMap] at left right
      simp only [mergeInto, left, right]
      exact .value ⟨merged, trivial⟩
    | _ => exact absurd hv.2 id
  | _ => exact .about (by simp [complaints]) hc

theorem merge_counterpart {cs cs' : List Value}
    (hcs : List.Forall₂ (Counterpart (side h rep) (side h' rep')) cs cs') :
    Answers h h' rep rep' (fun v v' => Counterpart (side h rep) (side h' rep') v v' ∧ Merged v)
      (merge h rep cs) (merge h' rep' cs') := by
  have step (v v' c c' : Value) (hv : Counterpart (side h rep) (side h' rep') v v' ∧ Merged v)
      (hc : Counterpart (side h rep) (side h' rep') c c') := mergeInto_counterpart hv hc
  unfold merge
  exact Answers.foldlM step hcs ⟨.nil, trivial⟩

theorem sequence?_counterpart {s s' : Side} (hv : Counterpart s s' v v') :
    Option.Rel (List.Forall₂ (Counterpart s s')) v.sequence? v'.sequence? := by
  cases hv.facing with
  | list related | vector related => exact .some related
  | _ => exact .none

theorem conj_counterpart (hc : Counterpart (side h rep) (side h' rep') c c')
    (hv : Counterpart (side h rep) (side h' rep') v v')
    (steady : ∀ j ∈ (Operation.conj c v).keys, Steady h.text j)
    (steady' : ∀ j ∈ (Operation.conj c' v').keys, Steady h'.text j) :
    Answers h h' rep rep' (Counterpart (side h rep) (side h' rep')) (conj h rep c v)
      (conj h' rep' c' v') := by
  cases hc.facing with
  | nil => exact .value (.list (.cons hv .nil))
  | list related => exact .value (.list (.cons hv related))
  | vector related => exact .value (.vector (List.rel_append related (.cons hv .nil)))
  | set related =>
    exact .value (related.insertElement hv (steady v (.head _)) (steady' v' (.head _)))
  | map related =>
    have pairs := sequence?_counterpart hv
    simp only [conj, Operation.keys] at steady steady' ⊢
    generalize v.sequence? = o at pairs steady ⊢
    generalize v'.sequence? = o' at pairs steady' ⊢
    cases pairs with
    | none => exact .complaint _
    | some rows =>
      -- rows that correspond have one length, and only two elements make an entry
      cases rows with
      | nil => exact .complaint _
      | cons key rows =>
        cases rows with
        | nil => exact .complaint _
        | cons value rows =>
          cases rows with
          | nil => exact assoc_counterpart hc key value steady steady'
          | cons _ _ => exact .complaint _
  | _ => exact .about (by simp [complaints]) hc

/-! Listing elements keeps their order where there is one. -/

theorem items_counterpart (hc : Counterpart (side h rep) (side h' rep') c c')
    (ordered : ¬ Unordered c) :
    Answers h h' rep rep' (List.Forall₂ (Counterpart (side h rep) (side h' rep')))
      (items h rep c) (items h' rep' c') := by
  cases hc.facing with
  | nil => exact .value .nil
  | list related | vector related => exact .value related
  | map _ | set _ => exact absurd trivial ordered
  | string t =>
    refine .value ?_
    rw [List.forall₂_map_left_iff, List.forall₂_map_right_iff]
    exact List.forall₂_same.2 fun g _ => .string g
  | _ => exact .about (by simp [complaints]) hc

omit [Tables] in
theorem first_eq (h : Heap) (mode : Representation) (c : Value) :
    first h mode c = do return (← items h mode c).head?.getD .nil := by
  cases c <;> rfl

omit [Tables] in
theorem nth_eq (h : Heap) (mode : Representation) (c : Value) (i : Nat) :
    nth h mode c i = do return (← items h mode c)[i]?.getD .nil := by
  cases c <;> rfl

theorem nth_counterpart (hc : Counterpart (side h rep) (side h' rep') c c')
    (ordered : ¬ Unordered c) (i : Nat) :
    Answers h h' rep rep' (Counterpart (side h rep) (side h' rep')) (nth h rep c i)
      (nth h' rep' c' i) := by
  rw [nth_eq, nth_eq]
  exact (items_counterpart hc ordered).bind fun _ _ related =>
    .value (getD_counterpart (rel_getElem? related i))

theorem first_counterpart (hc : Counterpart (side h rep) (side h' rep') c c')
    (ordered : ¬ Unordered c) :
    Answers h h' rep rep' (Counterpart (side h rep) (side h' rep')) (first h rep c)
      (first h' rep' c') := by
  rw [first_eq, first_eq]
  refine (items_counterpart hc ordered).bind fun xs ys related => .value ?_
  rw [List.head?_eq_getElem?, List.head?_eq_getElem?]
  exact getD_counterpart (rel_getElem? related 0)

theorem rest_counterpart (hc : Counterpart (side h rep) (side h' rep') c c')
    (ordered : ¬ Unordered c) :
    Answers h h' rep rep' (Counterpart (side h rep) (side h' rep')) (rest h rep c)
      (rest h' rep' c') :=
  (items_counterpart hc ordered).bind fun _ _ related =>
    .value (.list (List.forall₂_drop 1 related))

theorem cons_counterpart (hv : Counterpart (side h rep) (side h' rep') v v')
    (hc : Counterpart (side h rep) (side h' rep') c c') (ordered : ¬ Unordered c) :
    Answers h h' rep rep' (Counterpart (side h rep) (side h' rep')) (cons h rep v c)
      (cons h' rep' v' c') :=
  (items_counterpart hc ordered).bind fun _ _ related => .value (.list (.cons hv related))

theorem flatten_counterpart {s s' : Side} {rows rows' : List (List Value)}
    (hrows : List.Forall₂ (List.Forall₂ (Counterpart s s')) rows rows') :
    List.Forall₂ (Counterpart s s') rows.flatten rows'.flatten := by
  induction hrows with
  | nil => exact .nil
  | cons head _ ih => exact List.rel_append head ih

theorem concat_counterpart {cs cs' : List Value}
    (hcs : List.Forall₂ (Counterpart (side h rep) (side h' rep')) cs cs')
    (ordered : ∀ c ∈ cs, ¬ Unordered c) :
    Answers h h' rep rep' (Counterpart (side h rep) (side h' rep')) (concat h rep cs)
      (concat h' rep' cs') := by
  refine (Answers.mapM ?_).bind fun _ _ rows => .value (.list (flatten_counterpart rows))
  induction hcs with
  | nil => exact .nil
  | cons hc _ ih =>
    rw [List.forall_mem_cons] at ordered
    exact .cons (items_counterpart hc ordered.1) (ih ordered.2)

end Operations

/-! ### Any operation, and any number of them -/

section Runs

variable {h h' : Heap} {rep rep' : Representation}

/-- One operation, on operands that have counterparts. -/
theorem perform_counterparts {α : Type} {f g : α → Value} (mirrored : Mirrored h h' rep rep')
    (hfg : ∀ a, Counterpart (side h rep) (side h' rep') (f a) (g a)) (op : Operation α)
    (fits : (op.map f).Fits h.text) (fits' : (op.map g).Fits h'.text) :
    Answers h h' rep rep' (AnswersMatch (side h rep) (side h' rep')) (perform h rep (op.map f))
      (perform h' rep' (op.map g)) := by
  have operands (xs : List α) :
      List.Forall₂ (Counterpart (side h rep) (side h' rep')) (xs.map f) (xs.map g) := by
    rw [List.forall₂_map_left_iff, List.forall₂_map_right_iff]
    exact List.forall₂_same.2 fun a _ => hfg a
  cases op with
  | list xs => exact .value (.value (.list (operands xs)))
  | vector xs => exact .value (.value (.vector (operands xs)))
  | hashMap entries =>
    refine .value (.value (.mapOf ?_ (List.forall_mem_map.1 fits.steady)
      (List.forall_mem_map.1 fits'.steady)))
    rw [List.forall₂_map_left_iff, List.forall₂_map_right_iff]
    exact List.forall₂_same.2 fun e _ => ⟨hfg e.1, hfg e.2⟩
  | hashSet xs =>
    exact .value (.value (.setOf (operands xs) fits.steady fits'.steady))
  | count coll =>
    simp only [Operation.map, perform, count_counterpart (hfg coll)]
    cases count (g coll) with
    | ok n => exact .value (.size n)
    | error c => exact .complaint c
  | get coll key => exact .value (.value (get_counterpart mirrored (hfg coll) (hfg key)))
  | contains coll key =>
    simp only [Operation.map, perform, contains_counterpart (hfg coll) (hfg key)]
    exact .value (.truth _)
  | assoc coll key value =>
    exact (assoc_counterpart (hfg coll) (hfg key) (hfg value) fits.steady fits'.steady).bind
      fun _ _ r => .value (.value r)
  | dissoc coll key =>
    exact (dissoc_counterpart (hfg coll) (hfg key)).bind fun _ _ r => .value (.value r)
  | merge colls => exact (merge_counterpart (operands colls)).bind fun _ _ r => .value (.value r.1)
  | conj coll item =>
    exact (conj_counterpart (hfg coll) (hfg item) fits.steady fits'.steady).bind
      fun _ _ r => .value (.value r)
  | items coll =>
    exact (items_counterpart (hfg coll) (fits.ordered _ (.head _))).bind fun _ _ r =>
      .value (.values r)
  | first coll =>
    exact (first_counterpart (hfg coll) (fits.ordered _ (.head _))).bind
      fun _ _ r => .value (.value r)
  | rest coll =>
    exact (rest_counterpart (hfg coll) (fits.ordered _ (.head _))).bind
      fun _ _ r => .value (.value r)
  | nth coll index =>
    exact (nth_counterpart (hfg coll) (fits.ordered _ (.head _)) index).bind fun _ _ r =>
      .value (.value r)
  | cons item coll =>
    exact (cons_counterpart (hfg item) (hfg coll) (fits.ordered _ (.head _))).bind fun _ _ r =>
      .value (.value r)
  | concat colls =>
    exact (concat_counterpart (operands colls) fits.ordered).bind fun _ _ r => .value (.value r)

/-- Operations one after the other, on results that have counterparts. -/
theorem run_counterparts (mirrored : Mirrored h h' rep rep') {ops : List (Operation Nat)}
    {results results' : List Value} (fits : RunFits h rep ops results)
    (fits' : RunFits h' rep' ops results')
    (hresults : List.Forall₂ (Counterpart (side h rep) (side h' rep')) results results') :
    Answers h h' rep rep' (List.Forall₂ (Counterpart (side h rep) (side h' rep')))
      (run h rep ops results) (run h' rep' ops results') := by
  induction ops generalizing results results' with
  | nil => exact .value hresults
  | cons op ops ih =>
    -- operands are results so far, and places that do not exist stand for nil on both sides
    have operand (place : Nat) : Counterpart (side h rep) (side h' rep')
        (results.getD place .nil) (results'.getD place .nil) := by
      rw [List.getD_eq_getElem?_getD, List.getD_eq_getElem?_getD]
      exact getD_counterpart (rel_getElem? hresults place)
    have step := perform_counterparts mirrored operand op fits.1 fits'.1
    have next := fits.2
    have next' := fits'.2
    simp only [run, Operation.on] at next next' ⊢
    generalize perform h rep (op.map fun place => results.getD place .nil) = x at step next ⊢
    generalize perform h' rep' (op.map fun place => results'.getD place .nil) = y at step next' ⊢
    cases step with
    | value related => exact ih next next' (List.rel_append hresults related.results)
    | complaint c => exact .complaint c
    | about known operand => exact .about known operand

/-- The two representations are one data type, as far as keys are found. A value converted to the
other representation is a counterpart, and all counterparts of a value are equal to it. Operations
on counterparts, in the one mode and in the other, answer with counterparts or complain alike, and
so does every composition of operations. -/
theorem representation_independent (mirrored : Mirrored h h' rep rep') :
    (∀ v, Held (side h rep) v → Everywhere (KeysSteady h'.text) (v.layOut (.of rep')) →
      Counterpart (side h rep) (side h' rep') v (v.converted h'.text rep')) ∧
    (∀ v w, Counterpart (side h rep) (side h' rep') v w →
      (v.converted h'.text rep').agrees h'.text w = true ∧
        w.agrees h'.text (v.converted h'.text rep') = true) ∧
    (∀ {α : Type} (f g : α → Value),
      (∀ a, Counterpart (side h rep) (side h' rep') (f a) (g a)) →
      ∀ op : Operation α, (op.map f).Fits h.text → (op.map g).Fits h'.text →
        Answers h h' rep rep' (AnswersMatch (side h rep) (side h' rep'))
          (perform h rep (op.map f)) (perform h' rep' (op.map g))) ∧
    ∀ ops results results',
      List.Forall₂ (Counterpart (side h rep) (side h' rep')) results results' →
      RunFits h rep ops results → RunFits h' rep' ops results' →
        Answers h h' rep rep' (List.Forall₂ (Counterpart (side h rep) (side h' rep')))
          (run h rep ops results) (run h' rep' ops results') :=
  ⟨fun _ held steady => .of_held held steady, fun _ _ related => related.agrees,
    fun _ _ related op fits fits' => perform_counterparts mirrored related op fits fits',
    fun _ _ _ related fits fits' => run_counterparts mirrored fits fits' related⟩

end Runs

end Collection

namespace Collection

open Value

/-- A vector from an object becomes a key, then its elements are listed. -/
theorem representation_independent_field :
    let vector (rep : Representation) : Value := .vector rep [.number .zero]
    let h (rep : Representation) : Heap :=
      { objects := #[{ type := ⟨0⟩, fields := ⟨[("f", vector rep)]⟩ }] }
    let ops : List (Operation Nat) := [.get 0 1, .hashMap [(2, 1)], .get 3 2, .first 2]
    let values : List Value := [.entity (.object ⟨0⟩), .kw "f"]
    Mirrored (h .native) (h .persistent) .native .persistent ∧
      RunFits (h .native) .native ops values ∧ RunFits (h .persistent) .persistent ops values ∧
      run (h .persistent) .persistent ops values =
        .ok (values ++ [vector .persistent,
          .mapOf (h .persistent).text .persistent [(vector .persistent, .kw "f")], .kw "f",
          .number .zero]) ∧
      Answers (h .native) (h .persistent) .native .persistent
        (List.Forall₂ (Counterpart (side (h .native) .native) (side (h .persistent) .persistent)))
        (run (h .native) .native ops values) (run (h .persistent) .persistent ops values) := by
  intro vector h ops values
  have leaf {s : Side} {v : Value} (here : InRepresentation s.rep v ∧ KeysDiffer v ∧
      KeysReliable s.text v) (parts : v.parts = []) : Held s v :=
    .of_parts here.1 here.2.1 here.2.2 (by simp [parts])
  have mirrored : Mirrored (h .native) (h .persistent) .native .persistent := by
    intro r name
    match r with
    | ⟨0⟩ =>
      change Option.Rel _ (List.lookup name [("f", vector .native)])
        (List.lookup name [("f", vector .persistent)])
      rw [Dict.lookup_cons_eq_ite, Dict.lookup_cons_eq_ite]
      split
      · exact .some (.vector (.cons (.number _) .nil))
      · exact .none
    | ⟨_ + 1⟩ => exact .none
  have object : Counterpart (side (h .native) .native) (side (h .persistent) .persistent)
      (.entity (.object ⟨0⟩)) (.entity (.object ⟨0⟩)) :=
    ⟨leaf ⟨trivial, trivial, trivial⟩ rfl, leaf ⟨trivial, trivial, trivial⟩ rfl, by
      simp [layOut, Value.same]⟩
  have name : Counterpart (side (h .native) .native) (side (h .persistent) .persistent)
      (.kw "f") (.kw "f") :=
    ⟨leaf ⟨trivial, trivial, trivial⟩ rfl, leaf ⟨trivial, trivial, trivial⟩ rfl, by
      simp [layOut, Value.same, Value.kw]⟩
  -- a row of numbers is filed by them, whatever the representation
  have steady (rep : Representation) : Steady (h rep).text (vector rep) := by
    have held : Held (side (h rep) rep) (vector rep) := .vector (by simpa using .number _)
    have flat : Flat (vector rep) := .vector (List.forall_mem_singleton.2
      (.atom rfl (by rintro _ ⟨⟩; rfl)))
    exact (flat.reliable held.wellKeyed (held.keys.mono keysFound_of_keysReliable)).steady
  have none {text : Entity → String} {op : Operation Value} (listed : op.listed = [])
      (keys : op.keys = []) : op.Fits text := ⟨by simp [listed], by simp [keys]⟩
  have fits (rep : Representation) : RunFits (h rep) rep ops values := by
    refine ⟨none rfl rfl, ⟨by simp [Operation.listed, Operation.on, Operation.map], ?_⟩,
      none rfl rfl, ⟨?_, by simp [Operation.keys, Operation.on, Operation.map]⟩, ?_⟩
    · exact List.forall_mem_singleton.2 (steady rep)
    · exact List.forall_mem_singleton.2 id
    · trivial
  refine ⟨mirrored, fits _, fits _, rfl, ?_⟩
  exact (representation_independent mirrored).2.2.2 ops values values
    (.cons object (.cons name .nil)) (fits _) (fits _)

/-- A map of an object is a key when the object is changed. Then the native map makes room for
another entry, which files all keys anew, and finds the key again. Its counterpart does not. -/
theorem stale_key_found_natively :
    let before : Heap := { objects := #[⟨⟨0⟩, .ofPairs [("a", .bool true)]⟩] }
    let h : Heap := { objects := #[⟨⟨0⟩, .ofPairs [("a", .bool false)]⟩] }
    let k (rep : Representation) : Value :=
      .mapOf before.text rep [(.kw "o", .entity (.object ⟨0⟩))]
    let m (rep : Representation) : Value :=
      .mapOf before.text rep [(k rep, .bool true), (.kw "b", .nil), (.kw "c", .nil)]
    let found (rep : Representation) : Option Bool :=
      (assoc h rep (m rep) (.kw "d") .nil).toOption.map (contains h · (k rep))
    ((k .native).layOut (.of .persistent)).same (k .persistent) = true ∧
      ((m .native).layOut (.of .persistent)).same (m .persistent) = true ∧
      found .native = some true ∧ found .persistent = some false := by
  decide +kernel

end Collection

end Lisp
