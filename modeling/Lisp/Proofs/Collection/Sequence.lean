import Lisp.Eval.Step
import Lisp.Proofs.Machine.Change
import Mathlib.Data.List.Forall2

/-!
# Sequence operations and the elements of a collection

Every operation on sequences can be told by the elements of the collections that it is given. Some
have a branch of their own for some kinds, to spare the row of elements: they answer the same, and
fail where there are no elements. An operation that calls a procedure back calls it on the elements
from the left. The calls may change the machine, so what they give depends on the calls before, and
the first that fails is the last.

## Main definitions

* `Collection.Direct` — the operations without calls, told by the elements
* `Collection.Folds` — a fold of which every step succeeds
* `Collection.Replies`, `Collection.Breaks` — what a procedure gives for every element, and a call
  that fails
* `Collection.Gathers`, `Collection.Reduces` — computations that call a procedure on elements
* `Collection.CallsBack` — the operations with calls, told by the elements

## Main results

* `Collection.direct` — the operations without calls
* `Collection.foldlM_eq_ok_iff`, `Collection.foldlM_eq_error_iff` — folds in general
* `Collection.gathers_map`, `Collection.gathers_filter`, `Collection.reduces_reduce` — the
  operations with calls
* `Collection.sequence_operations_agree` — all of them, for collections of every kind
-/

namespace Lisp.Collection

open Eval (bind_eq_ok_iff)

variable {α β γ ε σ : Type}

/-! ### Without calls -/

/-- The operations on a collection do what they do on its elements, and fail as taking these does.
Counting has a message of its own. -/
structure Direct (h : Heap) (mode : Representation) (coll : Value) : Prop where
  count : Collection.count coll = ((items h mode coll).map List.length).mapError
    fun _ => .mismatch (.notCountable coll.typeName)
  first : first h mode coll = (items h mode coll).map (·.head?.getD .nil)
  rest : rest h mode coll = (items h mode coll).map fun xs => .list xs.tail
  nth : ∀ i, nth h mode coll i = (items h mode coll).map (·[i]?.getD .nil)
  cons : ∀ y, cons h mode y coll = (items h mode coll).map fun xs => .list (y :: xs)

/-- The branches for single kinds answer as taking the elements does. -/
theorem direct (h : Heap) (mode : Representation) (coll : Value) : Direct h mode coll where
  count := by cases coll <;> simp [Collection.count, items, Except.map, Except.mapError]
  first := by cases coll <;> rfl
  rest := by
    unfold rest
    cases items h mode coll with
    | error c => rfl
    | ok xs => exact congrArg (Except.ok ∘ Value.list) List.drop_one
  nth i := by cases coll <;> rfl
  cons y := by
    unfold cons
    cases items h mode coll with
    | error c => rfl
    | ok xs => rfl

/-! ### The first that fails -/

/-- A row with an element in front is cut at that element or at one behind it. -/
theorem exists_cut_cons {x : α} {xs : List α} {P : List α → α → Prop} :
    (∃ before y after, x :: xs = before ++ y :: after ∧ P before y) ↔
      P [] x ∨ ∃ before y after, xs = before ++ y :: after ∧ P (x :: before) y := by
  constructor
  · rintro ⟨before, y, after, eq, h⟩
    cases before with
    | nil =>
      obtain ⟨rfl, rfl⟩ := List.cons.inj eq
      exact .inl h
    | cons b before =>
      obtain ⟨rfl, rfl⟩ := List.cons.inj eq
      exact .inr ⟨before, y, after, rfl, h⟩
  · rintro (h | ⟨before, y, after, rfl, h⟩)
    · exact ⟨[], x, xs, rfl, h⟩
    · exact ⟨x :: before, y, after, rfl, h⟩

theorem not_exists_cut_nil {P : List α → α → Prop} :
    ¬ ∃ before y after, ([] : List α) = before ++ y :: after ∧ P before y := by
  rintro ⟨before, y, after, eq, -⟩
  exact absurd eq.symm (List.append_ne_nil_of_right_ne_nil _ (List.cons_ne_nil _ _))

/-- Something is taken from every element of a row, or the first from which nothing can be taken
tells why. -/
theorem mapM_eq_error_iff {f : α → Except ε β} {xs : List α} {e : ε} :
    xs.mapM f = .error e ↔ ∃ before x after, xs = before ++ x :: after ∧
      (∀ b ∈ before, ∃ y, f b = .ok y) ∧ f x = .error e := by
  induction xs with
  | nil => exact iff_of_false nofun not_exists_cut_nil
  | cons x xs ih =>
    rw [exists_cut_cons, List.mapM_cons]
    cases first : f x with
    | error d =>
      -- it would have to be taken from the first one too
      have : ¬ ∃ before y after, xs = before ++ y :: after ∧
          (∀ b ∈ x :: before, ∃ z, f b = .ok z) ∧ f y = .error e := by
        rintro ⟨before, y, after, -, fine, -⟩
        obtain ⟨z, hz⟩ := fine x List.mem_cons_self
        cases first.symm.trans hz
      rw [or_iff_left this]
      show Except.error d = Except.error e ↔ _
      simp
    | ok z =>
      have others : (do
          let z ← Except.ok z
          let zs ← xs.mapM f
          return z :: zs : Except ε (List β)) = .error e ↔ xs.mapM f = .error e := by
        show (xs.mapM f >>= fun zs => pure (z :: zs)) = _ ↔ _
        cases xs.mapM f with
        | error d => exact Iff.rfl
        | ok zs => exact iff_of_false nofun nofun
      rw [others, ih]
      simp [first]

/-- The elements of several collections in a row, if all of them have some. -/
theorem concat_eq_ok {h : Heap} {mode : Representation} {colls : List Value}
    {rows : List (List Value)}
    (all : List.Forall₂ (fun coll xs => items h mode coll = .ok xs) colls rows) :
    concat h mode colls = .ok (.list rows.flatten) := by
  have taken : colls.mapM (items h mode) = .ok rows := by
    induction all with
    | nil => rfl
    | cons first _ ih =>
      rw [List.mapM_cons, first, ih]
      rfl
  rw [concat, taken]
  rfl

/-- There is no row of elements exactly if one collection has none, and the first such tells why. -/
theorem concat_eq_error_iff {h : Heap} {mode : Representation} {colls : List Value} {c : Cause} :
    concat h mode colls = .error c ↔ ∃ before coll after, colls = before ++ coll :: after ∧
      (∀ b ∈ before, ∃ xs, items h mode b = .ok xs) ∧ items h mode coll = .error c := by
  rw [← mapM_eq_error_iff]
  unfold concat
  cases colls.mapM (items h mode) with
  | error d =>
    show Except.error d = Except.error c ↔ Except.error d = Except.error c
    rw [Except.error.injEq, Except.error.injEq]
  | ok rows => exact iff_of_false nofun nofun

/-! ### Folds that may fail -/

theorem bind_eq_error_iff {x : EStateM ε σ α} {f : α → EStateM ε σ β} {s u : σ} {e : ε} :
    (x >>= f) s = .error e u ↔
      x s = .error e u ∨ ∃ a t, x s = .ok a t ∧ f a t = .error e u := by
  show EStateM.bind x f s = _ ↔ _
  unfold EStateM.bind
  cases x s with
  | ok a t => simp
  | error d t => simp

theorem pure_eq_ok_iff {a b : α} {s t : σ} :
    (pure a : EStateM ε σ α) s = .ok b t ↔ b = a ∧ t = s := by
  show EStateM.Result.ok a s = .ok b t ↔ _
  rw [EStateM.Result.ok.injEq, eq_comm, eq_comm (a := s)]

/-- A fold over some elements from the left, with the states in between, of which every step
succeeds. -/
inductive Folds (f : β → α → EStateM ε σ β) : σ → β → List α → β → σ → Prop
  | nil (s : σ) (b : β) : Folds f s b [] b s
  | cons {s t u : σ} {b c d : β} {x : α} {xs : List α} (first : f b x s = .ok c t)
      (others : Folds f t c xs d u) : Folds f s b (x :: xs) d u

section Fold

variable {f : β → α → EStateM ε σ β} {s t : σ} {b c : β} {x : α} {xs : List α}

theorem folds_nil_iff : Folds f s b [] c t ↔ c = b ∧ t = s := by
  constructor
  · rintro ⟨⟩
    exact ⟨rfl, rfl⟩
  · rintro ⟨rfl, rfl⟩
    exact .nil t c

theorem folds_cons_iff :
    Folds f s b (x :: xs) c t ↔ ∃ d u, f b x s = .ok d u ∧ Folds f u d xs c t := by
  constructor
  · rintro (_ | ⟨first, others⟩)
    exact ⟨_, _, first, others⟩
  · rintro ⟨d, u, first, others⟩
    exact .cons first others

/-- A fold succeeds if every step does. -/
theorem foldlM_eq_ok_iff : xs.foldlM f b s = .ok c t ↔ Folds f s b xs c t := by
  induction xs generalizing s b with
  | nil => rw [List.foldlM_nil, pure_eq_ok_iff, folds_nil_iff]
  | cons x xs ih =>
    rw [List.foldlM_cons, bind_eq_ok_iff, folds_cons_iff]
    simp only [ih]

/-- A fold stops at the first step that fails. -/
theorem foldlM_eq_error_iff {e : ε} : xs.foldlM f b s = .error e t ↔
    ∃ before x after, xs = before ++ x :: after ∧
      ∃ d u, Folds f s b before d u ∧ f d x u = .error e t := by
  induction xs generalizing s b with
  | nil => exact iff_of_false nofun not_exists_cut_nil
  | cons x xs ih =>
    rw [List.foldlM_cons, bind_eq_error_iff, exists_cut_cons]
    refine or_congr ?_ ?_
    · simp [folds_nil_iff]
    · simp only [ih, folds_cons_iff]
      constructor
      · rintro ⟨d, u, first, before, y, after, eq, c, v, folds, stops⟩
        exact ⟨before, y, after, eq, c, v, ⟨d, u, first, folds⟩, stops⟩
      · rintro ⟨before, y, after, eq, c, v, ⟨d, u, first, folds⟩, stops⟩
        exact ⟨d, u, first, before, y, after, eq, c, v, folds, stops⟩

end Fold

/-! ### With calls -/

section Calls

variable (call : List Value → EStateM ε σ Value)

/-- A procedure called on some elements, one after the other, gives these answers. -/
inductive Replies : σ → List Value → List Value → σ → Prop
  | nil (s : σ) : Replies s [] [] s
  | cons {s t u : σ} {x y : Value} {xs ys : List Value} (first : call [x] s = .ok y t)
      (others : Replies t xs ys u) : Replies s (x :: xs) (y :: ys) u

/-- A procedure called on some elements, one after the other, fails on one of them. The state is
then that after this call: there is no other behind it. -/
def Breaks (s : σ) (xs : List Value) (e : ε) (t : σ) : Prop :=
  ∃ before x after, xs = before ++ x :: after ∧
    ∃ ys u, Replies call s before ys u ∧ call [x] u = .error e t

/-- The elements with an answer that counts as true. -/
def chosen (xs ys : List Value) : List Value :=
  ((xs.zip ys).filter (·.2.isTruthy)).map (·.1)

/-- A step that calls a procedure on an element and puts the answer to what there is. -/
def gather (put : β → Value → Value → β) (b : β) (x : Value) : EStateM ε σ β := do
  return put b x (← call [x])

/-- A computation calls a procedure on some elements, one after the other, and makes its value from
the answers. It fails as the first call that does. -/
structure Gathers (act : EStateM ε σ Value) (s : σ) (xs : List Value)
    (result : List Value → Value) : Prop where
  ok : ∀ v t, act s = .ok v t ↔ ∃ ys, Replies call s xs ys t ∧ v = result ys
  error : ∀ e t, act s = .error e t ↔ Breaks call s xs e t

/-- A computation folds a procedure over some elements from the left, beginning with `a`. It fails
as the first call that does. -/
structure Reduces (act : EStateM ε σ Value) (s : σ) (a : Value) (xs : List Value) : Prop where
  ok : ∀ v t, act s = .ok v t ↔ Folds (fun b x => call [b, x]) s a xs v t
  error : ∀ e t, act s = .error e t ↔ ∃ before x after, xs = before ++ x :: after ∧
    ∃ b u, Folds (fun b x => call [b, x]) s a before b u ∧ call [b, x] u = .error e t

variable {call} {s t : σ} {xs ys : List Value}

theorem Replies.length_eq (h : Replies call s xs ys t) : ys.length = xs.length := by
  induction h with
  | nil => rfl
  | cons _ _ ih => rw [List.length_cons, List.length_cons, ih]

/-- The steps of such a fold succeed if the calls do. -/
theorem folds_gather_iff {put : β → Value → Value → β} {b c : β} :
    Folds (gather call put) s b xs c t ↔
      ∃ ys, Replies call s xs ys t ∧ c = (xs.zip ys).foldl (fun b p => put b p.1 p.2) b := by
  induction xs generalizing s b with
  | nil =>
    rw [folds_nil_iff]
    constructor
    · rintro ⟨rfl, rfl⟩
      exact ⟨[], .nil t, rfl⟩
    · rintro ⟨_, ⟨⟩, rfl⟩
      exact ⟨rfl, rfl⟩
  | cons x xs ih =>
    rw [folds_cons_iff]
    constructor
    · rintro ⟨d, u, first, folds⟩
      obtain ⟨y, v, answer, done⟩ := bind_eq_ok_iff.1 first
      obtain ⟨rfl, rfl⟩ := pure_eq_ok_iff.1 done
      obtain ⟨ys, answers, rfl⟩ := ih.1 folds
      exact ⟨y :: ys, .cons answer answers, rfl⟩
    · rintro ⟨_, _ | ⟨answer, answers⟩, rfl⟩
      exact ⟨_, _, bind_eq_ok_iff.2 ⟨_, _, answer, rfl⟩, ih.2 ⟨_, answers, rfl⟩⟩

/-- Such a fold stops at the first call that fails. -/
theorem foldlM_gather_eq_error_iff {put : β → Value → Value → β} {b : β} {e : ε} :
    xs.foldlM (gather call put) b s = .error e t ↔ Breaks call s xs e t := by
  rw [foldlM_eq_error_iff, Breaks]
  refine exists_congr fun before => exists_congr fun x => exists_congr fun after =>
    and_congr_right fun _ => ?_
  simp only [folds_gather_iff]
  constructor
  · rintro ⟨d, u, ⟨ys, answers, rfl⟩, stops⟩
    rcases bind_eq_error_iff.1 stops with stops | ⟨y, v, -, done⟩
    · exact ⟨ys, u, answers, stops⟩
    · exact absurd done nofun
  · rintro ⟨ys, u, answers, stops⟩
    exact ⟨_, u, ⟨ys, answers, rfl⟩, bind_eq_error_iff.2 (.inl stops)⟩

/-- What is gathered is made a value in the end. -/
theorem gathers_foldlM (put : β → Value → Value → β) (b : β) (last : β → Value) (s : σ)
    (xs : List Value) :
    Gathers call (do return last (← xs.foldlM (gather call put) b)) s xs fun ys =>
      last ((xs.zip ys).foldl (fun b p => put b p.1 p.2) b) where
  ok v t := by
    rw [bind_eq_ok_iff]
    simp only [foldlM_eq_ok_iff, folds_gather_iff]
    constructor
    · rintro ⟨c, u, ⟨ys, answers, rfl⟩, done⟩
      obtain ⟨rfl, rfl⟩ := pure_eq_ok_iff.1 done
      exact ⟨ys, answers, rfl⟩
    · rintro ⟨ys, answers, rfl⟩
      exact ⟨_, t, ⟨ys, answers, rfl⟩, rfl⟩
  error e t := by
    rw [bind_eq_error_iff, foldlM_gather_eq_error_iff]
    refine or_iff_left ?_
    rintro ⟨c, u, -, done⟩
    exact absurd done nofun

theorem Gathers.of_eq {act act' : EStateM ε σ Value} {result : List Value → Value}
    (h : Gathers call act' s xs result) (same : act s = act' s) : Gathers call act s xs result :=
  ⟨fun v t => by rw [same, h.ok], fun e t => by rw [same, h.error]⟩

theorem Reduces.of_eq {act act' : EStateM ε σ Value} {a : Value} (h : Reduces call act' s a xs)
    (same : act s = act' s) : Reduces call act s a xs :=
  ⟨fun v t => by rw [same, h.ok], fun e t => by rw [same, h.error]⟩

/-- Results that are the same for all answers there can be. -/
theorem Gathers.congr {act : EStateM ε σ Value} {result result' : List Value → Value}
    (h : Gathers call act s xs result)
    (same : ∀ ys, ys.length = xs.length → result ys = result' ys) :
    Gathers call act s xs result' where
  ok v t := by
    rw [h.ok]
    refine exists_congr fun ys => and_congr_right fun answers => ?_
    rw [same ys answers.length_eq]
  error := h.error

theorem foldl_chosen (start : List Value) :
    (xs.zip ys).foldl (fun kept p => if p.2.isTruthy then p.1 :: kept else kept) start =
      (chosen xs ys).reverse ++ start := by
  unfold chosen
  induction xs.zip ys generalizing start with
  | nil => rfl
  | cons p ps ih =>
    rw [List.foldl_cons, ih]
    cases h : p.2.isTruthy <;> simp [h]

/-- The results of a procedure on all elements, in their order. -/
theorem gathers_map (call : List Value → EStateM ε σ Value) (s : σ) (xs : List Value) :
    Gathers call (map call xs) s xs .list := by
  have folded : map call xs = do
      return (fun ys : List Value => Value.list ys.reverse)
        (← xs.foldlM (gather call fun ys _ y => y :: ys) []) := by
    unfold map gather
    rw [List.mapM_eq_reverse_foldlM_cons]
    simp
  rw [folded]
  refine (gathers_foldlM ..).congr fun ys length => ?_
  rw [List.foldl_flip_cons_eq_append, List.map_snd_zip (Nat.le_of_eq length), List.append_nil,
    List.reverse_reverse]

/-- The elements that a procedure says yes to, in their order. -/
theorem gathers_filter (call : List Value → EStateM ε σ Value) (s : σ) (xs : List Value) :
    Gathers call (filter call xs) s xs fun ys => .list (chosen xs ys) := by
  have folded : filter call xs = do
      return (fun kept : List Value => Value.list kept.reverse)
        (← xs.foldlM (gather call fun kept x y => if y.isTruthy then x :: kept else kept) []) :=
    rfl
  rw [folded]
  refine (gathers_foldlM ..).congr fun ys _ => ?_
  rw [foldl_chosen, List.append_nil, List.reverse_reverse]

theorem reduces_reduce (call : List Value → EStateM ε σ Value) (s : σ) (a : Value)
    (xs : List Value) : Reduces call (reduce call (some a) xs) s a xs :=
  ⟨fun _ _ => foldlM_eq_ok_iff, fun _ _ => foldlM_eq_error_iff⟩

end Calls

/-! ### On collections of every kind -/

variable {E : Engine} {m : Machine} {f coll : Value} {xs : List Value}

/-- The operations that call `f` back do so on the elements `xs` of a collection. -/
structure CallsBack [Tables] (E : Engine) (m : Machine) (f coll : Value) (xs : List Value) :
    Prop where
  map : Gathers (E.apply f) (E.callProcedure .map [f, coll]) m xs .list
  filter : Gathers (E.apply f) (E.callProcedure .filter [f, coll]) m xs fun ys =>
    .list (chosen xs ys)
  reduce : ∀ a, Reduces (E.apply f) (E.callProcedure .reduce [f, a, coll]) m a xs
  /-- Without a start the first element is one. -/
  reduceHead : ∀ a others, xs = a :: others →
    Reduces (E.apply f) (E.callProcedure .reduce [f, coll]) m a others
  reduceNothing : xs = [] → E.callProcedure .reduce [f, coll] m = E.apply f [] m

/-- Where there are elements, what follows on taking them does. -/
theorem items_bind_of_ok (h : items m.heap E.mode coll = .ok xs) (k : List Value → Eval Value) :
    (do k (← E.items coll)) m = k xs m := by
  show EStateM.bind (Eval.ofCause (items m.heap E.mode coll)) k m = _
  rw [h]
  rfl

/-- Where there are none, nothing is called. -/
theorem items_bind_of_error {c : Cause} (h : items m.heap E.mode coll = .error c)
    (k : List Value → Eval Value) : (do k (← E.items coll)) m = Eval.fail c m := by
  show EStateM.bind (Eval.ofCause (items m.heap E.mode coll)) k m = _
  rw [h]
  rfl

theorem callsBack [Tables] (h : items m.heap E.mode coll = .ok xs) (f : Value) :
    CallsBack E m f coll xs where
  map := (gathers_map (E.apply f) m xs).of_eq (items_bind_of_ok h _)
  filter := (gathers_filter (E.apply f) m xs).of_eq (items_bind_of_ok h _)
  reduce a := (reduces_reduce (E.apply f) m a xs).of_eq (items_bind_of_ok h _)
  reduceHead a others eq := by
    subst eq
    exact (reduces_reduce (E.apply f) m a others).of_eq (items_bind_of_ok h _)
  reduceNothing eq := by
    subst eq
    exact items_bind_of_ok h _

/-- All operations on sequences agree with taking the elements, for collections of every kind in
both representations. Those without calls do on a collection what they do on its elements, and fail
where it has none. Several collections are put in one row if all of them have elements; else the
first that has none tells why. Those with calls gather or fold the answers of a procedure on the
elements from the left, whatever the calls do to the machine, and stop at the first call that fails;
where there are no elements nothing is called and nothing changes. -/
theorem sequence_operations_agree [Tables] (h : Heap) (mode : Representation) :
    (∀ coll, Direct h mode coll) ∧
      (∀ colls rows, List.Forall₂ (fun coll xs => items h mode coll = .ok xs) colls rows →
        concat h mode colls = .ok (.list rows.flatten)) ∧
      (∀ colls c, concat h mode colls = .error c ↔
        ∃ before coll after, colls = before ++ coll :: after ∧
          (∀ b ∈ before, ∃ xs, items h mode b = .ok xs) ∧ items h mode coll = .error c) ∧
      ∀ (E : Engine) (m : Machine) (f coll : Value),
        (∀ xs, items m.heap E.mode coll = .ok xs → CallsBack E m f coll xs) ∧
        ∀ c, items m.heap E.mode coll = .error c →
          E.callProcedure .map [f, coll] m = Eval.fail c m ∧
          E.callProcedure .filter [f, coll] m = Eval.fail c m ∧
          E.callProcedure .reduce [f, coll] m = Eval.fail c m ∧
          ∀ a, E.callProcedure .reduce [f, a, coll] m = Eval.fail c m := by
  refine ⟨direct h mode, fun _ _ => concat_eq_ok, fun _ _ => concat_eq_error_iff, ?_⟩
  intro E m f coll
  constructor
  · intro xs elements
    exact callsBack elements f
  · intro c none
    have fails := items_bind_of_error (E := E) none
    exact ⟨fails _, fails _, fails _, fun a => fails _⟩

/-- Symbols are made for the elements of a set: one for the text, none for a boolean, and then no
other. In a row with a string the set has its elements in front. -/
theorem sequence_operations_agree_broken :
    let E := Engine.ofFuel ⟨{}, fun _ => none⟩ 2
    let m : Machine := default
    let make : Value := .entity (.builtin (.procedure .gensym))
    let texts : Value := .setOf m.heap.text .persistent [.string "y", .bool true, .string "x"]
    concat m.heap .native [texts, .string "ab"] = .ok
        (.list [.string "x", .bool true, .string "y", .string "a", .string "b"]) ∧
      ∃ e m', E.callProcedure .map [make, texts] m = .error e m' ∧ m'.counter = 1 := by
  intro E m make texts
  obtain ⟨-, row, -, calls⟩ := sequence_operations_agree m.heap .native
  have elements : items m.heap E.mode texts = .ok [.string "x", .bool true, .string "y"] := by
    with_unfolding_all rfl
  refine ⟨row [texts, .string "ab"] [_, [.string "a", .string "b"]]
    (.cons elements (.cons rfl .nil)), ?_⟩
  have first : E.apply make [.string "x"] m =
      .ok (.sym ("x" ++ toString m.counter)) { m with counter := m.counter + 1 } := rfl
  obtain ⟨backs, -⟩ := calls E m make texts
  exact ⟨_, _, ((backs _ elements).map.error _ _).2
    ⟨[.string "x"], .bool true, [.string "y"], rfl, _, _, .cons first (.nil _), rfl⟩, rfl⟩

end Lisp.Collection
