import Lisp.Eval.Definition
import Lisp.Proofs.Machine.Change

/-!
# Comparing evaluations

The rules of evaluation are the same whatever engine they refer to. So what two engines do can be
compared by going through the rules once, for any way to compare evaluations that agrees with how
they are put together: one that only looks at what the second of them does to a machine, or one
that says when both of them do the same. Evaluations are compared at the machine where they start,
since what a rule does next may depend on it.

## Main definitions

* `Eval.Stops` — evaluations that have run out of fuel
* `Eval.Effect` — the evaluations that change a machine without evaluating or calling anything
* `Comparison` — a way to compare evaluations
* `Comparison.Relates` — evaluations that compare wherever they start
* `Comparison.Realm` — the scopes that evaluations are compared in

## Main results

* `Comparison.Relates.bind`, `Comparison.Relates.attempt`, `Comparison.Relates.mapM`,
  `Comparison.Relates.foldlM` — how comparisons compose
-/

namespace Lisp

variable {α β : Type}

namespace Eval

/-- The evaluation runs out of fuel. -/
def Stops (act : Eval α) (m : Machine) : Prop := ∃ m', act m = .error .exhausted m'

instance {act : Eval α} {m : Machine} : Decidable (act.Stops m) :=
  match h : act m with
  | .error .exhausted m' => isTrue ⟨m', h⟩
  | .error (.fault _) _ | .error (.again _) _ | .error (.unknownFile _) _ | .ok _ _ =>
    isFalse fun ⟨_, stops⟩ => nomatch h.symm.trans stops

theorem stops_throw (m : Machine) : Stops (α := α) (throw .exhausted) m := ⟨m, rfl⟩

theorem Stops.bind {act : Eval α} {m : Machine} (h : act.Stops m) (f : α → Eval β) :
    Stops (act >>= f) m := by
  obtain ⟨m', h⟩ := h
  exact ⟨m', by simp only [Bind.bind, EStateM.bind, h]⟩

/-- The evaluations that change a machine without evaluating or calling anything, apart from those
that write to scopes which are there, move to a module or have to do with the session. -/
inductive Effect : {α : Type} → Eval α → Prop
  | newScope (outer : ScopeRef) (ident : String) (bindings : Dict Binding) :
      Effect (Eval.newScope outer ident bindings)
  | makeLambda (scope : ScopeRef) (operands : List Value) (source : Value) (ident : Option Name) :
      Effect (Eval.makeLambda scope operands source ident)
  | nameValue (name : Name) (v : Value) : Effect (Eval.nameValue name v)
  | newProtocol (p : Protocol) : Effect (Eval.newProtocol p)
  | newType (name : Name) (fields : List String) : Effect (Eval.newType { name, fields })
  | installMethod (t : TypeRef) (name : String) (method : Value) :
      Effect (Eval.modifyType t (·.install name method))
  | install (t : TypeRef) (p : ProtocolRef) : Effect (Eval.install t p)
  | makeError (cls : ErrorClass) (message stack : String) :
      Effect (Eval.makeError cls message stack)
  | construct (t : TypeRef) (args : List Value) : Effect (Eval.construct t args)
  | setField (r : ObjectRef) (field : String) (value : Value) :
      Effect (Eval.setField r field value)
  | fresh : Effect Eval.fresh
  | printLine (line : String) : Effect (Eval.printLine line)
  /-- A definition that is not private writes to the scope of a module. -/
  | define (scope : ScopeRef) (name : Name) (value : Value) {metadata : Metadata}
      (isPublic : metadata.flag "private" = false) :
      Effect (Eval.defineVariable scope name value metadata)

end Eval

open Eval

/-- A way to compare evaluations at the machine where they start. Only the second one has to be
followed to where it ends: the first may stop before, and whoever looks at its outcome has to stop
as well. -/
structure Comparison where
  Rel : {α : Type} → Machine → Eval α → Eval α → Prop
  rel_pure {α : Type} (a : α) (m : Machine) : Rel m (pure a) (pure a)
  rel_throw {α : Type} (s : Signal) (m : Machine) : Rel (α := α) m (throw s) (throw s)
  rel_get (m : Machine) : Rel m get get
  rel_bind {α β : Type} {x y : Eval α} {f g : α → Eval β} {m : Machine} (h : Rel m x y)
    (rest : ∀ a m', y m = .ok a m' → Rel m' (f a) (g a)) : Rel m (x >>= f) (y >>= g)
  rel_attempt {α β : Type} {x y : Eval α} {f g : Except Signal α → Eval β} {m : Machine}
    (h : Rel m x y) (stop : ∀ m', (f (.error .exhausted)).Stops m')
    (rest : ∀ o m', Rel m' (f o) (g o)) : Rel m (attempt x >>= f) (attempt y >>= g)
  rel_effect {α : Type} {act : Eval α} (h : Effect act) (m : Machine) : Rel m act act

namespace Comparison

variable {S : Comparison}

/-- The evaluations compare wherever they start. -/
def Relates (S : Comparison) (x y : Eval α) : Prop := ∀ m, S.Rel m x y

theorem relates_pure (a : α) : S.Relates (pure a) (pure a) := S.rel_pure a

theorem relates_throw (s : Signal) : S.Relates (α := α) (throw s) (throw s) := S.rel_throw s

theorem relates_get : S.Relates get get := S.rel_get

theorem relates_effect {act : Eval α} (h : Effect act) : S.Relates act act := S.rel_effect h

/-! ### Composition -/

theorem Relates.bind {x y : Eval α} {f g : α → Eval β} (h : S.Relates x y)
    (rest : ∀ a, S.Relates (f a) (g a)) : S.Relates (x >>= f) (y >>= g) :=
  fun m => S.rel_bind (h m) fun a m' _ => rest a m'

theorem Relates.attempt {x y : Eval α} {f g : Except Signal α → Eval β} (h : S.Relates x y)
    (stop : ∀ m, (f (.error .exhausted)).Stops m) (rest : ∀ o, S.Relates (f o) (g o)) :
    S.Relates (attempt x >>= f) (attempt y >>= g) :=
  fun m => S.rel_attempt (h m) stop fun o m' => rest o m'

theorem Relates.mapM {f g : α → Eval β} (h : ∀ a, S.Relates (f a) (g a)) (xs : List α) :
    S.Relates (xs.mapM f) (xs.mapM g) := by
  induction xs with
  | nil => exact relates_pure []
  | cons x xs ih =>
    rw [List.mapM_cons, List.mapM_cons]
    refine (h x).bind fun b => ?_
    exact ih.bind fun bs => relates_pure (b :: bs)

theorem Relates.foldlM {f g : β → α → Eval β} (h : ∀ b a, S.Relates (f b a) (g b a))
    (xs : List α) (b : β) : S.Relates (xs.foldlM f b) (xs.foldlM g b) := by
  induction xs generalizing b with
  | nil => exact relates_pure b
  | cons x xs ih =>
    rw [List.foldlM_cons, List.foldlM_cons]
    exact (h b x).bind fun b => ih b

/-! ### Reading and failing -/

theorem relates_heap : S.Relates Eval.heap Eval.heap := relates_get.bind fun _ => relates_pure _

theorem relates_context : S.Relates Eval.context Eval.context :=
  relates_get.bind fun _ => relates_pure _

theorem relates_print (v : Value) : S.Relates (Eval.print v) (Eval.print v) :=
  relates_get.bind fun _ => relates_pure _

theorem relates_trace (scope : ScopeRef) : S.Relates (Eval.trace scope) (Eval.trace scope) :=
  relates_get.bind fun _ => relates_pure _

theorem relates_fail (c : Cause) : S.Relates (α := α) (Eval.fail c) (Eval.fail c) :=
  relates_throw _

theorem relates_failForm (f : InvalidForm) :
    S.Relates (α := α) (Eval.failForm f) (Eval.failForm f) :=
  relates_fail _

theorem relates_failMismatch (m : Mismatch) :
    S.Relates (α := α) (Eval.failMismatch m) (Eval.failMismatch m) :=
  relates_fail _

theorem relates_failArity (callee expected : String) (actual : Nat) :
    S.Relates (α := α) (Eval.failArity callee expected actual)
      (Eval.failArity callee expected actual) :=
  relates_fail _

theorem relates_failIn (scope : ScopeRef) (e : Error) :
    S.Relates (α := α) (Eval.failIn scope e) (Eval.failIn scope e) :=
  (relates_trace scope).bind fun _ => relates_throw _

theorem relates_ofCause (x : Except Cause α) : S.Relates (Eval.ofCause x) (Eval.ofCause x) := by
  cases x with
  | ok a => exact relates_pure a
  | error c => exact relates_fail c

theorem relates_ofHeap (f : Heap → Except Cause α) :
    S.Relates (do Eval.ofCause (f (← Eval.heap))) (do Eval.ofCause (f (← Eval.heap))) :=
  relates_heap.bind fun h => relates_ofCause (f h)

theorem relates_ofOutcome (x : Except Signal α) :
    S.Relates (Eval.ofOutcome x) (Eval.ofOutcome x) := by
  cases x with
  | ok a => exact relates_pure a
  | error s => exact relates_throw s

/-! ### Knowing what has been found -/

variable {m : Machine}

/-- What goes on with the machine goes on with the one that is there. -/
theorem rel_get_bind {f g : Machine → Eval α} (h : S.Rel m (f m) (g m)) :
    S.Rel m (get >>= f) (get >>= g) :=
  S.rel_bind (S.rel_get m) fun _ _ hget => by
    cases hget
    exact h

theorem rel_heap_bind {f g : Heap → Eval α} (h : S.Rel m (f m.heap) (g m.heap)) :
    S.Rel m (Eval.heap >>= f) (Eval.heap >>= g) :=
  S.rel_bind (relates_heap m) fun _ _ hheap => by
    cases hheap
    exact h

theorem rel_ofCause_bind {x : Except Cause α} {f g : α → Eval β}
    (h : ∀ a, x = .ok a → S.Rel m (f a) (g a)) :
    S.Rel m (Eval.ofCause x >>= f) (Eval.ofCause x >>= g) :=
  S.rel_bind (relates_ofCause x m) fun a m' hx => by
    cases x with
    | ok a =>
      cases hx
      exact h a rfl
    | error c => cases hx

/-! ### Scopes that are evaluated in -/

/-- The scopes in which forms are evaluated while evaluations are compared. Every scope that is made
meanwhile is one of them. -/
structure Realm (S : Comparison) where
  Allows : ScopeRef → Prop
  rel_newScope {α : Type} {outer : ScopeRef} {ident : String} {bindings : Dict Binding}
    {f g : ScopeRef → Eval α} {m : Machine} (rest : ∀ r m', Allows r → S.Rel m' (f r) (g r)) :
    S.Rel m (Eval.newScope outer ident bindings >>= f) (Eval.newScope outer ident bindings >>= g)

/-- Forms may be evaluated in any scope. -/
def anywhere (S : Comparison) : S.Realm where
  Allows _ := True
  rel_newScope rest := S.rel_bind (S.rel_effect (.newScope _ _ _) _) fun r m' _ => rest r m' trivial

theorem Realm.relates_newScope_bind (A : S.Realm) {outer : ScopeRef} {ident : String}
    {bindings : Dict Binding} {f g : ScopeRef → Eval α}
    (rest : ∀ r, A.Allows r → S.Relates (f r) (g r)) :
    S.Relates (Eval.newScope outer ident bindings >>= f)
      (Eval.newScope outer ident bindings >>= g) :=
  fun _ => A.rel_newScope fun r m' hr => rest r hr m'

end Comparison

end Lisp
