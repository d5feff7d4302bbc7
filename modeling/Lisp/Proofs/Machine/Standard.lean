import Lisp.Proofs.Machine.Confinement
import Lisp.Proofs.Scope.Lexical
import Lisp.Proofs.Value.Standard

/-!
# Machines that meet a standard

A machine holds values: those that names are bound to, annotations, the forms that lambdas are made
of, methods, fields, and what every top-level scope of the session binds. A machine meets a standard
if all of them do. An evaluation keeps to a standard if, from a machine that meets it, it comes to
one that does, and gives back or raises nothing that does not. How evaluations are put together, and
what each change of a machine needs for that, is said here.

## Main definitions

* `Machine.Holds` — the values that a machine holds
* `Standard.Covers`, `Standard.Fits` — heaps and machines that meet a standard
* `Standard.Yields` — a computation that gives something of a kind and raises nothing
* `Standard.Ensures` — an evaluation that keeps to a standard

## Main results

* `Standard.fits_iff` — a machine meets a standard if what it holds does
* `Standard.Ensures.bind`, `Standard.Ensures.attempt`, `Standard.Ensures.inContext` — composition
* `Standard.ensures_newScope`, `Standard.ensures_define`, … — changes
-/

namespace Lisp

/-- The values that a heap holds. -/
inductive Heap.Holds (h : Heap) : Value → Prop
  | bound {r : ScopeRef} {name : String} {b : Binding} (own : h.scopes.own? r name = some b) :
      Holds h b.value
  | metadata {r : ScopeRef} {name key : String} {b : Binding} {metadata : Metadata} {v : Value}
      (own : h.scopes.own? r name = some b) (annotated : b.metadata = some metadata)
      (entry : metadata.get? key = some v) : Holds h v
  | source {i : Nat} {l : Lambda} (there : h.lambdas[i]? = some l) : Holds h l.source
  | body {i : Nat} {l : Lambda} {c : Clause} {form : Value} (there : h.lambdas[i]? = some l)
      (clause : c ∈ l.clauses) (mem : form ∈ c.body) : Holds h form
  | protocol {i : Nat} {p : Protocol} {e : String × Value} (there : h.protocols[i]? = some p)
      (mem : e ∈ p.methods) : Holds h e.2
  | method {i : Nat} {t : TypeInfo} {name : String} {v : Value} (there : h.types.get? i = some t)
      (entry : t.methods.get? name = some v) : Holds h v
  | field {i : Nat} {o : Object} {name : String} {v : Value} (there : h.objects[i]? = some o)
      (entry : o.fields.get? name = some v) : Holds h v

/-- The values that a machine holds. -/
inductive Machine.Holds (m : Machine) : Value → Prop
  | heap {v : Value} (holds : m.heap.Holds v) : Holds m v
  | sessionLocal {e : String × Value} (mem : e ∈ m.session.locals) : Holds m e.2

namespace Standard

variable (σ : Standard) {α β : Type}

/-! ### Heaps and machines -/

/-- All values of a dictionary meet the standard. -/
def MeetsAll (d : Dict Value) : Prop := ∀ name v, d.get? name = some v → σ.Meets v

/-- A value and its annotations meet the standard. -/
structure MeetsBinding (b : Binding) : Prop where
  value : σ.Meets b.value
  metadata : ∀ metadata, b.metadata = some metadata → σ.MeetsAll metadata

/-- The forms that a lambda is made of meet the standard. -/
structure MeetsLambda (l : Lambda) : Prop where
  source : σ.Meets l.source
  body : ∀ c ∈ l.clauses, ∀ form ∈ c.body, σ.Meets form

/-- Everything on a heap meets the standard. -/
structure Covers (h : Heap) : Prop where
  scopes : ∀ r name b, h.scopes.own? r name = some b → σ.MeetsBinding b
  lambdas : ∀ (i : Nat) l, h.lambdas[i]? = some l → σ.MeetsLambda l
  protocols : ∀ (i : Nat) p, h.protocols[i]? = some p → ∀ e ∈ p.methods, σ.Meets e.2
  types : ∀ i t, h.types.get? i = some t → σ.MeetsAll t.methods
  objects : ∀ (i : Nat) o, h.objects[i]? = some o → σ.MeetsAll o.fields

/-- Everything on a machine meets the standard. -/
structure Fits (m : Machine) : Prop where
  heap : σ.Covers m.heap
  locals : ∀ e ∈ m.session.locals, σ.Meets e.2

variable {σ}

theorem fits_iff {m : Machine} : σ.Fits m ↔ ∀ v, m.Holds v → σ.Meets v := by
  constructor
  · intro fits v holds
    cases holds with
    | sessionLocal mem => exact fits.locals _ mem
    | heap holds =>
      cases holds with
      | bound own => exact (fits.heap.scopes _ _ _ own).value
      | metadata own annotated entry =>
        exact (fits.heap.scopes _ _ _ own).metadata _ annotated _ _ entry
      | source there => exact (fits.heap.lambdas _ _ there).source
      | body there clause mem => exact (fits.heap.lambdas _ _ there).body _ clause _ mem
      | protocol there mem => exact fits.heap.protocols _ _ there _ mem
      | method there entry => exact fits.heap.types _ _ there _ _ entry
      | field there entry => exact fits.heap.objects _ _ there _ _ entry
  · intro meets
    refine ⟨⟨fun r name b own => ⟨?_, fun metadata annotated key v entry => ?_⟩,
      fun i l there => ⟨?_, fun c hc form hform => ?_⟩, fun i p there e he => ?_,
      fun i t there name v entry => ?_, fun i o there name v entry => ?_⟩, fun e he => ?_⟩
    · exact meets _ (.heap (.bound own))
    · exact meets _ (.heap (.metadata own annotated entry))
    · exact meets _ (.heap (.source there))
    · exact meets _ (.heap (.body there hc hform))
    · exact meets _ (.heap (.protocol there he))
    · exact meets _ (.heap (.method there entry))
    · exact meets _ (.heap (.field there entry))
    · exact meets _ (.sessionLocal he)

theorem meetsAll_empty : σ.MeetsAll {} := fun _ _ h => nomatch h

theorem MeetsAll.insert {d : Dict Value} {v : Value} (h : σ.MeetsAll d) (name : String)
    (hv : σ.Meets v) : σ.MeetsAll (d.insert name v) := by
  intro key w hw
  rw [Dict.get?_insert] at hw
  split at hw
  · obtain rfl := Option.some.inj hw
    exact hv
  · exact h key w hw

theorem meetsAll_ofPairs {ps : List (String × Value)} (h : ∀ p ∈ ps, σ.Meets p.2) :
    σ.MeetsAll (.ofPairs ps) :=
  fun _ _ hv => h _ (Dict.mem_of_get?_ofPairs hv)

theorem meetsBinding_plain {v : Value} (h : σ.Meets v) : σ.MeetsBinding ⟨v, none⟩ :=
  ⟨h, fun _ hm => nomatch hm⟩

/-- Bindings without annotations. -/
theorem meetsBinding_bindAll {names : List String} {values : List Value} {name : String}
    {b : Binding} (h : ∀ v ∈ values, σ.Meets v)
    (hb : (Scopes.bindAll names values).get? name = some b) : σ.MeetsBinding b := by
  obtain ⟨⟨n, v⟩, hnv, heq⟩ := List.mem_map.1 (Dict.mem_of_get?_ofPairs hb)
  cases heq
  exact meetsBinding_plain (h v (List.of_mem_zip hnv).2)

namespace Covers

variable {h : Heap} (hh : σ.Covers h)

include hh

theorem lambda (r : LambdaRef) : σ.MeetsLambda (h.lambda r) := by
  rw [Heap.lambda, Array.getD_eq_getD_getElem?]
  cases hr : h.lambdas[r.index]? with
  | none => exact ⟨meets_nil, List.forall_mem_nil _⟩
  | some l => exact hh.lambdas _ l hr

theorem protocol (r : ProtocolRef) : ∀ e ∈ (h.protocol r).methods, σ.Meets e.2 := by
  rw [Heap.protocol, Array.getD_eq_getD_getElem?]
  cases hr : h.protocols[r.index]? with
  | none => exact List.forall_mem_nil _
  | some p => exact hh.protocols _ p hr

theorem object (r : ObjectRef) : σ.MeetsAll (h.object r).fields := by
  rw [Heap.object, Array.getD_eq_getD_getElem?]
  cases hr : h.objects[r.index]? with
  | none => exact meetsAll_empty
  | some o => exact hh.objects _ o hr

theorem method {t : TypeRef} {name : String} {v : Value} (hv : h.method? t name = some v) :
    σ.Meets v := by
  rw [Heap.method?, Forest.findUp?_eq] at hv
  obtain ⟨i, -, hi⟩ := List.exists_of_findSome?_eq_some hv
  obtain ⟨type, htype, hmethod⟩ := Option.bind_eq_some_iff.1 hi
  exact hh.types i type htype name v hmethod

theorem binding {r : ScopeRef} {name : String} {b : Binding}
    (hb : h.scopes.binding? r name = some b) : σ.MeetsBinding b := by
  rw [Scopes.binding?_eq] at hb
  obtain ⟨e, -, he⟩ := List.exists_of_findSome?_eq_some hb
  exact hh.scopes e name b he

end Covers

/-! ### Computations -/

/-- The computation gives something of a kind, or fails without a value that is thrown. -/
def Yields (Q : α → Prop) : Except Cause α → Prop
  | .ok a => Q a
  | .error (.thrown _) => False
  | .error _ => True

theorem Yields.mono {Q R : α → Prop} {x : Except Cause α} (h : Yields Q x) (hQ : ∀ a, Q a → R a) :
    Yields R x := by
  cases x with
  | ok a => exact hQ a h
  | error c => cases c <;> exact h

theorem Yields.bind {Q : α → Prop} {R : β → Prop} {x : Except Cause α} {f : α → Except Cause β}
    (h : Yields Q x) (hf : ∀ a, Q a → Yields R (f a)) : Yields R (x >>= f) := by
  cases x with
  | ok a => exact hf a h
  | error c => cases c <;> exact h

theorem Yields.mapM {Q : β → Prop} {f : α → Except Cause β} {xs : List α}
    (h : ∀ x ∈ xs, Yields Q (f x)) : Yields (fun ys => ∀ y ∈ ys, Q y) (xs.mapM f) := by
  induction xs with
  | nil => exact List.forall_mem_nil _
  | cons x xs ih =>
    rw [List.forall_mem_cons] at h
    rw [List.mapM_cons]
    refine h.1.bind fun y hy => (ih h.2).bind fun ys hys => ?_
    exact List.forall_mem_cons.2 ⟨hy, hys⟩

theorem Yields.foldlM {Q : β → Prop} {f : β → α → Except Cause β} {xs : List α} {b : β}
    (start : Q b) (step : ∀ x ∈ xs, ∀ b, Q b → Yields Q (f b x)) : Yields Q (xs.foldlM f b) := by
  induction xs generalizing b with
  | nil => exact start
  | cons x xs ih =>
    rw [List.forall_mem_cons] at step
    rw [List.foldlM_cons]
    exact (step.1 b start).bind fun b' hb' => ih hb' step.2

/-! ### Evaluations -/

variable (σ)

/-- What a signal carries meets the standard. -/
def MeetsSignal : Signal → Prop
  | .fault ⟨.thrown v, _⟩ => σ.Meets v
  | .again vs => ∀ v ∈ vs, σ.Meets v
  | _ => True

/-- What an evaluation ends with is of a kind, or a signal that meets the standard. -/
def MeetsOutcome (Q : α → Prop) : Except Signal α → Prop
  | .ok a => Q a
  | .error s => σ.MeetsSignal s

/-- The evaluation keeps to the standard, and gives something of a kind. -/
def Ensures (Q : α → Prop) (act : Eval α) : Prop :=
  ∀ m, σ.Fits m → σ.Fits (act.after m) ∧ σ.MeetsOutcome Q (act.outcome m)

variable {σ} {Q : α → Prop} {R : β → Prop}

theorem ensures_pure {a : α} (h : Q a) : σ.Ensures Q (pure a) := fun _ hm => ⟨hm, h⟩

theorem ensures_throw {s : Signal} (h : σ.MeetsSignal s) : σ.Ensures Q (throw s) :=
  fun _ hm => ⟨hm, h⟩

theorem Ensures.bind {act : Eval α} {f : α → Eval β} (h : σ.Ensures Q act)
    (hf : ∀ a, Q a → σ.Ensures R (f a)) : σ.Ensures R (act >>= f) := by
  intro m hm
  have first := h m hm
  simp only [Eval.after, Eval.outcome, Bind.bind, EStateM.bind] at first ⊢
  -- what goes on starts from the machine that the first evaluation leaves behind
  cases hact : act m with
  | ok a m' =>
    rw [hact] at first
    exact hf a first.2 m' first.1
  | error s m' =>
    rw [hact] at first
    exact first

theorem Ensures.attempt {act : Eval α} (h : σ.Ensures Q act) :
    σ.Ensures (σ.MeetsOutcome Q) (Eval.attempt act) := by
  intro m hm
  rw [Eval.after, Eval.outcome, Eval.attempt_eq]
  exact h m hm

theorem ensures_ofOutcome {o : Except Signal α} (h : σ.MeetsOutcome Q o) :
    σ.Ensures Q (Eval.ofOutcome o) := by
  cases o with
  | ok a => exact ensures_pure h
  | error s => exact ensures_throw h

/-- Where code runs does not matter. -/
theorem Ensures.inContext {act : Eval α} (h : σ.Ensures Q act) (c : Context) :
    σ.Ensures (fun p => σ.MeetsOutcome Q p.1) (Eval.inContext c act) := by
  intro m hm
  rw [Eval.after, Eval.outcome, Eval.inContext_eq]
  obtain ⟨fits, outcome⟩ := h { m with context := c } ⟨hm.heap, hm.locals⟩
  exact ⟨⟨fits.heap, fits.locals⟩, outcome⟩

theorem Ensures.mapM {f : α → Eval β} {xs : List α} (h : ∀ x ∈ xs, σ.Ensures R (f x)) :
    σ.Ensures (fun ys => ∀ y ∈ ys, R y) (xs.mapM f) := by
  induction xs with
  | nil => exact ensures_pure (List.forall_mem_nil _)
  | cons x xs ih =>
    rw [List.forall_mem_cons] at h
    rw [List.mapM_cons]
    refine h.1.bind fun y hy => (ih h.2).bind fun ys hys => ?_
    exact ensures_pure (List.forall_mem_cons.2 ⟨hy, hys⟩)

theorem Ensures.foldlM {f : β → α → Eval β} {xs : List α} {b : β} (start : R b)
    (step : ∀ x ∈ xs, ∀ b, R b → σ.Ensures R (f b x)) : σ.Ensures R (xs.foldlM f b) := by
  induction xs generalizing b with
  | nil => exact ensures_pure start
  | cons x xs ih =>
    rw [List.forall_mem_cons] at step
    rw [List.foldlM_cons]
    exact (step.1 b start).bind fun b' hb' => ih hb' step.2

/-! ### Reading and failing -/

theorem ensures_get : σ.Ensures σ.Fits get := fun _ hm => ⟨hm, hm⟩

theorem ensures_heap : σ.Ensures σ.Covers Eval.heap := fun _ hm => ⟨hm, hm.heap⟩

theorem ensures_context : σ.Ensures (fun _ => True) Eval.context := fun _ hm => ⟨hm, trivial⟩

theorem ensures_print (v : Value) : σ.Ensures (fun _ => True) (Eval.print v) :=
  fun _ hm => ⟨hm, trivial⟩

theorem ensures_trace (scope : ScopeRef) : σ.Ensures (fun _ => True) (Eval.trace scope) :=
  fun _ hm => ⟨hm, trivial⟩

theorem ensures_ofCause {x : Except Cause α} (h : Yields Q x) : σ.Ensures Q (Eval.ofCause x) := by
  cases x with
  | ok a => exact ensures_pure h
  | error c =>
    refine ensures_throw ?_
    cases c with
    | thrown v => exact h.elim
    | _ => trivial

theorem ensures_failForm (f : InvalidForm) : σ.Ensures Q (Eval.failForm f) :=
  ensures_throw trivial

theorem ensures_failMismatch (m : Mismatch) : σ.Ensures Q (Eval.failMismatch m) :=
  ensures_throw trivial

theorem ensures_failArity (callee expected : String) (actual : Nat) :
    σ.Ensures Q (Eval.failArity callee expected actual) :=
  ensures_throw trivial

theorem meetsSignal_withTrace {e : Error} {trace : List TraceFrame}
    (h : σ.MeetsSignal (.fault e)) : σ.MeetsSignal (.fault (e.withTrace trace)) := by
  unfold Error.withTrace
  split
  · obtain ⟨cause, _⟩ := e
    cases cause with
    | thrown v => exact h
    | _ => trivial
  · exact h

theorem ensures_failIn (scope : ScopeRef) {e : Error} (h : σ.MeetsSignal (.fault e)) :
    σ.Ensures Q (Eval.failIn scope e) :=
  (ensures_trace scope).bind fun _ _ => ensures_throw (meetsSignal_withTrace h)

/-! ### Changes -/

theorem ensures_modify {f : Machine → Machine} (h : ∀ m, σ.Fits m → σ.Fits (f m)) :
    σ.Ensures (fun _ => True) (modify f : Eval PUnit) :=
  fun m hm => ⟨h m hm, trivial⟩

theorem ensures_modifyHeap {f : Heap → Heap} (h : ∀ h, σ.Covers h → σ.Covers (f h)) :
    σ.Ensures (fun _ => True) (Eval.modifyHeap f) :=
  ensures_modify fun m hm => ⟨h m.heap hm.heap, hm.locals⟩

theorem ensures_updateHeap {f : Heap → α × Heap}
    (h : ∀ h, σ.Covers h → σ.Covers (f h).2 ∧ Q (f h).1) : σ.Ensures Q (Eval.updateHeap f) :=
  fun m hm => ⟨⟨(h m.heap hm.heap).1, hm.locals⟩, (h m.heap hm.heap).2⟩

theorem Covers.withScopes {h : Heap} (hh : σ.Covers h) {s : Scopes}
    (own : ∀ r name b, s.own? r name = some b → σ.MeetsBinding b) :
    σ.Covers { h with scopes := s } :=
  { hh with scopes := own }

theorem ensures_modifyScopes {f : Scopes → Scopes}
    (h : ∀ h, σ.Covers h → ∀ r name b, (f h.scopes).own? r name = some b → σ.MeetsBinding b) :
    σ.Ensures (fun _ => True) (Eval.modifyScopes f) :=
  ensures_modifyHeap fun heap hh => hh.withScopes (h heap hh)

theorem ensures_newScope (outer : ScopeRef) (ident : String) {bindings : Dict Binding}
    (hb : ∀ name b, bindings.get? name = some b → σ.MeetsBinding b) :
    σ.Ensures (fun _ => True) (Eval.newScope outer ident bindings) := by
  refine ensures_updateHeap fun h hh => ⟨hh.withScopes fun r name b own => ?_, trivial⟩
  have new := Scopes.own?_newScope (s := h.scopes) (e := r) (n := name) outer ident bindings
  replace own := new.symm.trans own
  split at own
  · exact hb name b own
  · exact hh.scopes r name b own

theorem ensures_newScope_empty (outer : ScopeRef) (ident : String) :
    σ.Ensures (fun _ => True) (Eval.newScope outer ident) :=
  ensures_newScope outer ident fun _ _ hb => nomatch hb

/-- A scope binds after a change what it has bound, or what the change has put there. -/
theorem exists_of_own?_modifyBindings {s : Scopes} {r e : ScopeRef} {name : String} {b : Binding}
    {g : Dict Binding → Dict Binding} (h : (s.modifyBindings r g).own? e name = some b) :
    s.own? e name = some b ∨ (g (s.frame r).bindings).get? name = some b := by
  by_cases hr : s.Has r
  · rw [Scopes.own?_modifyBindings hr] at h
    split at h
    · exact .inr h
    · exact .inl h
  · have missing : s.get? r.index = none := by
      rw [Forest.get?, Array.getElem?_eq_none (Nat.not_lt.1 hr), Option.map_none]
    left
    rw [← h]
    unfold Scopes.own? Scopes.frame Scopes.modifyBindings
    rw [Forest.get?_update]
    split
    · next same => rw [← same, missing, Option.map_none]
    · rfl

theorem ensures_define (scope : ScopeRef) (name : String) {value : Option Value}
    {metadata : Option Metadata} (hv : ∀ v ∈ value, σ.Meets v)
    (hm : ∀ d ∈ metadata, σ.MeetsAll d) :
    σ.Ensures (fun _ => True) (Eval.define scope name value metadata) := by
  refine ensures_modifyScopes fun h hh r n b own => ?_
  obtain old | new := exists_of_own?_modifyBindings own
  · exact hh.scopes r n b old
  · rw [Dict.get?_insert] at new
    split at new
    · obtain rfl := Option.some.inj new
      -- what the definition leaves open stays as it was
      have before : ∀ b, (h.scopes.frame scope).bindings.get? name = some b → σ.MeetsBinding b :=
        fun b hb => hh.scopes scope name b hb
      generalize (h.scopes.frame scope).bindings.get? name = old at before
      refine ⟨?_, fun d hd => ?_⟩
      · cases value with
        | some v => exact hv v rfl
        | none =>
          cases old with
          | none => exact meets_nil
          | some b => exact (before b rfl).value
      · cases metadata with
        | some d' =>
          obtain rfl := Option.some.inj hd
          exact hm d' rfl
        | none =>
          cases old with
          | none => cases hd
          | some b => exact (before b rfl).metadata d hd
    · exact hh.scopes scope n b new

theorem ensures_store (scope : ScopeRef) (name : String) {value : Value} (hv : σ.Meets value) :
    σ.Ensures (fun _ => True) (Eval.modifyScopes fun s => s.store scope name value) := by
  refine ensures_modifyScopes fun h hh r n b own => ?_
  obtain old | new := exists_of_own?_modifyBindings own
  · exact hh.scopes r n b old
  · split at new
    · next old hold =>
      rw [Dict.get?_insert] at new
      split at new
      · obtain rfl := Option.some.inj new
        exact ⟨hv, (hh.scopes scope name old hold).metadata⟩
      · exact hh.scopes scope n b new
    · exact hh.scopes scope n b new

/-- What traces say about a scope does not matter. -/
theorem ensures_updateFrame (r : ScopeRef) {g : Frame → Frame}
    (hg : ∀ f, (g f).bindings = f.bindings) :
    σ.Ensures (fun _ => True) (Eval.modifyScopes fun s => s.update r.index g) := by
  refine ensures_modifyScopes fun h hh e n b own => ?_
  have same := Scopes.own?_update (s := h.scopes) (e := e) (n := n) r.index g hg
  exact hh.scopes e n b (same.symm.trans own)

theorem ensures_setSource (r : ScopeRef) (source : String) :
    σ.Ensures (fun _ => True) (Eval.modifyScopes fun s => s.setSource r source) :=
  ensures_updateFrame r fun _ => rfl

theorem ensures_setPosition (r : ScopeRef) (position : Text.Position) :
    σ.Ensures (fun _ => True) (Eval.modifyScopes fun s => s.setPosition r position) :=
  ensures_updateFrame r fun _ => rfl

theorem ensures_fresh : σ.Ensures (fun _ => True) Eval.fresh :=
  fun _ hm => ⟨⟨hm.heap, hm.locals⟩, trivial⟩

theorem ensures_printLine (line : String) : σ.Ensures (fun _ => True) (Eval.printLine line) :=
  ensures_modify fun _ hm => ⟨hm.heap, hm.locals⟩

theorem ensures_enter (r : ModuleRef) : σ.Ensures (fun _ => True) (Eval.enter r) :=
  ensures_modify fun _ hm => ⟨hm.heap, hm.locals⟩

theorem ensures_saveSession {top : Toplevel} (h : ∀ e ∈ top.locals, σ.Meets e.2) :
    σ.Ensures (fun _ => True) (Eval.saveSession top) :=
  ensures_modify fun _ hm => ⟨hm.heap, h⟩

/-- What holds of the elements of an array and of a new one holds of all. -/
theorem forall_push {P : α → Prop} {xs : Array α} (h : ∀ (i : Nat) a, xs[i]? = some a → P a) {x : α}
    (hx : P x) : ∀ (i : Nat) a, (xs.push x)[i]? = some a → P a := by
  intro i a ha
  rw [Array.getElem?_push] at ha
  split at ha
  · obtain rfl := Option.some.inj ha
    exact hx
  · exact h i a ha

theorem forall_modify {P : α → Prop} {xs : Array α} (h : ∀ (i : Nat) a, xs[i]? = some a → P a)
    {j : Nat} {f : α → α} (hf : ∀ a, P a → P (f a)) :
    ∀ (i : Nat) a, (xs.modify j f)[i]? = some a → P a := by
  intro i a ha
  rw [Array.getElem?_modify] at ha
  split at ha
  · obtain ⟨b, hb, rfl⟩ := Option.map_eq_some_iff.1 ha
    exact hf b (h i b hb)
  · exact h i a ha

theorem forall_get?_push {P : α → Prop} {f : Forest α} (h : ∀ i a, f.get? i = some a → P a)
    (parent : Option Nat) {x : α} (hx : P x) : ∀ i a, (f.push parent x).get? i = some a → P a := by
  intro i a ha
  rw [Forest.get?_push] at ha
  split at ha
  · obtain rfl := Option.some.inj ha
    exact hx
  · exact h i a ha

theorem ensures_newLambda {l : Lambda} (hl : σ.MeetsLambda l) :
    σ.Ensures (fun _ => True) (Eval.newLambda l) :=
  ensures_updateHeap fun _ hh => ⟨{ hh with lambdas := forall_push hh.lambdas hl }, trivial⟩

theorem ensures_nameLambda (r : LambdaRef) (name : Name) :
    σ.Ensures (fun _ => True) (Eval.nameLambda r name) :=
  ensures_modifyHeap fun _ hh =>
    { hh with lambdas := forall_modify hh.lambdas fun _ hl => ⟨hl.source, hl.body⟩ }

theorem ensures_newProtocol {p : Protocol} (hp : ∀ e ∈ p.methods, σ.Meets e.2) :
    σ.Ensures (fun _ => True) (Eval.newProtocol p) :=
  ensures_updateHeap fun _ hh => ⟨{ hh with protocols := forall_push hh.protocols hp }, trivial⟩

theorem ensures_newType (name : Name) (fields : List String) :
    σ.Ensures (fun _ => True) (Eval.newType { name, fields }) :=
  ensures_updateHeap fun _ hh =>
    ⟨{ hh with types := forall_get?_push hh.types none meetsAll_empty }, trivial⟩

theorem ensures_modifyType (r : TypeRef) {f : TypeInfo → TypeInfo}
    (hf : ∀ t, σ.MeetsAll t.methods → σ.MeetsAll (f t).methods) :
    σ.Ensures (fun _ => True) (Eval.modifyType r f) := by
  refine ensures_modifyHeap fun h hh => { hh with types := fun i t ht => ?_ }
  rw [Forest.get?_update] at ht
  split at ht
  · obtain ⟨t', ht', rfl⟩ := Option.map_eq_some_iff.1 ht
    exact hf t' (hh.types i t' ht')
  · exact hh.types i t ht

theorem ensures_newObject {o : Object} (ho : σ.MeetsAll o.fields) :
    σ.Ensures σ.Meets (Eval.newObject o) :=
  ensures_updateHeap fun _ hh =>
    ⟨{ hh with objects := forall_push hh.objects ho }, meets_entity _⟩

theorem ensures_setField (r : ObjectRef) (field : String) {value : Value} (hv : σ.Meets value) :
    σ.Ensures (fun _ => True) (Eval.setField r field value) :=
  ensures_modifyHeap fun _ hh =>
    { hh with objects := forall_modify hh.objects fun _ ho => ho.insert field hv }

theorem ensures_newModule (module : Module) : σ.Ensures (fun _ => True) (Eval.newModule module) :=
  ensures_updateHeap fun _ hh => ⟨{ hh with }, trivial⟩

end Standard

end Lisp
