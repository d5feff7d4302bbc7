import Lisp.Interpreter
import Lisp.Proofs.Eval.Dispatch
import Lisp.Proofs.Eval.TailCall
import Lisp.Proofs.Value.Layout

/-!
# Arities that are told and arities that are accepted

A value that can be called tells its arities, and a call looks at the number of its arguments on its
own: a lambda when it selects a clause, a type when it fills in the fields, a collection when it
tells the key from the default. A call that does not accept the number fails at once, with an error
of arity. A call that accepts it may fail with such an error as well, but only after it has begun:
the body of a lambda runs in a new scope, so that the machine is another one by then.

## Main definitions

* `Eval.Refuses` — failing because of a number of arguments, before anything has been done
* `Heap.argumentCount` — the number of arguments that a call counts

## Main results

* `Engine.refuses_callLambda_iff`, `Eval.refuses_construct_iff` — what lambdas and types accept
* `Engine.arities_agree` — a value accepts the numbers that fit the arities it tells, error classes
  without arguments counted as with one; other than for sets, the representation does not matter
* `Engine.arities_differ` — error classes accept a number they do not tell, persistent sets tell
  nothing
-/

namespace Lisp

theorem Arity.accepts_exact_eq_false {n argc : Nat} :
    (Arity.exact n).accepts argc = false ↔ argc ≠ n :=
  decide_eq_false_iff_not

/-- What is called to look something up tells two arities. -/
theorem Arity.lookup_eq_false {argc : Nat} :
    (∀ a ∈ [Arity.exact 1, Arity.exact 2], a.accepts argc = false) ↔ argc ≠ 1 ∧ argc ≠ 2 := by
  rw [List.forall_mem_cons, List.forall_mem_singleton, accepts_exact_eq_false,
    accepts_exact_eq_false]

/-- The number of arguments that a call counts. Error classes take an empty message if they get no
argument. -/
def Heap.argumentCount (h : Heap) (f : Value) (args : List Value) : Nat :=
  match f with
  | .entity (.type t) =>
    if args.isEmpty && h.isSubtype t ErrorClass.error.ref then 1 else args.length
  | _ => args.length

namespace Eval

variable {α : Type} {act : Eval α} {m : Machine}

/-- An evaluation fails because of a number of arguments, and nothing has been done. -/
def Refuses (act : Eval α) (m : Machine) : Prop :=
  ∃ callee expected argc, act m = .error (.fault { cause := .arity callee expected argc }) m

theorem not_refuses_of_ok {v : α} {m' : Machine} (h : act m = .ok v m') : ¬ act.Refuses m := by
  rintro ⟨callee, expected, argc, refused⟩
  rw [h] at refused
  cases refused

/-- What has been done shows in a scope that was not there. -/
theorem not_refuses_of_scope
    (h : m.heap.scopes.size < (act.after m).heap.scopes.size) : ¬ act.Refuses m := by
  rintro ⟨callee, expected, argc, refused⟩
  rw [after, refused] at h
  exact Nat.lt_irrefl _ h

/-- What always succeeds after an evaluation does not change whether it refuses. -/
theorem refuses_bind_iff {β : Type} {f : α → Eval β}
    (succeeds : ∀ a m', ∃ v m'', f a m' = .ok v m'') : (act >>= f).Refuses m ↔ act.Refuses m := by
  cases outcome : act m with
  | ok a m' =>
    obtain ⟨v, m'', hf⟩ := succeeds a m'
    have bound : (act >>= f) m = .ok v m'' := by simp only [bind, EStateM.bind, outcome, hf]
    exact iff_of_false (not_refuses_of_ok bound) (not_refuses_of_ok outcome)
  | error s m' =>
    have bound : (act >>= f) m = .error s m' := by simp only [bind, EStateM.bind, outcome]
    simp only [Refuses, bound, outcome, EStateM.Result.error.injEq]

/-! ### Protocols, types and look-ups -/

theorem refuses_applyMixin_iff (p : ProtocolRef) (args : List Value) :
    (applyMixin p args).Refuses m ↔ args.length ≠ 1 := by
  fun_cases applyMixin p args with
  | case1 t => exact iff_of_false (not_refuses_of_ok rfl) (not_not_intro rfl)
  | case2 o => exact iff_of_false (not_refuses_of_ok rfl) (not_not_intro rfl)
  | case3 other =>
    refine iff_of_false ?_ (not_not_intro rfl)
    -- the protocol is not mixed in, but not because of the number of arguments
    rintro ⟨callee, expected, argc, refused⟩
    cases refused
  | case4 _ several =>
    refine iff_of_true ⟨_, _, _, rfl⟩ fun single => ?_
    obtain ⟨target, rfl⟩ := List.length_eq_one_iff.1 single
    exact several target rfl

/-- A type that is there refuses what does not fill in its fields. An error class without arguments
has an empty message to fill in. -/
theorem refuses_construct_iff {t : TypeRef} {type : TypeInfo}
    (present : m.heap.types.get? t.index = some type) (args : List Value) :
    (construct t args).Refuses m ↔
      m.heap.argumentCount (.entity (.type t)) args ≠ type.fields.length := by
  let filled :=
    if args.isEmpty && m.heap.isSubtype t ErrorClass.error.ref then [.string ""] else args
  have counted : m.heap.argumentCount (.entity (.type t)) args = filled.length := by
    dsimp only [Heap.argumentCount, filled]
    split
    · rfl
    · rfl
  have made : m.heap.instanceOf t args = if filled.length = type.fields.length
      then .ok ⟨t, .ofPairs (type.fields.zip filled)⟩
      else .error (.arity type.name.text (toString type.fields.length) filled.length) := by
    rw [Heap.instanceOf, present]
  have call : construct t args m = (ofCause (m.heap.instanceOf t args) >>= newObject) m := rfl
  rw [made] at call
  rw [counted]
  by_cases fits : filled.length = type.fields.length
  · rw [if_pos fits] at call
    exact iff_of_false (not_refuses_of_ok call) (not_not_intro fits)
  · rw [if_neg fits] at call
    exact iff_of_true ⟨_, _, _, call⟩ fits

theorem refuses_lookupArguments_iff (callee : Value) (args : List Value) :
    (Engine.lookupArguments callee args).Refuses m ↔ args.length ≠ 1 ∧ args.length ≠ 2 := by
  fun_cases Engine.lookupArguments callee args with
  | case1 x => exact iff_of_false (not_refuses_of_ok rfl) fun h => h.1 rfl
  | case2 x d => exact iff_of_false (not_refuses_of_ok rfl) fun h => h.2 rfl
  | case3 _ notOne notTwo =>
    refine iff_of_true ⟨_, _, _, rfl⟩ ⟨fun one => ?_, fun two => ?_⟩
    · obtain ⟨x, rfl⟩ := List.length_eq_one_iff.1 one
      exact notOne x rfl
    · obtain ⟨x, d, rfl⟩ := List.length_eq_two.1 two
      exact notTwo x d rfl

theorem refuses_callCollection_iff [Tables] (coll : Value) (args : List Value) :
    (Engine.callCollection coll args).Refuses m ↔ args.length ≠ 1 ∧ args.length ≠ 2 :=
  (refuses_bind_iff fun _ _ => ⟨_, _, rfl⟩).trans (refuses_lookupArguments_iff coll args)

theorem refuses_callKey_iff [Tables] (key : Value) (args : List Value) :
    (Engine.callKey key args).Refuses m ↔ args.length ≠ 1 ∧ args.length ≠ 2 :=
  (refuses_bind_iff fun _ _ => ⟨_, _, rfl⟩).trans (refuses_lookupArguments_iff key args)

end Eval

namespace Engine

variable {E : Engine} {m : Machine}

/-! ### Lambdas -/

/-- A round whose clause is found makes a scope before it does anything else, and whatever comes
after keeps it. -/
theorem size_lt_runClauses (hE : E.Confined) {r : LambdaRef} {args : List Value} {clause : Clause}
    (rounds : Nat) (selected : (m.heap.lambda r).select args.length = .ok clause) :
    m.heap.scopes.size < ((E.runClauses r (rounds + 1) args).after m).heap.scopes.size := by
  let entered := (Eval.newScope (m.heap.lambda r).scope (m.heap.lambda r).displayName
    (Lambda.bindings clause args)).after m
  have opened : m.heap.scopes.size < entered.heap.scopes.size :=
    Nat.lt_of_lt_of_eq (Nat.lt_succ_self _) (Eval.size_newScope ..).symm
  have body := (confined_evalBody hE m.heap.scopes.next clause.body entered).grows.scopes_size
  have run := runClauses_of_select (E := E) rounds selected
  rw [runBody_of_select selected] at run
  rw [Eval.after] at body ⊢
  rw [run]
  cases outcome : E.evalBody m.heap.scopes.next clause.body entered with
  | ok v m' =>
    rw [outcome] at body
    exact Nat.lt_of_lt_of_le opened body
  | error s m' =>
    rw [outcome] at body
    have kept := Nat.lt_of_lt_of_le opened body
    cases s with
    | again next =>
      have later := (relates_runClauses hE.related r rounds next m').grows.scopes_size
      exact Nat.lt_of_lt_of_le kept later
    | fault e => exact kept
    | exhausted => exact kept
    | unknownFile path => exact kept

/-- A lambda refuses the numbers of arguments that none of its clauses accepts. -/
theorem refuses_callLambda_iff (hE : E.Confined) (hrounds : 0 < E.rounds) (r : LambdaRef)
    (args : List Value) :
    (E.callLambda r args).Refuses m ↔
      ∀ a ∈ (m.heap.lambda r).arities, a.accepts args.length = false := by
  obtain ⟨rounds, enough⟩ := Nat.exists_eq_add_of_lt hrounds
  rw [Nat.zero_add] at enough
  -- the clause is selected in the context of the lambda, which has the same heap
  let home : Machine := { m with context := (m.heap.lambda r).context }
  have call := callLambda_eq (E := E) r args m
  rw [enough] at call
  cases selected : (m.heap.lambda r).select args.length with
  | error cause =>
    obtain ⟨none, rfl⟩ := Lambda.select_eq_error_iff.1 selected
    rw [runClauses_of_select_error (m := home) rounds selected] at call
    refine iff_of_true ⟨_, _, _, call⟩ ?_
    simpa [Lambda.arities] using none
  | ok clause =>
    refine iff_of_false (Eval.not_refuses_of_scope ?_) fun none => ?_
    · have grown := size_lt_runClauses (m := home) hE rounds selected
      rw [Eval.after] at grown ⊢
      rw [call]
      cases outcome : E.runClauses r (rounds + 1) args home with
      | ok v m' =>
        rw [outcome] at grown
        exact grown
      | error s m' =>
        rw [outcome] at grown
        exact grown
    · have unselected := Lambda.select_eq_error_iff.2
        ⟨fun c hc => none _ (Arity.mem_sort.2 (List.mem_map_of_mem hc)), rfl⟩
      rw [selected] at unselected
      cases unselected

theorem refuses_callSet_iff [Tables] (t : Table) (items : List (Filed Value)) (args : List Value)
    (form : Value) :
    (E.callValue (.set t items) args form).Refuses m ↔ args.length ≠ 1 := by
  match args with
  | [] => exact iff_of_true ⟨_, _, _, rfl⟩ nofun
  | [x] => exact iff_of_false (Eval.not_refuses_of_ok rfl) (not_not_intro rfl)
  | _ :: _ :: _ => exact iff_of_true ⟨_, _, _, rfl⟩ nofun

/-! ### Any value -/

/-- A value that tells arities refuses what fits none of them. -/
theorem refuses_callValue_iff [Tables] (hE : E.Confined) (hrounds : 0 < E.rounds) {f : Value}
    {as : List Arity} (told : m.heap.arities? f = some as)
    (present : ∀ t, f = .entity (.type t) → (m.heap.types.get? t.index).isSome)
    (args : List Value) (form : Value) :
    (E.callValue f args form).Refuses m ↔
      ∀ a ∈ as, a.accepts (m.heap.argumentCount f args) = false := by
  fun_cases Heap.arities? m.heap f with
  | case1 r =>
    cases told
    exact refuses_callLambda_iff hE hrounds r args
  | case2 t =>
    cases told
    obtain ⟨type, there⟩ := Option.isSome_iff_exists.1 (present t rfl)
    rw [callValue, Eval.refuses_construct_iff there, List.forall_mem_singleton,
      Arity.accepts_exact_eq_false, Heap.type, there, Option.getD_some]
  | case3 p =>
    cases told
    rw [callValue, Eval.refuses_applyMixin_iff, List.forall_mem_singleton,
      Arity.accepts_exact_eq_false]
    rfl
  | case4 items =>
    cases told
    rw [refuses_callSet_iff, List.forall_mem_singleton, Arity.accepts_exact_eq_false]
    rfl
  | case5 name =>
    cases told
    rw [callValue, Eval.refuses_callKey_iff, Arity.lookup_eq_false]
    rfl
  | case6 name =>
    cases told
    rw [callValue, Eval.refuses_callKey_iff, Arity.lookup_eq_false]
    rfl
  | case7 rep entries =>
    cases told
    rw [callValue, Eval.refuses_callCollection_iff, Arity.lookup_eq_false]
    rfl
  | case8 rep items =>
    cases told
    rw [callValue, Eval.refuses_callCollection_iff, Arity.lookup_eq_false]
    rfl
  | case9 =>
    simp_all [Heap.arities?]

/-- A call refuses the numbers of arguments that fit none of the arities that the value tells, and
no others; error classes without arguments are counted as with one. Other than for sets, a value
tells the same in either representation. -/
theorem arities_agree [Tables] (setting : Setting) (fuel : Nat) {m : Machine} {f : Value}
    {as : List Arity} (told : m.heap.arities? f = some as)
    (present : ∀ t, f = .entity (.type t) → (m.heap.types.get? t.index).isSome) :
    (∀ args form, ¬ ((ofFuel setting (fuel + 2)).call f args form).Refuses m ↔
        ∃ a ∈ as, a.accepts (m.heap.argumentCount f args) = true) ∧
      ∀ v rep, (∀ kind items, v ≠ .set kind items) →
        m.heap.arities? (v.layOut (.of rep)) = m.heap.arities? v := by
  constructor
  · intro args form
    have call : (ofFuel setting (fuel + 2)).call f args form =
        (ofFuel setting (fuel + 1)).callValue f args form := rfl
    rw [call, refuses_callValue_iff (confined_ofFuel setting _) (Nat.succ_pos _) told present]
    simp
  · intro v rep notSet
    cases v with
    | set kind items => exact absurd rfl (notSet kind items)
    | _ => rfl

/-! ### Error classes -/

/-- Every error class of a new session has one field. -/
theorem errorClass_tells (c : ErrorClass) :
    (Start.machine {}).heap.arities? (.entity (.type c.ref)) = some [.exact 1] := by
  cases c <;> decide +kernel

theorem errorClass_present (c : ErrorClass) :
    ((Start.machine {}).heap.types.get? c.ref.index).isSome := by
  cases c <;> decide +kernel

theorem argumentCount_errorClass (c : ErrorClass) :
    (Start.machine {}).heap.argumentCount (.entity (.type c.ref)) [] = 1 := by
  cases c <;> decide +kernel

/-- An error class is called without arguments, with one and with two. It refuses two. -/
theorem arities_agree_error :
    let E := ofFuel ⟨{}, fun _ => none⟩ 2
    let m := Start.machine {}
    let cls : Value := .entity (.type ErrorClass.mismatch.ref)
    m.heap.arities? cls = some [.exact 1] ∧
      (∀ t, cls = .entity (.type t) → (m.heap.types.get? t.index).isSome) ∧
      ¬ (E.call cls [] .nil).Refuses m ∧ ¬ (E.call cls [.nil] .nil).Refuses m ∧
      (E.call cls [.nil, .nil] .nil).Refuses m := by
  intro E m cls
  have present : ∀ t, cls = .entity (.type t) → (m.heap.types.get? t.index).isSome := by
    intro t same
    obtain rfl : ErrorClass.mismatch.ref = t := Entity.type.inj (Value.entity.inj same)
    exact errorClass_present _
  have accepts := (arities_agree ⟨{}, fun _ => none⟩ 0 (errorClass_tells .mismatch) present).1
  refine ⟨errorClass_tells _, present, (accepts [] .nil).2 ?_, (accepts [.nil] .nil).2 ?_, ?_⟩
  · rw [argumentCount_errorClass]
    exact ⟨_, List.mem_singleton_self _, rfl⟩
  · exact ⟨_, List.mem_singleton_self _, rfl⟩
  · by_contra accepted
    obtain ⟨a, ha, fits⟩ := (accepts [.nil, .nil] .nil).1 accepted
    rw [List.mem_singleton] at ha
    subst ha
    cases fits

/-- A set tells that it takes one argument, but not so if it is persistent, and yet it takes it. An
error class tells that it takes one argument, and yet it is called without any. -/
theorem arities_differ :
    let E := ofFuel ⟨{}, fun _ => none⟩ 2
    let m := Start.machine {}
    let coll : Value := .setOf m.heap.text .native [.number .one]
    let cls : Value := .entity (.type ErrorClass.mismatch.ref)
    (m.heap.arities? coll = some [.exact 1] ∧
        m.heap.arities? (coll.layOut (.of .persistent)) = none ∧
        ¬ (E.call (coll.layOut (.of .persistent)) [.number .one] .nil).Refuses m) ∧
      m.heap.arities? cls = some [.exact 1] ∧ (Arity.exact 1).accepts 0 = false ∧
        ¬ (E.call cls [] .nil).Refuses m := by
  intro E m coll cls
  refine ⟨⟨rfl, rfl, Eval.not_refuses_of_ok rfl⟩, errorClass_tells _, rfl, fun refused => ?_⟩
  obtain ⟨type, there⟩ := Option.isSome_iff_exists.1 (errorClass_present .mismatch)
  have told := errorClass_tells .mismatch
  rw [Heap.arities?, Heap.type, there, Option.getD_some, Option.some.injEq, List.singleton_inj,
    Arity.exact.injEq] at told
  have misfits := (Eval.refuses_construct_iff there []).1 refused
  exact misfits ((argumentCount_errorClass _).trans told.symm)

end Engine

end Lisp
