import Lisp.Proofs.Eval.StandardForms
import Lisp.Proofs.Eval.Watch
import Lisp.Proofs.Interpreter.Growth

/-!
# Runs that split no string

An undivided run does what any run does until a string is about to be split: then it stops, as if it
had run out of fuel. So an undivided run that does not stop is the run itself, and in it no string
has been split. Undivided runs keep to a standard also if it covers vectors.

## Main definitions

* `Undivided.engine` — the engine that stops before a string is split
* `Undivided.pace` — an evaluation stops, or is another one

## Main results

* `Undivided.keeps_engine` — undivided runs keep to a standard
* `Undivided.stops_or_same` — an undivided run stops, or is the run itself
-/

namespace Lisp

open Eval Comparison Standard

namespace Undivided

section Rules

variable (E : Engine)

/-- Evaluates a call of a method, and stops before it splits a string. -/
def methodCall [Tables] (scope : ScopeRef) (source : Value) (operands : List Value) : Eval Value :=
  match operands.head?, splitCall operands.tail with
  | some target, some (.symbol method, forms) => do
    let receiver ← E.eval scope target
    let args ← E.evalAll scope forms
    if Engine.splits receiver method.base then throw .exhausted
    E.callMethod receiver method.base args source
  | some _, some _ => do Eval.failForm (.methodName (← Eval.print source))
  | _, _ => Eval.failArity "." "at least 2" operands.length

/-- The operands of a call of a method. -/
def methodOperands? : Value → Option (List Value)
  | .list (.symbol name :: operands) =>
    if SpecialForm.ofName? name = some .methodCall then some operands else none
  | _ => none

/-- Evaluates a form, and stops before it splits a string. -/
def step [Tables] (scope : ScopeRef) (form : Value) : Eval Value := do
  let form ← E.expand scope form
  match methodOperands? form with
  | some operands => methodCall E scope form operands
  | none => E.evalExpanded scope form

end Rules

mutual

/-- Evaluates a form as far as the fuel lasts, undivided. -/
def evalFuel [Tables] (s : Setting) : Nat → ScopeRef → Value → Eval Value
  | 0, _, _ => throw .exhausted
  | fuel + 1, scope, form => step ⟨s, fuel, evalFuel s fuel, callFuel s fuel⟩ scope form

/-- Calls a value as far as the fuel lasts, undivided. -/
def callFuel [Tables] (s : Setting) : Nat → Value → List Value → Value → Eval Value
  | 0, _, _, _ => throw .exhausted
  | fuel + 1, f, args, form =>
    Engine.callValue ⟨s, fuel, evalFuel s fuel, callFuel s fuel⟩ f args form

end

/-- The engine that follows the rules as far as its fuel lasts, unless it stops before. -/
def engine [Tables] (s : Setting) (fuel : Nat) : Engine :=
  ⟨s, fuel, evalFuel s fuel, callFuel s fuel⟩

theorem methodOperands?_eq_some {form : Value} {operands : List Value}
    (h : methodOperands? form = some operands) :
    ∃ name, form = .list (.symbol name :: operands) ∧
      SpecialForm.ofName? name = some .methodCall := by
  unfold methodOperands? at h
  split at h
  next name _ =>
    split at h
    next hname =>
      cases h
      exact ⟨name, rfl, hname⟩
    · cases h
  · cases h

/-! ### Undivided runs keep to a standard -/

section Keeps

variable {σ : Standard} {E : Engine} (hE : E.Keeps σ) (scope : ScopeRef)

include hE

theorem ensures_methodCall [Tables] (source : Value) {operands : List Value}
    (hoperands : ∀ x ∈ operands, σ.Meets x) :
    σ.Ensures σ.Meets (methodCall E scope source operands) := by
  unfold methodCall
  split
  next target method forms htarget hcall =>
    have hforms := Engine.meets_splitCall (fun x hx => hoperands x (List.mem_of_mem_tail hx)) hcall
    refine (hE.eval scope target (hoperands _ (List.mem_of_head? htarget))).bind
      fun receiver hreceiver => ?_
    refine (Engine.ensures_evalAll hE scope hforms).bind fun args hargs => ?_
    split
    · exact ensures_throw trivial
    next other =>
      exact Engine.ensures_callMethod hE hreceiver (fun _ => Bool.eq_false_of_not_eq_true other)
        hargs source
  · exact (ensures_print source).bind fun _ _ => ensures_failForm _
  · exact ensures_failArity _ _ _

theorem ensures_step [Tables] {form : Value} (hform : σ.Meets form) :
    σ.Ensures σ.Meets (step E scope form) := by
  refine (Engine.ensures_expand hE scope hform).bind fun form hform => ?_
  cases hoperands : methodOperands? form with
  | some operands =>
    obtain ⟨name, rfl, -⟩ := methodOperands?_eq_some hoperands
    exact ensures_methodCall hE scope _ (List.forall_mem_cons.1 (meets_list.1 hform)).2
  | none =>
    refine Engine.ensures_evalExpanded hE scope hform fun name operands h hname => ?_
    subst h
    simp [methodOperands?, hname] at hoperands

end Keeps

/-- Undivided runs keep to a standard. -/
theorem keeps_engine [Tables] {σ : Standard} {s : Setting} (hs : s.options.representation = σ.rep)
    (fuel : Nat) : (engine s fuel).Keeps σ := by
  induction fuel with
  | zero => exact ⟨hs, fun _ _ _ => ensures_throw trivial, fun _ _ _ _ _ => ensures_throw trivial⟩
  | succ fuel ih =>
    refine ⟨hs, fun scope form hform => ?_, fun f args form hf hargs => ?_⟩
    · exact ensures_step ih scope hform
    · exact Engine.ensures_callValue ih hf hargs form

/-! ### Undivided runs are runs -/

section Related

/-- Nothing else is watched for. -/
abbrev nothing : Watch := {}

theorem writes_nothing (m : Machine) (scope : ScopeRef) (form : Value) :
    nothing.writes m scope form = false := by
  unfold Watch.writes
  split
  · split
    · split
      · simp
      · rfl
    · split
      · split
        · simp
        · rfl
      · rfl
    · rfl
  · rfl

variable {W E : Engine} (rel : Engine.Related nothing.comparison.anywhere W E)

include rel

theorem relates_methodCall [Tables] (scope : ScopeRef) (source : Value) (operands : List Value) :
    nothing.comparison.Relates (methodCall W scope source operands)
      (E.evalMethodCall scope source operands) := by
  unfold methodCall Engine.evalMethodCall
  generalize operands.head? = target, splitCall operands.tail = call
  match target, call with
  | none, _ => exact relates_failArity _ _ _
  | some _, none => exact relates_failArity _ _ _
  | some target, some (method, forms) =>
    cases method with
    | symbol method =>
      refine (rel.eval trivial target).bind fun receiver => ?_
      refine (Engine.relates_evalAll rel trivial forms).bind fun args => ?_
      split
      · exact fun m _ => .inl (stops_throw m)
      · exact Engine.relates_callMethod rel receiver _ args source
    | _ => exact (relates_print source).bind fun _ => relates_failForm _

theorem relates_step [Tables] (scope : ScopeRef) (form : Value) :
    nothing.comparison.Relates (step W scope form) (E.step scope form) := by
  refine (Engine.relates_expand rel scope form).bind fun form => ?_
  cases hoperands : methodOperands? form with
  | none => exact fun m => Watch.rel_evalExpanded rel (writes_nothing m scope form)
  | some operands =>
    obtain ⟨name, rfl, hname⟩ := methodOperands?_eq_some hoperands
    have call : E.evalExpanded scope (.list (.symbol name :: operands)) =
        E.evalMethodCall scope (.list (.symbol name :: operands)) operands := by
      unfold Engine.evalExpanded Engine.evalList
      simp only [hname]
      rfl
    rw [call]
    exact relates_methodCall rel scope _ operands

theorem relates_callValue [Tables] (f : Value) (args : List Value) (form : Value) :
    nothing.comparison.Relates (W.callValue f args form) (E.callValue f args form) := by
  by_cases h : f = .entity (.builtin (.procedure .eval))
  · subst h
    exact Engine.relates_callEval rel (Watch.relates_evalForm rel) args form
  · exact Engine.relates_callValue rel (Watch.special rel) h args form

omit rel in
theorem related_engine [Tables] (s : Setting) (fuel : Nat) :
    Engine.Related nothing.comparison.anywhere (engine s fuel) (Engine.ofFuel s fuel) := by
  induction fuel with
  | zero =>
    refine ⟨rfl, rfl, fun _ form => ?_, fun f args form => ?_⟩
    · exact relates_throw .exhausted
    · exact relates_throw .exhausted
  | succ fuel ih =>
    refine ⟨rfl, rfl, fun _ form => ?_, fun f args form => ?_⟩
    · exact relates_step ih _ form
    · exact relates_callValue ih f args form

end Related

/-! ### Requests -/

/-- The first evaluation stops, or it is the second one. -/
def pace : Comparison where
  Rel m x y := x.Stops m ∨ x m = y m
  rel_pure _ _ := .inr rfl
  rel_throw _ _ := .inr rfl
  rel_get _ := .inr rfl
  rel_bind {α β x y f g m} h rest := by
    obtain stops | same := h
    · exact .inl (stops.bind f)
    · unfold Stops
      simp only [bind, EStateM.bind, same]
      cases hy : y m with
      | error s m' => exact .inr rfl
      | ok a m' => exact rest a m' hy
  rel_attempt {α β x y f g m} h stop rest := by
    have bind_attempt (z : Eval α) (k : Except Signal α → Eval β) :
        (attempt z >>= k) m = k (z.outcome m) (z.after m) := by
      simp only [bind, EStateM.bind, attempt_eq]
    unfold Stops
    rw [bind_attempt, bind_attempt]
    obtain ⟨m', stops⟩ | same := h
    · left
      rw [Eval.outcome, Eval.after, stops]
      exact stop m'
    · rw [Eval.outcome, Eval.after, same]
      exact rest _ _
  rel_effect _ _ := .inr rfl

theorem relates_same {α : Type} (act : Eval α) : pace.Relates act act := fun _ => .inr rfl

/-- What goes on with the outcome of an evaluation in another context stops if that has. -/
theorem relates_inContext_bind {α β : Type} {c : Context} {x y : Eval α}
    {f g : Except Signal α × Context → Eval β} (h : pace.Relates x y)
    (stop : ∀ c m, (f (.error .exhausted, c)).Stops m)
    (rest : ∀ o c, pace.Relates (f (o, c)) (g (o, c))) :
    pace.Relates (Eval.inContext c x >>= f) (Eval.inContext c y >>= g) := by
  unfold Eval.inContext
  simp only [bind_assoc, pure_bind]
  refine relates_get.bind fun m => (relates_same _).bind fun _ => ?_
  refine h.attempt (fun m => ?_) fun o => ?_
  · exact stop _ _
  · exact relates_get.bind fun m => (relates_same _).bind fun _ => rest o _

/-- Following the active module does not stop anything from stopping. -/
theorem stops_follow_bind {α : Type} {k : Toplevel → Eval α} (stop : ∀ top m, (k top).Stops m)
    (top : Toplevel) (m : Machine) : (Eval.follow top >>= k).Stops m := by
  obtain ⟨top', m', hfollow, -⟩ := follow_spec top m
  obtain ⟨m'', stops⟩ := stop top' m'
  refine ⟨m'', ?_⟩
  simp only [bind, EStateM.bind, hfollow]
  exact stops

section Session

variable {W E : Engine} (rel : Engine.Related pace.anywhere W E)

include rel

/-- A run of forms. What goes on with its outcome stops if that has. -/
theorem relates_runForms_bind {α : Type} {inSession : Bool} {source : String}
    {fault : Option Reader.Fault} (forms : List Reader.Located)
    {f g : Except Signal Value × Toplevel → Eval α}
    (stop : ∀ top m, (f (.error .exhausted, top)).Stops m)
    (rest : ∀ o top, pace.Relates (f (o, top)) (g (o, top))) (last : Value) (top : Toplevel) :
    pace.Relates (W.runForms inSession source fault forms last top >>= f)
      (E.runForms inSession source fault forms last top >>= g) := by
  induction forms generalizing last top with
  | nil => exact (relates_pure _).bind fun _ => rest _ _
  | cons located forms ih =>
    rw [Engine.runForms_cons, Engine.runForms_cons]
    unfold Engine.runForm Engine.evalAt
    simp only [bind_assoc, pure_bind]
    refine (relates_same _).bind fun top => (relates_same _).bind fun _ => ?_
    refine relates_inContext_bind (Engine.relates_evalTop rel trivial located.form)
      (fun c m => ?_) fun o c => ?_
    · -- the place may still move, but nothing else is done
      cases inSession with
      | false => exact stop _ m
      | true =>
        simp only [if_true, bind_assoc]
        refine stops_follow_bind (fun top m => ?_) _ m
        exact stop top { m with session := top }
    · refine (relates_same _).bind fun ended => ?_
      cases ended.1 with
      | ok value => exact ih value ended.2
      | error s => exact (relates_pure _).bind fun _ => rest _ _

theorem relates_evalText [Tables] (text source : String) :
    pace.Relates (W.evalText text source) (E.evalText text source) := by
  unfold Engine.evalText Engine.evalSource
  rw [rel.mode]
  refine relates_get.bind fun m => (relates_same _).bind fun _ => ?_
  refine relates_runForms_bind rel _ (fun top m => ?_) (fun o top => ?_) _ _
  · refine stops_follow_bind (fun top m => ?_) top m
    exact stops_throw { m with session := top }
  · exact relates_same _

theorem relates_evalFormIn (scope : ScopeRef) (form : Value) :
    pace.Relates (W.evalFormIn scope form) (E.evalFormIn scope form) := by
  refine relates_get.bind fun m => ?_
  refine relates_inContext_bind (Engine.relates_evalTop rel trivial form) (fun c m => ?_)
    fun o c => relates_same _
  have stop (top : Toplevel) (m : Machine) :
      (Eval.saveSession top >>= fun _ => Eval.ofOutcome (α := Value) (.error .exhausted)).Stops m :=
    stops_throw { m with session := top }
  exact stops_follow_bind stop { m.session with context := c } m

end Session

/-- What nothing is watched for stops, or is the same. -/
theorem relates_of_nothing {α : Type} {x y : Eval α} (h : nothing.comparison.Relates x y) :
    pace.Relates x y := fun m => (h m fun _ hp => nomatch hp).imp_right And.left

/-- An undivided run stops, or is the run itself. -/
theorem stops_or_same [Tables] (s : Setting) (fuel : Nat) (request : Request) (m : Machine) :
    (request.act (engine s fuel)).Stops m ∨
      request.act (engine s fuel) m = request.act (.ofFuel s fuel) m := by
  have rel := related_engine s fuel
  have related : Engine.Related pace.anywhere (engine s fuel) (.ofFuel s fuel) :=
    { rel with
      eval := fun hs form => relates_of_nothing (rel.eval hs form)
      call := fun f args form => relates_of_nothing (rel.call f args form) }
  cases request with
  | text words source => exact relates_evalText related words source m
  | form v => exact relates_of_nothing (Watch.relates_evalForm rel v) m
  | formIn scope v => exact relates_evalFormIn related scope v m
  | file path => exact relates_of_nothing (Watch.relates_loadFile rel path) m
  | call f args => exact related.call f args f m

end Undivided

end Lisp
