import Lisp.Proofs.Eval.Toplevel

/-!
# Evaluation stays in its session

An engine that leaves the session where it is, and changes machines in the known ways only, goes on
to do so when it is used for the rules. So what holds of every change holds of every run.

## Main results

* `Engine.confined_step`, `Engine.confined_callValue` — the rules
* `Engine.confined_ofFuel` — the engine that follows the rules, however far its fuel lasts
-/

namespace Lisp

open Eval

namespace Engine

variable {E : Engine} (hE : E.Confined)

include hE

theorem confined_evalBody (scope : ScopeRef) (forms : List Value) :
    (E.evalBody scope forms).Confined :=
  relates_evalBody hE.related trivial forms

theorem confined_apply (f : Value) (args : List Value) : (E.apply f args).Confined :=
  hE.call f args f

/-! ### Lambdas and loops -/

theorem confined_callLambda (r : LambdaRef) (args : List Value) :
    (E.callLambda r args).Confined := by
  unfold callLambda
  refine confined_get_bind fun m => ?_
  refine confined_bind_at ?_ fun result m' _ => confined_ofOutcome result.1 m'
  exact confined_inContext (relates_runClauses hE.related r E.rounds args) fun hm => hm.home r

theorem confined_bindLoop (scope : ScopeRef) (bindings : List (Value × Value)) :
    (E.bindLoop scope bindings).Confined :=
  relates_bindLoop hE.related trivial (fun _ _ => confined_define scope _ _ none) bindings

theorem confined_evalLoop (scope : ScopeRef) (operands : List Value) :
    (E.evalLoop scope operands).Confined := by
  fun_cases E.evalLoop scope operands with
  | case1 => exact confined_failArity _ _ _
  | case2 body _ items heven =>
    refine (confined_newScope _ _ _).bind fun base => ?_
    refine (confined_bindLoop hE base _).bind fun names => ?_
    exact relates_runLoop hE.related base names body E.rounds trivial
  | case3 => exact (confined_print _).bind fun _ => confined_failForm _
  | case4 => exact (confined_print _).bind fun _ => confined_failForm _

/-! ### Definitions -/

theorem confined_evalDefine (scope : ScopeRef) (operands : List Value) :
    (E.evalDefine scope operands).Confined :=
  fun m => rel_evalDefine hE.related trivial (fun _ _ _ _ => confined_define _ _ none none m)
    fun _ _ value => confined_defineVariable scope _ value _

theorem confined_evalAssign (scope : ScopeRef) (operands : List Value) :
    (E.evalAssign scope operands).Confined :=
  fun _ => rel_evalAssign hE.related trivial fun name _ owner _ _ value =>
    confined_store owner name.base value

/-! ### Modules -/

omit hE in
theorem confined_moduleName (context : String) (operands : List Value) :
    (Eval.moduleName context operands).Confined :=
  relates_moduleName (S := confinement) context operands

omit hE in
theorem confined_evalModule (operands : List Value) : (evalModule operands).Confined := by
  unfold evalModule
  refine (confined_moduleName _ operands).bind fun name m => ?_
  refine confined_bind_at (confined_openModule name m) fun r m' hopen => ?_
  refine confined_bind_at ?_ fun _ m'' _ => confined_pure _ m''
  exact confined_enter (hasModule_of_openModule hopen)

omit hE in
theorem confined_evalUse (operands : List Value) : (evalUse operands).Confined := by
  unfold evalUse
  refine (confined_moduleName _ operands).bind fun name => ?_
  refine confined_get_bind fun m => ?_
  cases hmodule : m.module? name.text with
  | none => exact confined_fail _ m
  | some r =>
    refine confined_bind_at ?_ fun _ m' _ => confined_pure _ m'
    exact confined_enter fun hm => hm.registry _ _ hmodule

omit hE in
theorem confined_directory : E.directory.Confined := confined_get.bind fun _ => confined_pure _

theorem confined_evalRequire [Tables] (operands : List Value) :
    (E.evalRequire operands).Confined := by
  fun_cases E.evalRequire operands with
  | case1 path =>
    refine confined_context_bind fun m => ?_
    refine confined_bind_at (confined_directory m) fun dir m' hdir => ?_
    cases hdir
    refine confined_bind_at ?_ fun _ m' _ => confined_pure _ m'
    exact confined_evalFile hE Machine.Placed.context _
  | case2 name =>
    refine confined_directory.bind fun dir => ?_
    refine confined_context_bind fun m => ?_
    refine confined_bind_at (confined_evalFile hE Machine.Placed.context _) fun _ m' _ => ?_
    refine confined_get_bind (fun m' => ?_) m'
    cases (m'.module? name.text).isNone with
    | true => exact (confined_fail _).bind (fun _ => confined_pure _) m'
    | false => exact confined_pure _ m'
  | case3 => exact (confined_print _).bind fun _ => confined_failForm _
  | case4 => exact confined_failArity _ _ _

/-! ### The ways in -/

theorem confined_expandForm (form : Value) : (E.expandForm form).Confined := by
  unfold expandForm
  refine confined_get_bind fun m => ?_
  refine confined_bind_at ?_ fun result m' _ => confined_ofOutcome result.1 m'
  exact confined_inContext (relates_expand hE.related m.session.scope form) Machine.Placed.session

/-! ### All rules -/

theorem Confined.special [Tables] : Special confinement E E where
  lambda := confined_callLambda hE
  loop := confined_evalLoop hE
  module := confined_evalModule
  use := confined_evalUse
  require := confined_evalRequire hE
  file := confined_loadFile hE
  expand := confined_expandForm hE

/-- Calling a value leaves the session where it is. -/
theorem confined_callValue [Tables] (f : Value) (args : List Value) (form : Value) :
    (E.callValue f args form).Confined := by
  by_cases h : f = .entity (.builtin (.procedure .eval))
  · subst h
    exact relates_callEval hE.related (confined_evalForm hE) args form
  · exact relates_callValue hE.related (Confined.special hE) h args form

theorem confined_evalExpanded [Tables] (scope : ScopeRef) (form : Value) :
    (E.evalExpanded scope form).Confined := by
  refine fun m => rel_evalExpanded hE.related (Confined.special hE) trivial
    fun _ operands sf _ _ h => ?_
  obtain rfl | rfl := h
  · exact confined_evalDefine hE scope operands m
  · exact confined_evalAssign hE scope operands m

/-- Evaluating a form leaves the session where it is. -/
theorem confined_step [Tables] (scope : ScopeRef) (form : Value) : (E.step scope form).Confined :=
  Eval.Confined.bind (relates_expand hE.related scope form) (confined_evalExpanded hE scope)

omit hE in
/-- Each round of fuel goes once through the rules, with the engine of the rounds below it. -/
theorem confined_ofFuel [Tables] (setting : Setting) (fuel : Nat) :
    (ofFuel setting fuel).Confined := by
  induction fuel with
  | zero =>
    refine ⟨fun scope form => ?_, fun f args form => ?_⟩
    · exact confined_throw _
    · exact confined_throw _
  | succ fuel ih =>
    refine ⟨fun scope form => ?_, fun f args form => ?_⟩
    · exact confined_step ih scope form
    · exact confined_callValue ih f args form

end Engine

end Lisp
