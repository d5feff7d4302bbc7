import Lisp.Proofs.Eval.Confinement
import Lisp.Proofs.Eval.Watch
import Lisp.Proofs.Machine.Sparing

/-!
# Code that runs elsewhere

Code that runs in other scopes than a given one never comes to run in it: calls, loops and files get
scopes of their own, the session has another one, and what runs where the code stands runs elsewhere
too. So such code gives the scope no more names, whatever it evaluates and calls. It may still give
new values to the names that the scope binds, for assignments reach all scopes around them.

## Main definitions

* `Eval.sparing` — that evaluations leave the names of a scope alone, as a way to compare them
* `Eval.elsewhere` — the other scopes
* `Eval.Spares` — evaluations that leave the names of a scope alone

## Main results

* `Engine.spares_step`, `Engine.spares_callValue` — the rules
* `Engine.related_elsewhere` — whatever runs in another scope leaves the names alone
-/

namespace Lisp

open Comparison Machine

namespace Eval

variable {α β : Type} {r : ScopeRef} {m : Machine}

/-- Evaluations are looked at for whether they leave the names of a scope alone. There are no two of
them to be told apart. -/
def sparing (r : ScopeRef) : Comparison where
  Rel m _ act := m.Aside r → m.Spares r (act.after m)
  rel_pure _ _ aside := .refl aside
  rel_throw _ _ aside := .refl aside
  rel_get _ aside := .refl aside
  rel_bind {_ _ _ y _ _ m} h rest aside := by
    simp only [after, bind, EStateM.bind] at h rest ⊢
    have first := h aside
    cases hy : y m with
    | error s m' =>
      rw [hy] at first
      exact first
    | ok a m' =>
      rw [hy] at first
      exact first.trans (rest a m' hy first.aside)
  rel_attempt h _ rest aside := by
    simp only [after, bind, EStateM.bind, attempt_eq]
    exact (h aside).trans (rest _ _ (h aside).aside)
  rel_effect h _ aside := spares_of_keeps aside fun _ fits => Watch.keeps_effect fits h

/-- The scopes other than a given one. A scope that is made is none that was there. -/
def elsewhere (r : ScopeRef) : (sparing r).Realm where
  Allows scope := scope ≠ r
  rel_newScope {_ _ _ _ f g _} rest aside := by
    refine (sparing r).rel_bind (f := f) ((sparing r).rel_effect (.newScope _ _ _) _) ?_ aside
    rintro next m' ⟨⟩
    exact rest _ _ aside.ne_next

/-- The evaluation leaves the names of a scope alone that no module has and in which the session
does not run. -/
abbrev Spares (r : ScopeRef) (act : Eval α) : Prop := (sparing r).Relates act act

theorem spares_of_keeps {act : Eval α}
    (keeps : ∀ m n, (Watch.binding r n).Fits m → (Watch.binding r n).Keeps m (act.after m)) :
    act.Spares r :=
  fun m aside => Machine.spares_of_keeps aside (keeps m)

/-- What goes on where an evaluation has ended with a value may depend on where that is. -/
theorem spares_bind_at {act : Eval α} {f : α → Eval β} (h : act.Spares r)
    (rest : ∀ a m', act m = .ok a m' → m.Aside r → (sparing r).Rel m' (f a) (f a)) :
    (sparing r).Rel m (act >>= f) (act >>= f) :=
  fun aside => (sparing r).rel_bind (f := f) (h m) (fun a m' ha => rest a m' ha aside) aside

/-- A binding in another scope is not watched. -/
theorem notMem_binding {scope : ScopeRef} (other : scope ≠ r) (n name : String) :
    (scope, name) ∉ (Watch.binding r n).names :=
  fun hp => other (congrArg Prod.fst (List.mem_singleton.1 hp))

theorem spares_define {scope : ScopeRef} (other : scope ≠ r) (name : String)
    (value : Option Value) (metadata : Option Metadata) :
    (Eval.define scope name value metadata).Spares r :=
  spares_of_keeps fun _ n _ => Watch.keeps_define (notMem_binding other n name) value metadata

/-- A definition goes to a module or to the scope that it stands in. -/
theorem spares_defineVariable {scope : ScopeRef} (other : scope ≠ r) (name : Name) (value : Value)
    (metadata : Metadata) : (Eval.defineVariable scope name value metadata).Spares r :=
  spares_of_keeps fun _ n fits =>
    Watch.keeps_defineVariable fits (fun _ => notMem_binding other n name.base) value

theorem spares_enter (q : ModuleRef) : (Eval.enter q).Spares r :=
  spares_of_keeps fun _ _ _ => Watch.keeps_enter q

theorem spares_setSource (scope : ScopeRef) (source : String) :
    (Eval.modifyScopes fun s => s.setSource scope source).Spares r :=
  spares_of_keeps fun _ _ _ => Watch.keeps_setSource scope source

theorem spares_setPosition (scope : ScopeRef) (position : Text.Position) :
    (Eval.modifyScopes fun s => s.setPosition scope position).Spares r :=
  spares_of_keeps fun _ _ _ => Watch.keeps_setPosition scope position

theorem spares_inContext {act : Eval α} (h : act.Spares r) (c : Context) :
    (Eval.inContext c act).Spares r := by
  intro m aside
  rw [after, inContext_eq]
  exact (h _ (aside.withContext c)).inContext

/-! ### Places -/

theorem spares_openToplevel (c : Context) (locals : List (String × Value)) :
    (Eval.openToplevel c locals).Spares r :=
  spares_of_keeps fun _ _ fits => Watch.keeps_openToplevel fits c locals

theorem spares_follow (top : Toplevel) : (Eval.follow top).Spares r :=
  Engine.relates_follow spares_openToplevel spares_setSource top

/-- A place that moves stays elsewhere. -/
theorem ne_of_follow {top top' : Toplevel} {m' : Machine} (aside : m.Aside r)
    (other : top.scope ≠ r) (h : Eval.follow top m = .ok top' m') : top'.scope ≠ r := by
  obtain ⟨top₁, m₁, moved, follows⟩ := follow_spec top m
  rw [h] at moved
  cases moved
  cases follows with
  | stay _ => exact other
  | move _ _ _ => exact aside.ne_next

end Eval

open Eval

namespace Engine

variable {E : Engine} {r : ScopeRef} (rel : Related (elsewhere r) E E)

include rel

/-! ### Lambdas and loops -/

theorem spares_callLambda (l : LambdaRef) (args : List Value) : (E.callLambda l args).Spares r :=
  relates_get.bind fun _ => (spares_inContext (relates_runClauses rel l E.rounds args) _).bind
    fun result => relates_ofOutcome result.1

theorem spares_expandForm (form : Value) : (E.expandForm form).Spares r :=
  relates_get.bind fun m => (spares_inContext (relates_expand rel m.session.scope form) _).bind
    fun result => relates_ofOutcome result.1

theorem spares_evalLoop (scope : ScopeRef) (operands : List Value) :
    (E.evalLoop scope operands).Spares r := by
  fun_cases E.evalLoop scope operands with
  | case1 => exact relates_failArity _ _ _
  | case2 body _ items even =>
    refine (elsewhere r).relates_newScope_bind fun base other => ?_
    have bound := relates_bindLoop rel other fun name value => spares_define other name value none
    refine (bound _).bind fun names => ?_
    exact relates_runLoop rel base names body E.rounds other
  | case3 => exact (relates_print _).bind fun _ => relates_failForm _
  | case4 => exact (relates_print _).bind fun _ => relates_failForm _

/-! ### Definitions and assignments -/

theorem spares_evalDefine {scope : ScopeRef} (other : scope ≠ r) (operands : List Value) :
    (E.evalDefine scope operands).Spares r := by
  intro m
  refine rel_evalDefine rel other (fun parts target _ htarget aside => ?_)
    fun parts _ value => spares_defineVariable other parts.name value _
  refine Machine.spares_of_keeps aside fun n fits => Watch.keeps_define ?_ none none
  exact Watch.free_of_target fits (fun _ => notMem_binding other n _) htarget

/-- An assignment binds nothing, wherever the binding is that it writes to. -/
theorem spares_evalAssign {scope : ScopeRef} (other : scope ≠ r) (operands : List Value) :
    (E.evalAssign scope operands).Spares r := by
  intro m
  refine rel_evalAssign rel other fun name _ owner _ _ value m aside => ?_
  exact spares_store aside owner name.base value

/-! ### Modules and files -/

omit rel in
theorem spares_openModule (name : Name) : (Eval.openModule name).Spares r :=
  spares_of_keeps fun _ _ fits => Watch.keeps_openModule fits name

theorem spares_evalAt {top : Toplevel} (other : top.scope ≠ r) (form : Value) :
    (E.evalAt top form).Spares r :=
  (spares_inContext (relates_evalTop rel other form) top.context).bind fun _ => relates_pure _

/-- The forms of a file run elsewhere if the first one does. -/
theorem spares_runForms (source : String) (fault : Option Reader.Fault)
    (forms : List Reader.Located) (last : Value) {top : Toplevel} (other : top.scope ≠ r) :
    (E.runForms false source fault forms last top).Spares r := by
  induction forms generalizing last top with
  | nil => exact relates_pure _
  | cons located forms ih =>
    intro m
    rw [runForms]
    refine spares_bind_at (spares_follow top) fun top' m' hfollow aside => ?_
    have other := ne_of_follow aside other hfollow
    refine (spares_setPosition top'.scope located.start).bind (fun _ m => ?_) m'
    refine spares_bind_at (spares_evalAt rel other located.form) fun result m' h _ => ?_
    -- the place gets another context at most
    rw [evalAt_eq] at h
    cases h
    simp only [Bool.false_eq_true, if_false, pure_bind]
    split
    · refine ih _ ?_ _
      exact other
    · exact relates_pure _ _

theorem spares_evalFile [Tables] (c : Context) (path : String) : (E.evalFile c path).Spares r := by
  unfold evalFile read
  cases E.setting.files path with
  | none => exact fun m => spares_bind_at (relates_throw _) fun _ _ h => nomatch h
  | some contents =>
    refine (relates_pure contents).bind fun contents => ?_
    cases contents with
    | error problem => exact relates_fail _
    | ok text =>
      intro m
      refine spares_bind_at (spares_openToplevel _ _) fun top m' h aside => ?_
      -- the file has a scope that was not there
      rw [openToplevel_eq] at h
      cases h
      refine (spares_setSource _ path).bind (fun _ => ?_) _
      refine (spares_runForms rel path _ _ .nil aside.ne_next).bind fun ended => ?_
      exact (spares_follow ended.2).bind fun _ => relates_ofOutcome ended.1

theorem spares_loadFile [Tables] (path : String) : (E.loadFile path).Spares r :=
  relates_get.bind fun m => spares_evalFile rel m.session.context path

/-- A form in the session runs where the session does. -/
theorem spares_evalForm (form : Value) : (E.evalForm form).Spares r := by
  intro m aside
  obtain ⟨o, top, m', heval, hform⟩ := evalForm_spec (E := E) form m
  have run := spares_evalAt rel aside.session form m aside
  rw [after, heval] at run
  rw [evalAt_eq] at heval
  cases heval
  rw [after_of_eq hform]
  exact run.trans (spares_session run.aside aside.session)

/-! ### All rules -/

theorem spares_special [Tables] : Special (sparing r) E E where
  lambda := spares_callLambda rel
  loop := spares_evalLoop rel
  module := relates_evalModule spares_openModule spares_enter
  use := relates_evalUse spares_enter
  require := relates_evalRequire rel (spares_evalFile rel)
  file := spares_loadFile rel
  expand := spares_expandForm rel

/-- Wherever a value is called from, its code runs elsewhere. -/
theorem spares_callValue [Tables] (f : Value) (args : List Value) (form : Value) :
    (E.callValue f args form).Spares r := by
  by_cases h : f = .entity (.builtin (.procedure .eval))
  · subst h
    exact relates_callEval rel (spares_evalForm rel) args form
  · exact relates_callValue rel (spares_special rel) h args form

/-- A form that is evaluated elsewhere. -/
theorem spares_step [Tables] {scope : ScopeRef} (other : scope ≠ r) (form : Value) :
    (E.step scope form).Spares r := by
  refine (relates_expand rel scope form).bind fun form m => ?_
  refine rel_evalExpanded rel (spares_special rel) other fun _ operands sf _ _ h => ?_
  obtain rfl | rfl := h
  · exact spares_evalDefine rel other operands m
  · exact spares_evalAssign rel other operands m

omit rel in
/-- Whatever is evaluated elsewhere, and whatever is called, leaves the names of a scope alone. -/
theorem related_elsewhere [Tables] (r : ScopeRef) (setting : Setting) (fuel : Nat) :
    Related (elsewhere r) (ofFuel setting fuel) (ofFuel setting fuel) := by
  -- the rules of one round refer to engines with less fuel
  induction fuel with
  | zero =>
    refine ⟨rfl, rfl, fun _ form => ?_, fun f args form => ?_⟩
    · exact relates_throw .exhausted
    · exact relates_throw .exhausted
  | succ fuel ih =>
    refine ⟨rfl, rfl, fun other form => ?_, fun f args form => ?_⟩
    · exact spares_step ih other form
    · exact spares_callValue ih f args form

end Engine

end Lisp
