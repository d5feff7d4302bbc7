import Lisp.Proofs.Eval.Toplevel
import Lisp.Proofs.Machine.Watch

/-!
# Runs that are watched

A watched run does what any run does until what is watched for is about to happen, or has just
happened: then it stops, as if it had run out of fuel. So a watched run that does not stop is the
run itself, and in it nothing of that has happened. Writing to a binding is the doing of two special
forms, and moving the session that of one procedure; the watch looks at these and at nothing else.

## Main definitions

* `Watch.writes` — special forms that write to what is watched
* `Watch.engine` — the engine whose runs are watched
* `Watch.comparison` — a watched run stops, or is the run itself and nothing has happened

## Main results

* `Watch.related_engine` — the watched engine and the engine
-/

namespace Lisp

open Eval Comparison

namespace Watch

/-- Whether a form gives a new value to a watched binding, or defines one privately. -/
def writes (w : Watch) (m : Machine) (scope : ScopeRef) : Value → Bool
  | .list (.symbol head :: operands) =>
    match SpecialForm.ofName? head with
    | some .define =>
      match Definition.parse m.heap operands with
      | .ok parts =>
        (parts.metadata.getD {}).flag "private" && decide ((scope, parts.name.base) ∈ w.names)
      | .error _ => false
    | some .assign =>
      match operands with
      | [.symbol name, _] =>
        match m.owner? scope name with
        | .ok (some owner) => decide ((owner, name.base) ∈ w.names)
        | _ => false
      | _ => false
    | _ => false
  | _ => false

/-- Stops after an evaluation that has moved the session to another module, if that is watched
for. -/
def guard {α : Type} (w : Watch) (act : Eval α) : Eval α := do
  let module := (← get).session.context.module
  let outcome ← attempt act
  if w.session && (← get).session.context.module ≠ module then throw .exhausted
  ofOutcome outcome

/-- Evaluates a form, unless it writes to what is watched. -/
def step [Tables] (w : Watch) (E : Engine) (scope : ScopeRef) (form : Value) : Eval Value := do
  let form ← E.expand scope form
  if w.writes (← get) scope form then throw .exhausted
  E.evalExpanded scope form

/-- Calls a value. The procedure that evaluates a form in the session may move it. -/
def callValue [Tables] (w : Watch) (E : Engine) (f : Value) (args : List Value) (form : Value) :
    Eval Value :=
  match f with
  | .entity (.builtin (.procedure .eval)) => w.guard (E.callValue f args form)
  | _ => E.callValue f args form

mutual

/-- Evaluates a form as far as the fuel lasts, watched. -/
def evalFuel [Tables] (w : Watch) (s : Setting) : Nat → ScopeRef → Value → Eval Value
  | 0, _, _ => throw .exhausted
  | fuel + 1, scope, form => w.step ⟨s, fuel, evalFuel w s fuel, callFuel w s fuel⟩ scope form

/-- Calls a value as far as the fuel lasts, watched. -/
def callFuel [Tables] (w : Watch) (s : Setting) : Nat → Value → List Value → Value → Eval Value
  | 0, _, _, _ => throw .exhausted
  | fuel + 1, f, args, form =>
    w.callValue ⟨s, fuel, evalFuel w s fuel, callFuel w s fuel⟩ f args form

end

/-- The engine that follows the rules as far as its fuel lasts, unless it stops before. -/
def engine [Tables] (w : Watch) (s : Setting) (fuel : Nat) : Engine :=
  ⟨s, fuel, w.evalFuel s fuel, w.callFuel s fuel⟩

variable {α β : Type} {w : Watch} {m : Machine}

/-! ### The comparison -/

/-- A watched run stops, or it is the run itself and nothing has happened. -/
def comparison (w : Watch) : Comparison where
  Rel m x y := w.Fits m → x.Stops m ∨ (x m = y m ∧ w.Keeps m (y.after m))
  rel_pure _ m _ := .inr ⟨rfl, .refl w m⟩
  rel_throw _ m _ := .inr ⟨rfl, .refl w m⟩
  rel_get m _ := .inr ⟨rfl, .refl w m⟩
  rel_bind {α β x y f g m} h rest fits := by
    obtain stops | ⟨same, kept⟩ := h fits
    · exact .inl (stops.bind f)
    · unfold Stops Eval.after at *
      simp only [bind, EStateM.bind, same]
      cases hy : y m with
      | error s m' =>
        rw [hy] at kept
        exact .inr ⟨rfl, kept⟩
      | ok a m' =>
        rw [hy] at kept
        obtain stops | ⟨same, kept'⟩ := rest a m' hy (kept.fits fits)
        · exact .inl stops
        · exact .inr ⟨same, kept.trans kept'⟩
  rel_attempt {α β x y f g m} h stop rest fits := by
    have bind_attempt (z : Eval α) (k : Except Signal α → Eval β) :
        (attempt z >>= k) m = k (z.outcome m) (z.after m) := by
      simp only [bind, EStateM.bind, attempt_eq]
    have after_attempt : (attempt y >>= g).after m = (g (y.outcome m)).after (y.after m) := by
      rw [Eval.after, bind_attempt]
      rfl
    obtain ⟨m', stops⟩ | ⟨same, kept⟩ := h fits
    · -- a stop has become an outcome here, so it is what goes on that has to stop again
      left
      obtain ⟨m'', stops'⟩ := stop m'
      refine ⟨m'', ?_⟩
      rw [bind_attempt, Eval.outcome, Eval.after, stops]
      exact stops'
    · obtain stops | ⟨same', kept'⟩ := rest (y.outcome m) (y.after m) (kept.fits fits)
      · left
        obtain ⟨m', stops⟩ := stops
        refine ⟨m', ?_⟩
        rw [bind_attempt, Eval.outcome, Eval.after, same]
        exact stops
      · right
        rw [bind_attempt, bind_attempt, after_attempt]
        refine ⟨?_, kept.trans kept'⟩
        rw [← same', Eval.outcome, Eval.outcome, Eval.after, Eval.after, same]
  rel_effect h m fits := .inr ⟨rfl, keeps_effect fits h⟩

/-! ### Evaluations that are the same for both -/

theorem rel_of_keeps {act : Eval α} (h : w.Fits m → w.Keeps m (act.after m)) :
    w.comparison.Rel m act act :=
  fun fits => .inr ⟨rfl, h fits⟩

theorem relates_setSource (r : ScopeRef) (source : String) :
    w.comparison.Relates (Eval.modifyScopes fun s => s.setSource r source)
      (Eval.modifyScopes fun s => s.setSource r source) :=
  fun _ => rel_of_keeps fun _ => keeps_setSource r source

theorem relates_setPosition (r : ScopeRef) (position : Text.Position) :
    w.comparison.Relates (Eval.modifyScopes fun s => s.setPosition r position)
      (Eval.modifyScopes fun s => s.setPosition r position) :=
  fun _ => rel_of_keeps fun _ => keeps_setPosition r position

theorem relates_enter (r : ModuleRef) :
    w.comparison.Relates (Eval.enter r) (Eval.enter r) :=
  fun _ => rel_of_keeps fun _ => keeps_enter r

/-! ### Places -/

/-- The bindings of a new scope are not watched. -/
theorem keeps_openToplevel (fits : w.Fits m) (c : Context) (locals : List (String × Value)) :
    w.Keeps m ((Eval.openToplevel c locals).after m) := by
  rw [Eval.after, openToplevel_eq]
  exact (keeps_newScope fits _ _ _).trans (keeps_defineAll (fun _ hp => fits.ne_next hp) locals)

theorem relates_openToplevel (c : Context) (locals : List (String × Value)) :
    w.comparison.Relates (Eval.openToplevel c locals) (Eval.openToplevel c locals) :=
  fun _ => rel_of_keeps fun fits => keeps_openToplevel fits c locals

theorem relates_follow (top : Toplevel) :
    w.comparison.Relates (Eval.follow top) (Eval.follow top) :=
  Engine.relates_follow relates_openToplevel relates_setSource top

/-- What goes on with the outcome of an evaluation in another context stops if that has. -/
theorem rel_inContext_bind {c : Context} {x y : Eval α} {f g : Except Signal α × Context → Eval β}
    (h : w.comparison.Relates x y) (stop : ∀ c m, (f (.error .exhausted, c)).Stops m)
    (rest : ∀ o c' m', c'.dir = c.dir → w.Keeps m m' →
      w.comparison.Rel m' (f (o, c')) (g (o, c'))) :
    w.comparison.Rel m (Eval.inContext c x >>= f) (Eval.inContext c y >>= g) := by
  intro fits
  have bind_inContext (z : Eval α) (k : Except Signal α × Context → Eval β) :
      (Eval.inContext c z >>= k) m =
        k (z.outcome { m with context := c }, (z.after { m with context := c }).context)
          { z.after { m with context := c } with context := m.context } := by
    simp only [bind, EStateM.bind, inContext_eq]
  have fits' : w.Fits { m with context := c } := fun p hp =>
    ⟨(fits p hp).there, (fits p hp).global, (fits p hp).module⟩
  obtain ⟨m', stops⟩ | ⟨same, kept⟩ := h _ fits'
  · left
    obtain ⟨m'', stops'⟩ := stop m'.context { m' with context := m.context }
    refine ⟨m'', ?_⟩
    rw [bind_inContext, Eval.outcome, Eval.after, stops]
    exact stops'
  · -- both go on with one outcome, from one machine outside
    have outside := kept.inContext
    have hoc : x.outcome { m with context := c } = y.outcome { m with context := c } := by
      rw [Eval.outcome, Eval.outcome, same]
    have haf : x.after { m with context := c } = y.after { m with context := c } := by
      rw [Eval.after, Eval.after, same]
    obtain ⟨m', stops⟩ | ⟨same', kept'⟩ := rest (y.outcome { m with context := c })
      _ _ kept.dir outside (outside.fits fits)
    · left
      refine ⟨m', ?_⟩
      rw [bind_inContext, hoc, haf]
      exact stops
    · right
      rw [Eval.after, bind_inContext, bind_inContext, hoc, haf]
      exact ⟨same', outside.trans kept'⟩

section Engines

variable {W E : Engine} (rel : Engine.Related w.comparison.anywhere W E)

include rel

/-! ### Rules -/

theorem relates_callLambda (r : LambdaRef) (args : List Value) :
    w.comparison.Relates (W.callLambda r args) (E.callLambda r args) := by
  unfold Engine.callLambda
  rw [rel.rounds]
  refine relates_get.bind fun m₀ m => ?_
  refine rel_inContext_bind (Engine.relates_runClauses rel r E.rounds args)
    (fun _ m => stops_throw m) fun o _ m' _ _ => relates_ofOutcome o m'

theorem relates_expandForm (form : Value) :
    w.comparison.Relates (W.expandForm form) (E.expandForm form) := by
  unfold Engine.expandForm
  refine relates_get.bind fun m₀ m => ?_
  exact rel_inContext_bind (Engine.relates_expand rel m₀.session.scope form)
    (fun _ m => stops_throw m) fun o _ m' _ _ => relates_ofOutcome o m'

theorem relates_evalLoop (scope : ScopeRef) (operands : List Value) :
    w.comparison.Relates (W.evalLoop scope operands) (E.evalLoop scope operands) := by
  unfold Engine.evalLoop
  rw [rel.rounds]
  split
  · exact relates_failArity _ _ _
  · split
    · split_ifs
      · intro m fits
        refine w.comparison.rel_bind (rel_of_keeps fun _ => keeps_newScope fits _ _ _) ?_ fits
        rintro base m' ⟨⟩
        -- the names are bound in a scope that is not watched
        have defined (name : String) (value : Value) :
            w.comparison.Relates (Eval.define m.heap.scopes.next name (some value))
              (Eval.define m.heap.scopes.next name (some value)) :=
          fun _ => rel_of_keeps fun _ => keeps_define (fun hp => fits.ne_next hp rfl) _ _
        refine (Engine.relates_bindLoop rel trivial defined _).bind (fun names => ?_) _
        exact Engine.relates_runLoop rel _ names _ E.rounds trivial
      · exact (relates_print _).bind fun _ => relates_failForm _
    · exact (relates_print _).bind fun _ => relates_failForm _

/-! ### Definitions and assignments -/

/-- A definition that is not watched. The module that it goes to may be another one when its value
is known. -/
theorem rel_evalDefine {scope : ScopeRef} {operands : List Value}
    (free : ∀ parts, Definition.parse m.heap operands = .ok parts →
      (parts.metadata.getD {}).flag "private" = true → (scope, parts.name.base) ∉ w.names) :
    w.comparison.Rel m (W.evalDefine scope operands) (E.evalDefine scope operands) := by
  refine Engine.rel_evalDefine rel trivial (fun parts target hparse htarget => ?_)
    fun parts hparse value m => ?_
  · exact rel_of_keeps fun fits =>
      keeps_define (free_of_target fits (free parts hparse) htarget) _ _
  · exact rel_of_keeps fun fits => keeps_defineVariable fits (free parts hparse) value

/-- An assignment to a binding that is not watched. -/
theorem rel_evalAssign {scope : ScopeRef} {operands : List Value}
    (free : ∀ name form owner, operands = [.symbol name, form] →
      m.owner? scope name = .ok (some owner) → (owner, name.base) ∉ w.names) :
    w.comparison.Rel m (W.evalAssign scope operands) (E.evalAssign scope operands) := by
  refine Engine.rel_evalAssign rel trivial fun name form owner hoperands howner value m => ?_
  exact rel_of_keeps fun _ => keeps_store (free name form owner hoperands howner) value

/-! ### Files -/

/-- What goes on with the outcome of a form stops if that has. -/
theorem relates_evalAt_bind {top : Toplevel} {form : Value}
    {f g : Except Signal Value × Toplevel → Eval α}
    (stop : ∀ top m, (f (.error .exhausted, top)).Stops m)
    (rest : ∀ o top, w.comparison.Relates (f (o, top)) (g (o, top))) :
    w.comparison.Relates (W.evalAt top form >>= f) (E.evalAt top form >>= g) := by
  unfold Engine.evalAt
  rw [bind_assoc, bind_assoc]
  refine fun m => rel_inContext_bind (Engine.relates_evalTop rel trivial form)
    (fun c m => stop { top with context := c } m) fun o c m' _ _ => ?_
  exact rest o { top with context := c } m'

/-- A run of forms outside of the session. -/
theorem relates_runForms_bind {source : String} {fault : Option Reader.Fault}
    (forms : List Reader.Located) {f g : Except Signal Value × Toplevel → Eval α}
    (stop : ∀ top m, (f (.error .exhausted, top)).Stops m)
    (rest : ∀ o top, w.comparison.Relates (f (o, top)) (g (o, top))) (last : Value)
    (top : Toplevel) :
    w.comparison.Relates (W.runForms false source fault forms last top >>= f)
      (E.runForms false source fault forms last top >>= g) := by
  induction forms generalizing last top with
  | nil => exact (relates_pure _).bind fun _ => rest _ _
  | cons located forms ih =>
    rw [Engine.runForms, Engine.runForms]
    simp only [bind_assoc, Bool.false_eq_true, if_false, pure_bind]
    refine (relates_follow top).bind fun top => ?_
    refine (relates_setPosition _ _).bind fun _ => ?_
    refine relates_evalAt_bind rel stop fun o top => ?_
    cases o with
    | ok value => exact ih value top
    | error s => exact (relates_pure _).bind fun _ => rest _ _

theorem relates_evalSource [Tables] (text source : String) (top : Toplevel) :
    w.comparison.Relates (W.evalSource false text source top)
      (E.evalSource false text source top) := by
  unfold Engine.evalSource
  rw [rel.mode]
  refine (relates_setSource _ _).bind fun _ => ?_
  refine relates_runForms_bind rel _ (fun top m => ?_) (fun o top => ?_) _ _
  · -- the place still moves before the run ends
    obtain ⟨top', m', hfollow, -⟩ := follow_spec top m
    exact ⟨m', by simp only [bind, EStateM.bind, hfollow]; rfl⟩
  · exact (relates_follow top).bind fun top => relates_ofOutcome o

theorem relates_evalFile [Tables] (c : Context) (path : String) :
    w.comparison.Relates (W.evalFile c path) (E.evalFile c path) := by
  unfold Engine.evalFile Engine.read
  rw [rel.setting]
  cases E.setting.files path with
  | none => exact fun m => w.comparison.rel_bind (relates_throw _ m) fun _ _ h => nomatch h
  | some contents =>
    refine (relates_pure contents).bind fun contents => ?_
    cases contents with
    | error problem => exact relates_fail _
    | ok text =>
      refine (relates_openToplevel _ _).bind fun top => ?_
      exact relates_evalSource rel (Text.dropShebang text) path top

theorem relates_loadFile [Tables] (path : String) :
    w.comparison.Relates (W.loadFile path) (E.loadFile path) :=
  relates_get.bind fun m => relates_evalFile rel m.session.context path

theorem special [Tables] : Engine.Special w.comparison W E where
  lambda := relates_callLambda rel
  loop := relates_evalLoop rel
  module := Engine.relates_evalModule
    (fun name _ => rel_of_keeps fun fits => keeps_openModule fits name) relates_enter
  use := Engine.relates_evalUse relates_enter
  require := Engine.relates_evalRequire rel (relates_evalFile rel)
  file := relates_loadFile rel
  expand := relates_expandForm rel

/-! ### The session -/

theorem related_idle : Engine.Related w.idle.comparison.anywhere W E where
  setting := rel.setting
  rounds := rel.rounds
  eval hs form m fits :=
    (rel.eval hs form m fits).imp_right fun h => ⟨h.1, h.2.idle⟩
  call f args form m fits :=
    (rel.call f args form m fits).imp_right fun h => ⟨h.1, h.2.idle⟩

/-- A form that is evaluated in the session moves it to another module at most. -/
theorem relates_evalForm (form : Value) :
    w.idle.comparison.Relates (W.evalForm form) (E.evalForm form) := by
  have rel := related_idle rel
  unfold Engine.evalForm Engine.evalAt
  refine fun m => rel_get_bind ?_
  rw [bind_assoc, bind_assoc]
  refine rel_inContext_bind (Engine.relates_evalTop rel trivial form)
    (fun c m => stops_throw _) fun o c m' hdir kept => ?_
  let top : Toplevel := { m.session with context := c }
  change w.idle.comparison.Rel m' (Eval.saveSession top >>= fun _ => Eval.ofOutcome o)
    (Eval.saveSession top >>= fun _ => Eval.ofOutcome o)
  refine w.idle.comparison.rel_bind (rel_of_keeps fun _ => ?_) fun _ m'' _ =>
    relates_ofOutcome o m''
  refine ⟨fun _ hr => hr.mono (Nat.le_refl _) rfl, fun _ _ => rfl, rfl, ?_, fun hw => nomatch hw⟩
  -- the context that is saved has the directory of the session
  change top = { m'.session with context.module := c.module }
  rw [kept.session]
  dsimp only
  rw [← hdir]

omit rel in
/-- An evaluation that is guarded stops if it has moved the session, and is the evaluation itself
else. -/
theorem rel_guard {x y : Eval α} (h : w.idle.comparison.Rel m x y) :
    w.comparison.Rel m (w.guard x) y := by
  intro fits
  have result : Eval.ofOutcome (x.outcome m) (x.after m) = x m := by
    unfold Eval.outcome Eval.after
    cases x m with
    | ok a m' => rfl
    | error s m' => rfl
  have guarded : w.guard x m =
      if w.session ∧ (x.after m).session.context.module ≠ m.session.context.module then
        .error .exhausted (x.after m)
      else x m := by
    rw [← result]
    simp only [guard, bind, EStateM.bind, get_apply, attempt_eq, Bool.and_eq_true,
      decide_eq_true_eq]
    split_ifs
    · rfl
    · rfl
  rw [Stops, guarded]
  split_ifs with moved
  · exact .inl ⟨_, rfl⟩
  · -- that the session has not been moved is what the guard has found out
    refine (h fits).imp_right fun ⟨same, kept⟩ => ⟨same, { kept with module := fun hw => ?_ }⟩
    have after : x.after m = y.after m := by rw [Eval.after, Eval.after, same]
    by_contra hmoved
    exact moved ⟨hw, after ▸ hmoved⟩

/-- A call of anything, watched. -/
theorem relates_callValue [Tables] (f : Value) (args : List Value) (form : Value) :
    w.comparison.Relates (w.callValue W f args form) (E.callValue f args form) := by
  by_cases h : f = .entity (.builtin (.procedure .eval))
  · subst h
    refine fun m => rel_guard ?_
    exact Engine.relates_callEval (related_idle rel) (relates_evalForm rel) args form m
  · have other : w.callValue W f args form = W.callValue f args form := by
      unfold callValue
      split
      · exact absurd rfl h
      · rfl
    rw [other]
    exact Engine.relates_callValue rel (special rel) h args form

/-- A form that writes to nothing that is watched. -/
theorem rel_evalExpanded [Tables] {scope : ScopeRef} {form : Value}
    (h : w.writes m scope form = false) :
    w.comparison.Rel m (W.evalExpanded scope form) (E.evalExpanded scope form) := by
  refine Engine.rel_evalExpanded rel (special rel) trivial ?_
  intro head operands sf hform hsf hsort
  subst hform
  obtain rfl | rfl := hsort
  · refine rel_evalDefine rel fun parts hparse hflag hmem => ?_
    simp [writes, hsf, hparse, hflag, hmem] at h
  · refine rel_evalAssign rel fun name form owner hoperands howner hmem => ?_
    subst hoperands
    simp [writes, hsf, howner, hmem] at h

/-- A form, watched. -/
theorem relates_step [Tables] (scope : ScopeRef) (form : Value) :
    w.comparison.Relates (w.step W scope form) (E.step scope form) := by
  unfold step
  refine (Engine.relates_expand rel scope form).bind fun form m => ?_
  have looked : (do
      if w.writes (← get) scope form then throw Signal.exhausted
      W.evalExpanded scope form : Eval Value) m =
        if w.writes m scope form then .error .exhausted m else W.evalExpanded scope form m := by
    simp only [bind, EStateM.bind, get_apply]
    split_ifs
    · rfl
    · rfl
  intro fits
  rw [Stops, looked]
  cases hwrites : w.writes m scope form with
  | true => exact .inl ⟨m, rfl⟩
  | false => exact rel_evalExpanded rel hwrites fits

end Engines

/-- Watched runs stop, or they are the runs themselves and nothing has happened. -/
theorem related_engine [Tables] (w : Watch) (s : Setting) (fuel : Nat) :
    Engine.Related w.comparison.anywhere (w.engine s fuel) (Engine.ofFuel s fuel) := by
  -- the rules of one round refer to engines with less fuel
  induction fuel with
  | zero =>
    refine ⟨rfl, rfl, fun _ form => ?_, fun f args form => ?_⟩
    · exact relates_throw .exhausted
    · exact relates_throw .exhausted
  | succ fuel ih =>
    refine ⟨rfl, rfl, fun _ form => ?_, fun f args form => ?_⟩
    · exact relates_step ih _ form
    · exact relates_callValue ih f args form

end Watch

end Lisp
