import Lisp.Proofs.Eval.Watch
import Lisp.Proofs.Interpreter.Session

/-!
# Where top-level forms start

The forms of a source run one after the other, each where the last one has left off. Here it is
written down where each of them starts: in the scope of a place that has moved to the active module.
A file binds its path and its directory in every scope that its forms get, and they stay bound
unless one of its forms writes to these bindings itself.

## Main definitions

* `FormStart` — where a form starts
* `Engine.starts` — where the forms of a run start, one after the other
* `Engine.textStarts`, `Engine.fileStarts` — those of a text and of a file
* `FormStart.InScope`, `FormStart.Binds`, `FormStart.Rebinds` — what is said of them

## Main results

* `Engine.evalText_of_textStarts`, `Engine.evalFile_of_fileStarts` — a source comes to what its last
  form does
* `Engine.inScope_of_mem_starts` — all forms start in the scope of the active module
* `Engine.binds_of_starts` — what a source binds for its forms stays bound
* `Interpreter.toplevel_forms_in_scope` — texts and files of a session
-/

namespace Lisp

/-- Where a form starts. -/
structure FormStart where
  /-- The context that the form before has ended in. -/
  context : Context
  form : Value
  /-- The place of the form. -/
  top : Toplevel
  machine : Machine

/-- What comes before a form of a run: its place moves to the active module. -/
def Eval.beginForm (located : Reader.Located) (top : Toplevel) : Eval Toplevel := do
  let top ← Eval.follow top
  Eval.modifyScopes fun s => s.setPosition top.scope located.start
  return top

/-- What comes after a form of a run: in a session the place moves again and is saved. -/
def Eval.endForm (inSession : Bool) (ended : Except Signal Value × Toplevel) :
    Eval (Except Signal Value × Toplevel) := do
  let top ← if inSession then do
      let top ← Eval.follow ended.2
      Eval.saveSession top
      pure top
    else pure ended.2
  return (ended.1, top)

namespace Engine

variable {E : Engine}

variable (E) in
/-- Where the forms of a run start that begins at a place. The first one that fails is the last. -/
def starts (inSession : Bool) : List Reader.Located → Toplevel → Machine → List FormStart
  | [], _, _ => []
  | located :: rest, top, m =>
    match Eval.beginForm located top m with
    | .error _ _ => []
    | .ok top₁ m₁ =>
      ⟨top.context, located.form, top₁, m₁⟩ ::
        match (E.evalAt top₁ located.form >>= Eval.endForm inSession) m₁ with
        | .ok (.ok _, top₂) m₂ => starts inSession rest top₂ m₂
        | _ => []

theorem runForm_eq (inSession : Bool) (located : Reader.Located) (top : Toplevel) :
    E.runForm inSession located top =
      Eval.beginForm located top >>= fun top =>
        E.evalAt top located.form >>= Eval.endForm inSession := by
  unfold runForm Eval.beginForm
  simp only [bind_assoc, pure_bind]
  rfl

theorem beginForm_spec (located : Reader.Located) (top : Toplevel) (m : Machine) :
    ∃ top₁ m₁, Eval.follow top m = .ok top₁ m₁ ∧ Eval.Follows top m top₁ m₁ ∧
      Eval.beginForm located top m =
        .ok top₁ (m₁.mapScopes (·.setPosition top₁.scope located.start)) := by
  obtain ⟨top₁, m₁, hfollow, follows⟩ := Eval.follow_spec top m
  refine ⟨top₁, m₁, hfollow, follows, ?_⟩
  simp only [Eval.beginForm, bind, EStateM.bind, hfollow]
  rfl

theorem endForm_spec (inSession : Bool) (o : Except Signal Value) (top : Toplevel) (m : Machine) :
    ∃ top' m', Eval.endForm inSession (o, top) m = .ok (o, top') m' ∧
      (inSession = false → top' = top ∧ m' = m) ∧
      (inSession = true → ∃ m₁, Eval.Follows top m top' m₁ ∧ m' = { m₁ with session := top' }) := by
  cases inSession with
  | false => exact ⟨top, m, rfl, fun _ => ⟨rfl, rfl⟩, fun h => absurd h Bool.false_ne_true⟩
  | true =>
    obtain ⟨top', m', hfollow, follows⟩ := Eval.follow_spec top m
    refine ⟨top', { m' with session := top' }, ?_, fun h => absurd h.symm Bool.false_ne_true,
      fun _ => ⟨m', follows, rfl⟩⟩
    simp only [Eval.endForm, bind, EStateM.bind, if_true, hfollow]
    rfl

/-- One form of a run: its place moves, it is evaluated there, and its place is left behind. -/
structure Turn (E : Engine) (inSession : Bool) (located : Reader.Located) (top : Toplevel)
    (m : Machine) (s : FormStart) (o : Except Signal Value) (top' : Toplevel) (m' : Machine) :
    Prop where
  context : s.context = top.context
  form : s.form = located.form
  begins : ∃ m₁, Eval.follow top m = .ok s.top m₁ ∧ Eval.Follows top m s.top m₁ ∧
    s.machine = m₁.mapScopes (·.setPosition s.top.scope located.start)
  ends : ∃ top₁ m₁, E.evalAt s.top s.form s.machine = .ok (o, top₁) m₁ ∧
    Eval.endForm inSession (o, top₁) m₁ = .ok (o, top') m'

/-- The forms of a run start where its first form does and where those after it do. -/
theorem starts_cons (inSession : Bool) (located : Reader.Located) (rest : List Reader.Located)
    (top : Toplevel) (m : Machine) :
    ∃ s o top' m', E.Turn inSession located top m s o top' m' ∧
      E.starts inSession (located :: rest) top m =
        s :: match o with
          | .ok _ => E.starts inSession rest top' m'
          | .error _ => [] := by
  obtain ⟨top₁, m₁, hfollow, follows, hbegin⟩ := beginForm_spec located top m
  obtain ⟨o, top₂, m₂, heval⟩ : ∃ o top₂ m₂, E.evalAt top₁ located.form
      (m₁.mapScopes (·.setPosition top₁.scope located.start)) = .ok (o, top₂) m₂ :=
    ⟨_, _, _, evalAt_eq ..⟩
  obtain ⟨top₃, m₃, hend, -⟩ := endForm_spec inSession o top₂ m₂
  refine ⟨⟨top.context, located.form, top₁, m₁.mapScopes (·.setPosition top₁.scope located.start)⟩,
    o, top₃, m₃, ⟨rfl, rfl, ⟨m₁, hfollow, follows, rfl⟩, ⟨top₂, m₂, heval, hend⟩⟩, ?_⟩
  rw [starts, hbegin]
  simp only [bind, EStateM.bind, heval, hend]
  cases o with
  | ok v => rfl
  | error s => rfl

/-- A run goes on with the outcome of its first form. -/
theorem Turn.runForms {inSession : Bool} {located : Reader.Located} {top top' : Toplevel}
    {m m' : Machine} {s : FormStart} {o : Except Signal Value}
    (turn : E.Turn inSession located top m s o top' m') (source : String)
    (fault : Option Reader.Fault) (rest : List Reader.Located) (last : Value) :
    E.runForms inSession source fault (located :: rest) last top m =
      match o with
      | .ok v => E.runForms inSession source fault rest v top' m'
      | .error e => .ok (.error e, top') m' := by
  obtain ⟨context, form, ⟨m₁, hfollow, -, hbegin⟩, ⟨top₂, m₂, heval, hend⟩⟩ := turn
  rw [form, hbegin] at heval
  have hposition : (Eval.modifyScopes fun s' => s'.setPosition s.top.scope located.start) m₁ =
      .ok () (m₁.mapScopes (·.setPosition s.top.scope located.start)) := rfl
  rw [runForms_cons, runForm_eq]
  simp only [Eval.beginForm, bind, EStateM.bind, hfollow, hposition, heval, hend, Eval.pure_apply]
  cases o with
  | ok v => rfl
  | error e => rfl

/-- A run ends as the last form does that has started. -/
theorem runForms_of_starts (inSession : Bool) (source : String) (fault : Option Reader.Fault)
    {forms : List Reader.Located} (last : Value) {top : Toplevel} {m : Machine} {s : FormStart}
    (h : (E.starts inSession forms top m).getLast? = some s) :
    E.runForms inSession source fault forms last top m =
      (E.evalAt s.top s.form >>= Eval.endForm inSession >>= fun ended =>
        match ended.1 with
        | .ok v => E.runForms inSession source fault [] v ended.2
        | .error e => return (.error e, ended.2)) s.machine := by
  induction forms generalizing last top m with
  | nil => cases h
  | cons located rest ih =>
    obtain ⟨s₁, o, top', m', turn, hstarts⟩ := E.starts_cons inSession located rest top m
    rw [hstarts] at h
    rw [turn.runForms]
    obtain ⟨-, -, -, ⟨top₁, m₁, heval, hend⟩⟩ := turn
    cases o with
    | error e =>
      obtain rfl : s₁ = s := Option.some.inj h
      simp only [bind, EStateM.bind, heval, hend]
      rfl
    | ok v =>
      cases rest with
      | nil =>
        obtain rfl : s₁ = s := Option.some.inj h
        simp only [bind, EStateM.bind, heval, hend]
      | cons next rest =>
        -- the last of all forms is the last of those that are left
        refine ih v ?_
        obtain ⟨s₂, o₂, top₂, m₂, -, hrest⟩ := E.starts_cons inSession next rest top' m'
        rw [hrest] at h ⊢
        exact h

variable (E) in
/-- What a source comes to whose last form starts here. What the source holds after this form
cannot be read. -/
def finishAt [Tables] (inSession : Bool) (text source : String) (s : FormStart) :
    EStateM.Result Signal Machine Value :=
  (do
    let ended ← E.evalAt s.top s.form >>= Eval.endForm inSession
    let top ← Eval.follow ended.2
    if inSession then Eval.saveSession top
    match ended.1, (Reader.readAll E.mode text).fault with
    | .ok v, none => return v
    | .ok _, some (fault, _) => throw (.fault { cause := .unreadable source fault })
    | .error e, _ => throw e : Eval Value) s.machine

/-- A source comes to what the last form does that has started. -/
theorem evalSource_of_starts [Tables] (inSession : Bool) (text source : String) {top : Toplevel}
    {m : Machine} {s : FormStart}
    (h : (E.starts inSession (Reader.readAll E.mode text).forms top
      (m.mapScopes (·.setSource top.scope source))).getLast? = some s) :
    E.evalSource inSession text source top m = E.finishAt inSession text source s := by
  have run := runForms_of_starts inSession source
    ((Reader.readAll E.mode text).fault.map (·.1)) .nil h
  have hsource : (Eval.modifyScopes fun s' => s'.setSource top.scope source) m =
      .ok () (m.mapScopes (·.setSource top.scope source)) := rfl
  obtain ⟨o, top₁, m₁, heval⟩ : ∃ o top₁ m₁, E.evalAt s.top s.form s.machine = .ok (o, top₁) m₁ :=
    ⟨_, _, _, evalAt_eq ..⟩
  obtain ⟨top₂, m₂, hend, -⟩ := endForm_spec inSession o top₁ m₁
  simp only [bind, EStateM.bind, heval, hend] at run
  simp only [evalSource, finishAt, bind, EStateM.bind, hsource, run, heval, hend]
  obtain ⟨top₃, m₃, hfollow, -⟩ := Eval.follow_spec top₂ m₂
  cases o with
  | error e =>
    simp only [Eval.pure_apply, hfollow]
    cases inSession
    · rfl
    · rfl
  | ok v =>
    rcases (Reader.readAll E.mode text).fault with _ | ⟨fault, rest⟩
    · simp only [runForms, Option.map_none, Option.elim_none, Eval.pure_apply, hfollow]
      cases inSession
      · rfl
      · rfl
    · simp only [runForms, Option.map_some, Option.elim_some, Eval.pure_apply, hfollow]
      cases inSession
      · rfl
      · rfl

end Engine

/-! ### The scope of the active module -/

/-- The form starts in the module that the form before has ended in, and in a scope within that of
this module. -/
structure FormStart.InScope (s : FormStart) : Prop where
  context : s.top.context = s.context
  outer : s.machine.heap.scopes.outer? s.top.scope =
    some (s.machine.moduleScope s.context.module)

namespace Eval

variable {top top' : Toplevel} {m m' : Machine}

theorem Follows.context (h : Follows top m top' m') : top'.context = top.context := by
  cases h with
  | stay _ => rfl
  | move _ _ _ => rfl

theorem Follows.locals (h : Follows top m top' m') : top'.locals = top.locals := by
  cases h with
  | stay _ => rfl
  | move _ _ _ => rfl

end Eval

namespace Engine

variable {E : Engine} (hE : E.Confined)

include hE

/-- At a place that is there a form starts in the scope of the active module, and the place that it
leaves behind is there. -/
theorem Turn.inScope {inSession : Bool} {located : Reader.Located} {top top' : Toplevel}
    {m m' : Machine} {s : FormStart} {o : Except Signal Value}
    (turn : E.Turn inSession located top m s o top' m') (placed : m.Placed) (seats : m.Seats top) :
    s.InScope ∧ m'.Placed ∧ m'.Seats top' := by
  obtain ⟨context, form, ⟨m₁, -, follows, hbegin⟩, ⟨top₂, m₂, heval, hend⟩⟩ := turn
  have positioned : m₁.Confined s.machine := by
    rw [hbegin]
    exact Eval.confined_setPosition s.top.scope located.start m₁
  have confined := follows.confined.trans positioned
  have seats₁ := (seats.follow placed follows).mono positioned.grows
  have inScope : s.InScope := by
    refine ⟨follows.context.trans context.symm, ?_⟩
    rw [seats₁.outer, follows.settled, follows.context, context]
  -- the form leaves its place where it is
  obtain ⟨confined₂, hplace, known⟩ :=
    confined_evalAt hE heval (.refl s.machine) fun _ => seats₁.context
  have placed₂ := confined₂.placed (confined.placed placed)
  have seats₂ : m₂.Seats top₂ := by
    rw [hplace]
    exact { seats₁.mono confined₂.grows with context := known (confined.placed placed) }
  refine ⟨inScope, ?_⟩
  cases inSession with
  | false =>
    cases hend
    exact ⟨placed₂, seats₂⟩
  | true =>
    obtain ⟨top₃, m₃, hend', -, hsession⟩ := endForm_spec true o top₂ m₂
    rw [hend'] at hend
    cases hend
    obtain ⟨m₄, follows', rfl⟩ := hsession rfl
    have seats₃ := seats₂.follow placed₂ follows'
    exact ⟨{ follows'.confined.placed placed₂ with session := seats₃.context }, { seats₃ with }⟩

/-- All forms of a run start in the scope of the module that is active after the form before. -/
theorem inScope_of_mem_starts (inSession : Bool) (forms : List Reader.Located) {top : Toplevel}
    {m : Machine} (placed : m.Placed) (seats : m.Seats top) {s : FormStart}
    (h : s ∈ E.starts inSession forms top m) : s.InScope := by
  -- each form leaves a place behind that is there, which is all that the next one needs
  induction forms generalizing top m with
  | nil => cases h
  | cons located rest ih =>
    obtain ⟨s₁, o, top', m', turn, hstarts⟩ := E.starts_cons inSession located rest top m
    obtain ⟨inScope, placed', seats'⟩ := turn.inScope hE placed seats
    rw [hstarts] at h
    obtain rfl | h := List.mem_cons.1 h
    · exact inScope
    · cases o with
      | ok v => exact ih placed' seats' h
      | error e => cases h

end Engine

/-! ### What a source binds for its forms -/

namespace Machine

variable {m m' : Machine} {top top' : Toplevel}

/-- The scope of a place belongs to no module and binds what every top-level scope of the source
binds. -/
structure Bound (m : Machine) (top : Toplevel) : Prop where
  inner : m.Inner top.scope
  distinct : (top.locals.map (·.1)).Nodup
  bound : ∀ entry ∈ top.locals,
    m.heap.scopes.own? top.scope entry.1 = some ⟨entry.2, none⟩

/-- The scope of a module is there, even that of a module which is not. -/
theorem Placed.moduleScope_lt (h : m.Placed) (q : ModuleRef) :
    (m.moduleScope q).index < m.heap.scopes.size := by
  by_cases hq : m.HasModule q
  · exact h.moduleScope hq
  · have unknown : m.moduleScope q = globalScope := by
      unfold Machine.moduleScope Heap.module
      rw [Array.getD_eq_getD_getElem?, Array.getElem?_eq_none (Nat.not_lt.1 hq)]
      rfl
    rw [unknown]
    exact Nat.zero_lt_of_lt (h.moduleScope h.context)

/-- A new scope is not that of a module. -/
theorem Bound.opened (h : m.Placed) (c : Context) (r : ModuleRef) {locals : List (String × Value)}
    (distinct : (locals.map (·.1)).Nodup) :
    (Eval.openedScope m r locals).Bound ⟨c, m.heap.scopes.next, r, locals⟩ := by
  let m₁ := (Eval.newScope (m.moduleScope r) (m.heap.module r).name.text).after m
  have there : m₁.heap.scopes.Has m.heap.scopes.next := by
    refine Nat.lt_of_lt_of_eq (Nat.lt_succ_self _) ?_
    exact (Eval.size_newScope m (m.moduleScope r) (m.heap.module r).name.text {}).symm
  -- the scope is behind all that were there, and those of modules are among these
  refine ⟨⟨?_, fun same => ?_, fun q same => ?_⟩, distinct, fun entry hentry => ?_⟩
  · exact Nat.lt_of_lt_of_eq there (Scopes.size_defineAll ..).symm
  · have lt := h.moduleScope_lt r
    have zero : m.heap.scopes.size = 0 := congrArg ScopeRef.index same
    omega
  · have lt := h.moduleScope_lt q
    have eq : (m.moduleScope q).index = m.heap.scopes.size := congrArg ScopeRef.index same
    omega
  · refine Scopes.own?_defineAll_of_mem there (fun entry _ => ?_) distinct hentry
    exact (Scopes.own?_newScope ..).trans (if_pos rfl)

theorem Bound.mono {f : Scopes → Scopes} (h : m.Bound top)
    (size : m.heap.scopes.size ≤ (f m.heap.scopes).size)
    (own : ∀ n, (f m.heap.scopes).own? top.scope n = m.heap.scopes.own? top.scope n) :
    (m.mapScopes f).Bound top where
  inner := h.inner.mono size rfl
  distinct := h.distinct
  bound entry hentry := (own entry.1).trans (h.bound entry hentry)

theorem Bound.setSource (h : m.Bound top) (r : ScopeRef) (source : String) :
    (m.mapScopes (·.setSource r source)).Bound top :=
  h.mono (Nat.le_of_eq (Forest.size_update ..).symm)
    fun _ => Scopes.own?_update r.index (fun f => { f with source := some source }) fun _ => rfl

theorem Bound.setPosition (h : m.Bound top) (r : ScopeRef) (position : Text.Position) :
    (m.mapScopes (·.setPosition r position)).Bound top :=
  h.mono (Nat.le_of_eq (Forest.size_update ..).symm)
    fun _ => Scopes.own?_update r.index (fun f => { f with position }) fun _ => rfl

/-- A scope that a place moves to binds the same. -/
theorem Bound.follow (h : m.Bound top) (placed : m.Placed)
    (hfollow : Eval.follow top m = .ok top' m') : m'.Bound top' := by
  by_cases same : top.module = top.context.module
  · rw [Eval.follow, if_pos same] at hfollow
    cases hfollow
    exact h
  · have opened := Bound.opened placed top.context top.context.module h.distinct
    rw [Eval.follow_of_other same] at hfollow
    simp only [bind, EStateM.bind, Eval.openToplevel_eq] at hfollow
    cases hsource : m.heap.scopes.source? top.scope with
    | none =>
      rw [hsource] at hfollow
      cases hfollow
      exact opened
    | some source =>
      rw [hsource] at hfollow
      cases hfollow
      exact opened.setSource _ source

end Machine

namespace FormStart

variable (s : FormStart)

/-- What a source binds for its forms is bound in the scope of the form itself. -/
def Binds : Prop :=
  ∀ entry ∈ s.top.locals, s.machine.heap.scopes.own? s.top.scope entry.1 = some ⟨entry.2, none⟩

/-- What a source binds for its forms, in the scope of the form. -/
def watch : Watch := { names := s.top.locals.map fun entry => (s.top.scope, entry.1) }

/-- While the form is evaluated, what its source binds in its scope is assigned to or defined
privately: the run that is watched for this is stopped. -/
def Rebinds [Tables] (setting : Setting) (fuel : Nat) : Prop :=
  ((s.watch.engine setting fuel).evalTop s.top.scope s.form).Stops
    { s.machine with context := s.top.context }

instance [Tables] (setting : Setting) (fuel : Nat) : Decidable (s.Rebinds setting fuel) :=
  inferInstanceAs (Decidable (Eval.Stops _ _))

end FormStart

namespace Engine

variable {setting : Setting} {fuel : Nat}

/-- What is bound where a form starts is bound where it ends, unless the form writes to it. -/
theorem bound_evalAt [Tables] {s : FormStart} (h : s.machine.Bound s.top)
    (still : ¬ s.Rebinds setting fuel) {o : Except Signal Value} {top : Toplevel} {m : Machine}
    (heval : (ofFuel setting fuel).evalAt s.top s.form s.machine = .ok (o, top) m) :
    m.Bound top := by
  have related := s.watch.related_engine setting fuel
  -- what the source binds is in a scope of no module, so it can be watched
  have fits : s.watch.Fits { s.machine with context := s.top.context } := by
    intro p hp
    obtain ⟨entry, -, rfl⟩ := List.mem_map.1 hp
    exact ⟨h.inner.there, h.inner.global, h.inner.module⟩
  obtain stops | ⟨-, kept⟩ := relates_evalTop related trivial s.form _ fits
  · exact absurd stops still
  · have outside := kept.inContext
    rw [evalAt_eq] at heval
    cases heval
    refine ⟨outside.inner _ h.inner, h.distinct, fun entry hentry => ?_⟩
    exact (outside.bound (s.top.scope, entry.1) (List.mem_map.2 ⟨entry, hentry, rfl⟩)).trans
      (h.bound entry hentry)

/-- A form of a file finds bound what the file binds, and leaves it so unless it writes to it. -/
theorem Turn.bound [Tables] {located : Reader.Located} {top top' : Toplevel} {m m' : Machine}
    {s : FormStart} {o : Except Signal Value}
    (turn : (ofFuel setting fuel).Turn false located top m s o top' m') (placed : m.Placed)
    (bound : m.Bound top) :
    s.machine.Bound s.top ∧ s.top.locals = top.locals ∧
      (¬ s.Rebinds setting fuel → m'.Bound top' ∧ top'.locals = top.locals) := by
  obtain ⟨-, form, ⟨m₁, hfollow, follows, hbegin⟩, ⟨top₁, m₂, heval, hend⟩⟩ := turn
  have begun : s.machine.Bound s.top := by
    rw [hbegin]
    exact (bound.follow placed hfollow).setPosition s.top.scope located.start
  have locals := follows.locals
  refine ⟨begun, locals, fun still => ?_⟩
  have ended := bound_evalAt begun still heval
  cases hend
  rw [evalAt_eq] at heval
  cases heval
  exact ⟨ended, locals⟩

/-- What a file binds for its forms is bound where they start, as long as none of those before has
written to it. -/
theorem binds_of_starts [Tables] (forms : List Reader.Located) {top : Toplevel} {m : Machine}
    (placed : m.Placed) (seats : m.Seats top) (bound : m.Bound top) {before after : List FormStart}
    {s : FormStart} (h : (ofFuel setting fuel).starts false forms top m = before ++ s :: after)
    (still : ∀ s' ∈ before, ¬ s'.Rebinds setting fuel) :
    s.Binds ∧ s.top.locals = top.locals := by
  induction forms generalizing top m before with
  | nil => exact absurd h.symm (List.append_ne_nil_of_right_ne_nil _ (List.cons_ne_nil _ _))
  | cons located rest ih =>
    obtain ⟨s₁, o, top', m', turn, hstarts⟩ := starts_cons false located rest top m
    obtain ⟨-, placed', seats'⟩ := turn.inScope (confined_ofFuel setting fuel) placed seats
    obtain ⟨begun, locals, ended⟩ := turn.bound placed bound
    rw [hstarts] at h
    -- the form in question is the first one, or the first one has not written to the bindings
    cases before with
    | nil =>
      obtain rfl : s₁ = s := (List.cons.inj h).1
      exact ⟨begun.bound, locals⟩
    | cons first before =>
      obtain ⟨rfl, hrest⟩ := List.cons.inj h
      obtain ⟨bound', locals'⟩ := ended (still s₁ (List.mem_cons_self ..))
      cases o with
      | error e =>
        exact absurd hrest.symm (List.append_ne_nil_of_right_ne_nil _ (List.cons_ne_nil _ _))
      | ok v =>
        obtain ⟨binds, same⟩ :=
          ih placed' seats' bound' hrest fun s' hs' => still s' (List.mem_cons_of_mem _ hs')
        exact ⟨binds, same.trans locals'⟩

/-! ### Texts and files -/

variable (E : Engine)

/-- Where the forms of a text start that is run in the session. -/
def textStarts [Tables] (text source : String) (m : Machine) : List FormStart :=
  E.starts true (Reader.readAll E.mode text).forms m.session
    (m.mapScopes (·.setSource m.session.scope source))

/-- What a file binds for its forms: its path and its directory. -/
def fileLocals (path : String) : List (String × Value) :=
  [("*file*", .string path), ("*dir*", .string ((Path.parent? path).getD ""))]

/-- Where the forms of a file start that is run in a context. -/
def fileStarts [Tables] (c : Context) (path : String) (m : Machine) : List FormStart :=
  match E.setting.files path with
  | some (.ok text) =>
    match Eval.openToplevel { c with dir := Path.parent? path } (fileLocals path) m with
    | .ok top m =>
      E.starts false (Reader.readAll E.mode (Text.dropShebang text)).forms top
        (m.mapScopes (·.setSource top.scope path))
    | .error _ _ => []
  | _ => []

variable {E}

theorem evalText_of_textStarts [Tables] (text source : String) {m : Machine} {s : FormStart}
    (h : (E.textStarts text source m).getLast? = some s) :
    E.evalText text source m = E.finishAt true text source s :=
  evalSource_of_starts true text source h

theorem evalFile_of_fileStarts [Tables] {c : Context} {path text : String} {m : Machine}
    {s : FormStart} (hfile : E.setting.files path = some (.ok text))
    (h : (E.fileStarts c path m).getLast? = some s) :
    E.evalFile c path m = E.finishAt false (Text.dropShebang text) path s := by
  have hread : E.read path m = .ok (.ok text) m := by rw [read, hfile]; rfl
  have hopen := Eval.openToplevel_eq m { c with dir := Path.parent? path } (fileLocals path)
  simp only [fileStarts, hfile] at h
  rw [hopen] at h
  rw [evalFile]
  simp only [bind, EStateM.bind, hread]
  rw [← fileLocals, hopen]
  exact evalSource_of_starts false (Text.dropShebang text) path h

/-- All forms of a file start in the scope of the active module. What the file binds for them is
bound, as long as none of those before has written to it. -/
theorem inScope_of_fileStarts [Tables] {m : Machine} {c : Context} (placed : m.Placed)
    (known : m.HasModule c.module) {path : String} {before after : List FormStart} {s : FormStart}
    (h : (ofFuel setting fuel).fileStarts c path m = before ++ s :: after) :
    s.InScope ∧ ((∀ s' ∈ before, ¬ s'.Rebinds setting fuel) →
      s.Binds ∧ s.top.locals = fileLocals path) := by
  unfold fileStarts at h
  split at h
  case h_2 =>
    exact absurd h.symm (List.append_ne_nil_of_right_ne_nil _ (List.cons_ne_nil _ _))
  case h_1 _ text hfile =>
    let forms := (Reader.readAll (ofFuel setting fuel).mode (Text.dropShebang text)).forms
    let top : Toplevel := ⟨{ c with dir := Path.parent? path }, m.heap.scopes.next, c.module,
      fileLocals path⟩
    let m₁ := Eval.openedScope m c.module (fileLocals path)
    have hopen : Eval.openToplevel { c with dir := Path.parent? path } (fileLocals path) m =
        .ok top m₁ := Eval.openToplevel_eq ..
    rw [hopen] at h
    change (ofFuel setting fuel).starts false forms top
      (m₁.mapScopes (·.setSource m.heap.scopes.next path)) = _ at h
    have opened : m.Opened m₁ c.module := Eval.opened_openedScope m c.module (fileLocals path)
    have grows := opened.confined.grows
    have seats : m₁.Seats top := by
      refine ⟨opened.there, known.mono grows, known.mono grows, ?_⟩
      rw [opened.outer placed known, grows.moduleScope known]
    have bound : m₁.Bound top :=
      .opened placed _ c.module (by decide : ["*file*", "*dir*"].Nodup)
    -- the scope is said to belong to the file before its forms run
    have placed' := (opened.confined.placed placed).setSource m.heap.scopes.next path
    have seats' := seats.mono (Machine.Change.source m.heap.scopes.next path).grows
    have bound' := bound.setSource m.heap.scopes.next path
    refine ⟨inScope_of_mem_starts (confined_ofFuel setting fuel) false forms placed' seats' ?_,
      fun still => binds_of_starts forms placed' seats' bound' h still⟩
    rw [h]
    exact List.mem_append_right _ (List.mem_cons_self ..)

/-- A form that binds the name anew in a scope of its own does not write to what the file binds; one
that assigns to it does. -/
example :
    let text := "(loop [*file* 1] (set! *file* 2)) (set! *file* 3)"
    let i := Interpreter.start {} fun _ => some (.ok text)
    ((ofFuel i.setting 30).fileStarts i.machine.context "m.ws" i.machine).map
      (fun s => decide (s.Rebinds i.setting 30)) = [false, true] := by
  decide +kernel

end Engine

/-! ### Who requires a file -/

namespace Eval

variable {α β : Type}

/-- Code goes on where it was. -/
def Stays (act : Eval α) : Prop := ∀ m : Machine, (act.after m).context = m.context

theorem stays_pure (a : α) : Stays (pure a) := fun _ => rfl

theorem Stays.bind {act : Eval α} {f : α → Eval β} (h : act.Stays) (hf : ∀ a, (f a).Stays) :
    Stays (act >>= f) := by
  intro m
  have h := h m
  simp only [Eval.after, Bind.bind, EStateM.bind] at h ⊢
  cases hact : act m with
  | ok a m' =>
    rw [hact] at h
    exact (hf a m').trans h
  | error s m' =>
    rw [hact] at h
    exact h

theorem stays_ofOutcome (x : Except Signal α) : (Eval.ofOutcome x).Stays := by
  cases x with
  | ok a => exact fun _ => rfl
  | error s => exact fun _ => rfl

theorem stays_openToplevel (c : Context) (locals : List (String × Value)) :
    (Eval.openToplevel c locals).Stays := by
  intro m
  rw [Eval.after, openToplevel_eq]
  rfl

theorem stays_follow (top : Toplevel) : (Eval.follow top).Stays := by
  unfold Eval.follow
  split_ifs
  · exact stays_pure top
  · refine Stays.bind (fun _ => rfl) fun m => ?_
    refine (stays_openToplevel _ _).bind fun next => ?_
    cases (m.heap.scopes.frame top.scope).source with
    | some source => exact Stays.bind (fun _ => rfl) fun _ => stays_pure next
    | none => exact stays_pure next

end Eval

namespace Engine

open Eval

variable {E : Engine}

theorem stays_evalAt (top : Toplevel) (form : Value) : (E.evalAt top form).Stays := by
  intro m
  rw [Eval.after, evalAt_eq]

theorem stays_runForms (source : String) (fault : Option Reader.Fault)
    (forms : List Reader.Located) (last : Value) (top : Toplevel) :
    (E.runForms false source fault forms last top).Stays := by
  induction forms generalizing last top with
  | nil => exact stays_pure _
  | cons located rest ih =>
    rw [runForms]
    refine (stays_follow top).bind fun top => ?_
    refine Stays.bind (fun _ => rfl) fun _ => ?_
    refine (stays_evalAt top located.form).bind fun ended => ?_
    obtain ⟨o, top⟩ := ended
    refine (stays_pure top).bind fun top => ?_
    cases o with
    | ok v => exact ih v top
    | error e => exact stays_pure _

theorem stays_evalFile [Tables] (c : Context) (path : String) : (E.evalFile c path).Stays := by
  unfold evalFile
  refine Stays.bind ?_ fun contents => ?_
  · unfold read
    cases E.setting.files path with
    | none => exact fun _ => rfl
    | some contents => exact stays_pure contents
  · cases contents with
    | error problem => exact fun _ => rfl
    | ok text =>
      refine (stays_openToplevel _ _).bind fun top => ?_
      refine Stays.bind (fun _ => rfl) fun _ => ?_
      refine (stays_runForms _ _ _ _ _).bind fun ended => ?_
      exact (stays_follow ended.2).bind fun _ => stays_ofOutcome ended.1

/-- Whoever requires a file goes on in the same module and directory, whether that succeeds or
not. -/
theorem stays_evalRequire [Tables] (operands : List Value) : (E.evalRequire operands).Stays := by
  have directory : E.directory.Stays := fun _ => rfl
  unfold evalRequire
  split
  · refine Stays.bind (fun _ => rfl) fun c => ?_
    refine directory.bind fun dir => ?_
    exact (stays_evalFile c _).bind fun _ => stays_pure _
  · refine directory.bind fun dir => ?_
    refine Stays.bind (fun _ => rfl) fun c => ?_
    refine (stays_evalFile c _).bind fun _ => ?_
    refine Stays.bind (fun _ => rfl) fun m => ?_
    split_ifs
    · exact fun _ => rfl
    · exact stays_pure _
  · exact fun _ => rfl
  · exact fun _ => rfl

end Engine

namespace Interpreter

/-- In every session each form of a text, and each form of every file that is loaded or required
while code runs, starts in a scope within that of the module which is active after the form before;
the text and the file come to what the last form does that has started. In such a scope a file binds
its path and its directory for its forms; that is so until one of them assigns to these bindings or
defines them privately. Requiring a file leaves the active module and the directory as they are. -/
theorem toplevel_forms_in_scope [Tables] {i : Interpreter} (h : i.Reachable) (fuel : Nat) :
    let E := Engine.ofFuel i.setting fuel
    (∀ text source,
      (∀ s, (E.textStarts text source i.machine).getLast? = some s →
        E.evalText text source i.machine = E.finishAt true text source s) ∧
      ∀ s ∈ E.textStarts text source i.machine, s.InScope) ∧
    (i.machine.Placed ∧ ∀ m : Machine, m.Placed →
      (∀ scope form, ((E.eval scope form).after m).Placed) ∧
      ∀ f args form, ((E.call f args form).after m).Placed) ∧
    (∀ (m : Machine) (c : Context), m.Placed → c = m.context ∨ c = m.session.context → ∀ path,
      (∀ text s, i.setting.files path = some (.ok text) →
        (E.fileStarts c path m).getLast? = some s →
        E.evalFile c path m = E.finishAt false (Text.dropShebang text) path s) ∧
      ∀ before s after, E.fileStarts c path m = before ++ s :: after →
        s.InScope ∧ ((∀ s' ∈ before, ¬ s'.Rebinds i.setting fuel) →
          s.machine.heap.scopes.own? s.top.scope "*file*" = some ⟨.string path, none⟩ ∧
          s.machine.heap.scopes.own? s.top.scope "*dir*" =
            some ⟨.string ((Path.parent? path).getD ""), none⟩)) ∧
    ∀ (operands : List Value) (m : Machine),
      ((E.evalRequire operands).after m).context = m.context := by
  intro E
  have hE : E.Confined := Engine.confined_ofFuel i.setting fuel
  have steady := h.steady
  refine ⟨fun text source => ⟨fun s => Engine.evalText_of_textStarts text source, fun s hs => ?_⟩,
    ⟨steady.placed, fun m placed => ?_⟩, fun m c placed hc path =>
      ⟨fun text s hfile => Engine.evalFile_of_fileStarts (by exact hfile),
        fun before s after hstarts => ?_⟩,
    Engine.stays_evalRequire⟩
  · have steady' := steady.setSource i.machine.session.scope source
    exact Engine.inScope_of_mem_starts hE true _ steady'.placed steady'.session hs
  · -- files are also required and loaded in the middle of an evaluation
    exact ⟨fun scope form => (hE.eval scope form m).placed placed,
      fun f args form => (hE.call f args form m).placed placed⟩
  · have known : m.HasModule c.module := by
      obtain rfl | rfl := hc
      · exact placed.context
      · exact placed.session
    obtain ⟨inScope, binds⟩ := Engine.inScope_of_fileStarts placed known hstarts
    refine ⟨inScope, fun still => ?_⟩
    obtain ⟨binds, locals⟩ := binds still
    unfold FormStart.Binds at binds
    rw [locals] at binds
    exact ⟨binds ("*file*", _) (List.mem_cons_self ..),
      binds ("*dir*", _) (List.mem_cons_of_mem _ (List.mem_cons_self ..))⟩

/-- A text and a file that switch modules; the form that is left in the file starts in the scope of
the module that the session is in. -/
theorem toplevel_forms_in_scope_switching :
    let text := "(module c) (define x *file*) (use a) *dir*"
    let i := ((start {} fun path => if path = "d/m.ws" then some (.ok text) else none).ask 30
      (.text "(module a) (define x :a)" "t")).2
    let E := Engine.ofFuel i.setting 30
    i.Reachable ∧
      (E.textStarts "(module b) (use a) x" "u" i.machine).length = 3 ∧
      (∀ s ∈ E.textStarts "(module b) (use a) x" "u" i.machine, s.InScope) ∧
      i.machine.Placed ∧
      ∃ before s after, E.fileStarts i.machine.session.context "d/m.ws" i.machine =
          before ++ s :: after ∧ before.length = 3 ∧
        (∀ s' ∈ before, ¬ s'.Rebinds i.setting 30) ∧ s.InScope ∧
        E.evalFile i.machine.session.context "d/m.ws" i.machine =
          E.finishAt false (Text.dropShebang text) "d/m.ws" s ∧
        s.machine.heap.scopes.own? s.top.scope "*file*" = some ⟨.string "d/m.ws", none⟩ ∧
        s.machine.heap.scopes.own? s.top.scope "*dir*" = some ⟨.string "d", none⟩ := by
  intro text i E
  have hi : i.Reachable := (Reachable.start {} _).ask 30 _
  obtain ⟨texts, ⟨placed, -⟩, files, -⟩ := toplevel_forms_in_scope hi 30
  obtain ⟨-, inScopes⟩ := texts "(module b) (use a) x" "u"
  obtain ⟨finish, binds⟩ := files i.machine i.machine.session.context placed (.inr rfl) "d/m.ws"
  have three : (E.textStarts "(module b) (use a) x" "u" i.machine).length = 3 := by decide +kernel
  have four : (E.fileStarts i.machine.session.context "d/m.ws" i.machine).length = 4 := by
    decide +kernel
  have still : ∀ s' ∈ (E.fileStarts i.machine.session.context "d/m.ws" i.machine).take 3,
      ¬ s'.Rebinds i.setting 30 := by decide +kernel
  obtain ⟨s, hs⟩ := List.length_eq_one_iff.1 ((List.length_drop ..).trans (by rw [four]) :
    ((E.fileStarts i.machine.session.context "d/m.ws" i.machine).drop 3).length = 1)
  have starts := (List.take_append_drop 3 _).symm.trans (congrArg _ hs)
  obtain ⟨inScope, binds⟩ := binds _ s [] starts
  obtain ⟨file, dir⟩ := binds still
  have last : (E.fileStarts i.machine.session.context "d/m.ws" i.machine).getLast? = some s := by
    rw [starts, List.getLast?_append]
    rfl
  have there : i.setting.files "d/m.ws" = some (.ok text) := by
    rw [setting_ask]
    change (if "d/m.ws" = "d/m.ws" then some (Except.ok text) else none) = _
    exact if_pos rfl
  have dirname : (Path.parent? "d/m.ws").getD "" = "d" := by decide +kernel
  rw [dirname] at dir
  exact ⟨hi, three, inScopes, placed, _, s, [], starts, by rw [List.length_take, four]; rfl, still,
    inScope, finish text s there last, file, dir⟩

end Interpreter

end Lisp
