import Lisp.Eval.Session
import Lisp.Proofs.Eval.Rules
import Lisp.Proofs.Machine.Confinement
import Lisp.Proofs.Scope.Lexical

/-!
# Top-level forms in their scopes

Each source has a scope of its own within the scope of the active module, and gets another one when
another module becomes active. A run of forms never stops short: a form that fails ends it with an
outcome. What is known of a place and a machine, and kept by each of the four things that a run is
made of, is known when it ends. So a file is known to leave the scopes alone that were there before.

## Main definitions

* `Machine.Opened` — what a new top-level scope is
* `Eval.Follows` — how a place moves to the active module
* `Engine.runForm`, `Engine.runSource` — one form of a run, and the forms of a source
* `Engine.Confined` — engines that leave the session where it is

## Main results

* `Eval.openToplevel_eq`, `Eval.follow_spec`, `Engine.runForm_spec` — what a run is made of
* `Engine.runForms_induction`, `Engine.runSource_induction` — what is kept by that is kept by a run
* `Engine.confined_evalFile`, `Engine.confined_evalForm` — files, and forms given from inside
-/

namespace Lisp

/-- Evaluating and calling leave the session where it is. -/
structure Engine.Confined (E : Engine) : Prop where
  eval : ∀ scope form, (E.eval scope form).Confined
  call : ∀ f args form, (E.call f args form).Confined

theorem Engine.Confined.related {E : Engine} (hE : E.Confined) :
    Related Eval.confinement.anywhere E E :=
  ⟨rfl, rfl, fun _ => hE.eval _, hE.call⟩

namespace Machine

/-- The next scope has been made for the forms of a module. -/
structure Opened (m m' : Machine) (r : ModuleRef) : Prop where
  confined : m.Confined m'
  there : m.heap.scopes.next.index < m'.heap.scopes.size
  outer : m.Placed → m.HasModule r →
    m'.heap.scopes.outer? m.heap.scopes.next = some (m.moduleScope r)

/-- What is changed within a scope does not move any. -/
theorem Opened.update {m m' : Machine} {r : ModuleRef} (h : m.Opened m' r) (i : Nat)
    (g : Frame → Frame) (confined : m.Confined (m'.mapScopes (Forest.update · i g))) :
    m.Opened (m'.mapScopes (Forest.update · i g)) r where
  confined := confined
  there := Nat.lt_of_lt_of_eq h.there (Forest.size_update ..).symm
  outer hm hr := (Scopes.outer?_update i g).trans (h.outer hm hr)

/-- A name is defined in the new scope. -/
theorem Opened.define {m m' : Machine} {r : ModuleRef} (h : m.Opened m' r) (name : String)
    (value : Option Value) :
    m.Opened (m'.mapScopes (·.define m.heap.scopes.next name value none)) r :=
  h.update _ (fun f =>
      { f with
        bindings := f.bindings.insert name
          (Scopes.redefine (f.bindings.get? name) value none) })
    (h.confined.trans (Eval.confined_define m.heap.scopes.next name value none m'))

/-- The new scope is said to belong to a source. -/
theorem Opened.setSource {m m' : Machine} {r : ModuleRef} (h : m.Opened m' r) (source : String) :
    m.Opened (m'.mapScopes (·.setSource m.heap.scopes.next source)) r :=
  h.update _ (fun f => { f with source := some source })
    (h.confined.setSource (Nat.le_refl _) source)

end Machine

namespace Eval

open Machine (Opened)

/-- A new scope for the forms of a module. -/
theorem opened_newScope (m : Machine) (r : ModuleRef) (ident : String) :
    m.Opened ((Eval.newScope (m.moduleScope r) ident).after m) r where
  confined := confined_newScope _ _ _ m
  there := by
    rw [size_newScope]
    exact Nat.lt_succ_self _
  outer hm hr := (Scopes.outer?_update _ _).trans (Scopes.outer?_push (hm.moduleScope hr) _)

/-- The machine with a new scope for the forms of a module, in which some names are bound. -/
def openedScope (m : Machine) (r : ModuleRef) (locals : List (String × Value)) : Machine :=
  ((Eval.newScope (m.moduleScope r) (m.heap.module r).name.text).after m).mapScopes
    (Scopes.defineAll · m.heap.scopes.next locals)

theorem opened_openedScope (m : Machine) (r : ModuleRef) (locals : List (String × Value)) :
    m.Opened (openedScope m r locals) r := by
  unfold openedScope
  have opened := opened_newScope m r (m.heap.module r).name.text
  generalize (Eval.newScope (m.moduleScope r) (m.heap.module r).name.text).after m = m₁ at opened
  induction locals generalizing m₁ with
  | nil => exact opened
  | cons entry locals ih => exact ih _ (opened.define entry.1 (some entry.2))

/-- A place for the forms of a source: its scope is new, and binds what every such scope of the
source binds. -/
theorem openToplevel_eq (m : Machine) (c : Context) (locals : List (String × Value)) :
    Eval.openToplevel c locals m =
      .ok ⟨c, m.heap.scopes.next, c.module, locals⟩ (openedScope m c.module locals) := by
  have defines (entries : List (String × Value)) (m₁ : Machine) :
      (ForIn.forIn entries PUnit.unit fun entry _ => do
        Eval.define m.heap.scopes.next entry.1 (some entry.2)
        pure (ForInStep.yield PUnit.unit) : Eval PUnit) m₁ =
      .ok PUnit.unit (m₁.mapScopes (Scopes.defineAll · m.heap.scopes.next entries)) := by
    induction entries generalizing m₁ with
    | nil => rfl
    | cons entry entries ih =>
      rw [List.forIn_cons]
      exact ih _
  have hscope : Eval.toplevelScope c.module m = .ok m.heap.scopes.next
      ((Eval.newScope (m.moduleScope c.module) (m.heap.module c.module).name.text).after m) := rfl
  simp only [Eval.openToplevel, bind, EStateM.bind, hscope] at defines ⊢
  rw [defines]
  rfl

/-- How a place moves to the active module: it stays, or it gets a new scope that belongs to the
same source. -/
inductive Follows (top : Toplevel) (m : Machine) : Toplevel → Machine → Prop
  | stay (same : top.module = top.context.module) : Follows top m top m
  | move {m' : Machine} (other : top.module ≠ top.context.module)
      (opened : m.Opened m' top.context.module)
      (source : ∀ source, m.heap.scopes.source? top.scope = some source →
        m'.heap.scopes.source? m.heap.scopes.next = some source) :
    Follows top m ⟨top.context, m.heap.scopes.next, top.context.module, top.locals⟩ m'

theorem Follows.confined {top top' : Toplevel} {m m' : Machine} (h : Follows top m top' m') :
    m.Confined m' := by
  cases h with
  | stay _ => exact .refl m
  | move _ opened _ => exact opened.confined

/-- A place that has moved is one for its context. -/
theorem Follows.settled {top top' : Toplevel} {m m' : Machine} (h : Follows top m top' m') :
    top'.module = top'.context.module := by
  cases h with
  | stay same => exact same
  | move _ _ _ => rfl

theorem follow_of_other {top : Toplevel} (other : top.module ≠ top.context.module) (m : Machine) :
    Eval.follow top m = (do
      let next ← Eval.openToplevel top.context top.locals
      match m.heap.scopes.source? top.scope with
      | some source => Eval.modifyScopes fun s => s.setSource next.scope source
      | none => pure ()
      return next : Eval Toplevel) m := by
  rw [Eval.follow, if_neg other]
  rfl

/-- Following the active module never fails. -/
theorem follow_spec (top : Toplevel) (m : Machine) :
    ∃ top' m', Eval.follow top m = .ok top' m' ∧ Follows top m top' m' := by
  by_cases same : top.module = top.context.module
  · refine ⟨top, m, ?_, .stay same⟩
    rw [Eval.follow, if_pos same]
    rfl
  · have opened := opened_openedScope m top.context.module top.locals
    rw [follow_of_other same]
    simp only [bind, EStateM.bind, openToplevel_eq]
    cases hsource : m.heap.scopes.source? top.scope with
    | none =>
      refine ⟨_, _, rfl, .move same opened fun source h => ?_⟩
      rw [hsource] at h
      cases h
    | some old =>
      refine ⟨_, _, rfl, .move same (opened.setSource old) fun source h => ?_⟩
      rw [hsource] at h
      cases h
      exact Scopes.source?_setSource opened.there old

end Eval

namespace Engine

open Eval

variable {E : Engine}

/-! ### Runs of forms -/

/-- The outcome of a form at a place, whatever it is, and the context it ends in. -/
theorem evalAt_eq (top : Toplevel) (form : Value) (m : Machine) :
    E.evalAt top form m =
      let act := E.evalTop top.scope form
      let m₁ : Machine := { m with context := top.context }
      .ok (act.outcome m₁, { top with context := (act.after m₁).context })
        { act.after m₁ with context := m.context } := by
  unfold evalAt
  simp only [bind, EStateM.bind, Eval.inContext_eq]
  rfl

variable (E) in
/-- One form of a run. -/
def runForm (inSession : Bool) (located : Reader.Located) (top : Toplevel) :
    Eval (Except Signal Value × Toplevel) := do
  let top ← Eval.follow top
  Eval.modifyScopes fun s => s.setPosition top.scope located.start
  let (outcome, top) ← E.evalAt top located.form
  let top ← if inSession then do
      let top ← Eval.follow top
      Eval.saveSession top
      pure top
    else pure top
  return (outcome, top)

/-- A run does one form and, unless it fails, goes on with the others. -/
theorem runForms_cons (inSession : Bool) (source : String) (fault : Option Reader.Fault)
    (located : Reader.Located) (rest : List Reader.Located) (last : Value) (top : Toplevel) :
    E.runForms inSession source fault (located :: rest) last top = (do
      let (outcome, top) ← E.runForm inSession located top
      match outcome with
      | .ok value => E.runForms inSession source fault rest value top
      | .error s => return (.error s, top)) := by
  rw [runForms, runForm, bind_assoc]
  congr 1
  funext top
  rw [bind_assoc]
  congr 1
  funext _
  rw [bind_assoc]
  congr 1
  funext ⟨outcome, top⟩
  cases inSession with
  | true => exact Eq.symm ((bind_assoc (Eval.follow top) _ _).trans rfl)
  | false => rfl

/-- What a form does to a place and a machine: the place moves and the form is evaluated there. In a
session the place moves again and is saved. -/
theorem runForm_spec (inSession : Bool) (located : Reader.Located) (top : Toplevel) (m : Machine) :
    ∃ top₁ m₁ o top₂ m₂, Follows top m top₁ m₁ ∧
      E.evalAt top₁ located.form (m₁.mapScopes (·.setPosition top₁.scope located.start)) =
        .ok (o, top₂) m₂ ∧
      ∃ top₃ m₃, E.runForm inSession located top m = .ok (o, top₃) m₃ ∧
        (inSession = false → top₃ = top₂ ∧ m₃ = m₂) ∧
        (inSession = true → ∃ m', Follows top₂ m₂ top₃ m' ∧ m₃ = { m' with session := top₃ }) := by
  obtain ⟨top₁, m₁, hfollow, follows⟩ := Eval.follow_spec top m
  obtain ⟨o, top₂, m₂, heval⟩ : ∃ o top₂ m₂, E.evalAt top₁ located.form
      (m₁.mapScopes (·.setPosition top₁.scope located.start)) = .ok (o, top₂) m₂ :=
    ⟨_, _, _, evalAt_eq ..⟩
  have hposition : (Eval.modifyScopes fun s => s.setPosition top₁.scope located.start) m₁ =
      .ok () (m₁.mapScopes (·.setPosition top₁.scope located.start)) := rfl
  refine ⟨top₁, m₁, o, top₂, m₂, follows, heval, ?_⟩
  cases inSession with
  | false =>
    refine ⟨top₂, m₂, ?_, fun _ => ⟨rfl, rfl⟩, fun h => absurd h Bool.false_ne_true⟩
    simp only [runForm, bind, EStateM.bind, hfollow, hposition, heval]
    rfl
  | true =>
    obtain ⟨top₃, m₃, hfollow', follows'⟩ := Eval.follow_spec top₂ m₂
    refine ⟨top₃, { m₃ with session := top₃ }, ?_, fun h => absurd h.symm Bool.false_ne_true,
      fun _ => ⟨m₃, follows', rfl⟩⟩
    simp only [runForm, bind, EStateM.bind, hfollow, hposition, heval, if_true, hfollow']
    rfl

/-- What is known of a place and a machine, and kept by each of the things that a run of forms is
made of, is known where the run ends. -/
theorem runForms_induction {P : Toplevel → Machine → Prop} (inSession : Bool)
    (follow : ∀ {top m top' m'}, P top m → Follows top m top' m' → P top' m')
    (position : ∀ {top m} p, P top m → P top (m.mapScopes (·.setPosition top.scope p)))
    (evalAt : ∀ {top m form o top' m'}, P top m → E.evalAt top form m = .ok (o, top') m' →
      P top' m')
    (save : ∀ {top m}, inSession = true → P top m → P top { m with session := top })
    (source : String) (fault : Option Reader.Fault) (forms : List Reader.Located) (last : Value)
    {top : Toplevel} {m : Machine} (start : P top m) :
    ∃ o top' m', E.runForms inSession source fault forms last top m = .ok (o, top') m' ∧
      P top' m' := by
  induction forms generalizing last top m with
  | nil => exact ⟨_, top, m, rfl, start⟩
  | cons located rest ih =>
    obtain ⟨top₁, m₁, o, top₂, m₂, follows, heval, top₃, m₃, hrun, hfile, hsession⟩ :=
      runForm_spec (E := E) inSession located top m
    have evaluated : P top₂ m₂ := evalAt (position located.start (follow start follows)) heval
    have done : P top₃ m₃ := by
      cases inSession with
      | false =>
        obtain ⟨rfl, rfl⟩ := hfile rfl
        exact evaluated
      | true =>
        obtain ⟨m', follows', rfl⟩ := hsession rfl
        exact save rfl (follow evaluated follows')
    rw [runForms_cons]
    simp only [bind, EStateM.bind, hrun]
    cases o with
    | ok value => exact ih value done
    | error s => exact ⟨_, top₃, m₃, rfl, done⟩

/-! ### Sources -/

/-- What is left to do when the forms have run: the place moves, and a session saves it. -/
def finish (inSession : Bool) (ended : Except Signal Value × Toplevel) : Eval Value := do
  let top ← Eval.follow ended.2
  if inSession then Eval.saveSession top
  Eval.ofOutcome ended.1

variable (E) in
/-- The forms of a source run at a place. -/
def runSource (inSession : Bool) (source : String) (fault : Option Reader.Fault)
    (forms : List Reader.Located) (top : Toplevel) : Eval Value := do
  Eval.modifyScopes fun s => s.setSource top.scope source
  finish inSession (← E.runForms inSession source fault forms .nil top)

/-- A text is run form by form, as it has been read. -/
theorem evalSource_eq [Tables] (inSession : Bool) (text source : String) (top : Toplevel) :
    E.evalSource inSession text source top =
      E.runSource inSession source ((Reader.readAll E.mode text).fault.map (·.1))
        (Reader.readAll E.mode text).forms top :=
  rfl

theorem runSource_eq (inSession : Bool) (source : String) (fault : Option Reader.Fault)
    (forms : List Reader.Located) (top : Toplevel) (m : Machine) :
    E.runSource inSession source fault forms top m =
      (E.runForms inSession source fault forms .nil top >>= finish inSession)
        (m.mapScopes (·.setSource top.scope source)) :=
  rfl

theorem finish_spec (inSession : Bool) (o : Except Signal Value) (top : Toplevel) (m : Machine) :
    ∃ top' m', Follows top m top' m' ∧ finish inSession (o, top) m =
      Eval.ofOutcome o (if inSession then { m' with session := top' } else m') := by
  obtain ⟨top', m', hfollow, follows⟩ := Eval.follow_spec top m
  refine ⟨top', m', follows, ?_⟩
  simp only [finish, bind, EStateM.bind, hfollow]
  cases inSession with
  | false => rfl
  | true => rfl

/-- What is kept by each of the things that a run of forms is made of is kept by a source. In the
end the place is one for its context. -/
theorem runSource_induction {P : Toplevel → Machine → Prop} (inSession : Bool)
    (follow : ∀ {top m top' m'}, P top m → Follows top m top' m' → P top' m')
    (position : ∀ {top m} p, P top m → P top (m.mapScopes (·.setPosition top.scope p)))
    (evalAt : ∀ {top m form o top' m'}, P top m → E.evalAt top form m = .ok (o, top') m' →
      P top' m')
    (save : ∀ {top m}, inSession = true → P top m → P top { m with session := top })
    (source : String) (fault : Option Reader.Fault) (forms : List Reader.Located)
    {top : Toplevel} {m : Machine} (start : P top (m.mapScopes (·.setSource top.scope source))) :
    ∃ o top' m', E.runSource inSession source fault forms top m = Eval.ofOutcome o m' ∧
      P top' m' ∧ top'.module = top'.context.module ∧ (inSession = true → m'.session = top') := by
  obtain ⟨o, top₁, m₁, hrun, ended⟩ :=
    runForms_induction inSession follow position evalAt save source fault forms .nil start
  obtain ⟨top₂, m₂, follows, hfinish⟩ := finish_spec inSession o top₁ m₁
  have hsource : E.runSource inSession source fault forms top m =
      finish inSession (o, top₁) m₁ := by
    rw [runSource_eq]
    simp only [bind, EStateM.bind, hrun]
  refine ⟨o, top₂, _, hsource.trans hfinish, ?_, follows.settled, ?_⟩
  · cases inSession with
    | false => exact follow ended follows
    | true => exact save rfl (follow ended follows)
  · rintro rfl
    rfl

/-! ### Single forms -/

/-- The place of a form that is evaluated in the session is saved as it is then. -/
theorem evalForm_spec (form : Value) (m : Machine) :
    ∃ o top m', E.evalAt m.session form m = .ok (o, top) m' ∧
      E.evalForm form m = Eval.ofOutcome o { m' with session := top } := by
  obtain ⟨o, top, m', heval⟩ : ∃ o top m', E.evalAt m.session form m = .ok (o, top) m' :=
    ⟨_, _, _, evalAt_eq ..⟩
  refine ⟨o, top, m', heval, ?_⟩
  simp only [evalForm, bind, EStateM.bind, get_apply, heval]
  rfl

/-- A form that is evaluated in a scope has the context of the session, which then moves. -/
theorem evalFormIn_spec (scope : ScopeRef) (form : Value) (m : Machine) :
    ∃ o top₁ m₁ top m₂, E.evalAt { m.session with scope } form m = .ok (o, top₁) m₁ ∧
      Follows { m₁.session with context := top₁.context } m₁ top m₂ ∧
      E.evalFormIn scope form m = Eval.ofOutcome o { m₂ with session := top } := by
  obtain ⟨o, c, m₁, heval⟩ : ∃ o c m₁,
      Eval.inContext m.session.context (E.evalTop scope form) m = .ok (o, c) m₁ :=
    ⟨_, _, _, inContext_eq ..⟩
  obtain ⟨top, m₂, hfollow, follows⟩ := Eval.follow_spec { m₁.session with context := c } m₁
  refine ⟨o, { m.session with scope, context := c }, m₁, top, m₂, ?_, follows, ?_⟩
  · simp only [evalAt, bind, EStateM.bind, heval]
    rfl
  · simp only [evalFormIn, bind, EStateM.bind, get_apply, heval, hfollow]
    rfl

/-! ### From inside -/

section Inside

variable (hE : E.Confined)

include hE

theorem confined_evalTop (scope : ScopeRef) (form : Value) : (E.evalTop scope form).Confined :=
  relates_evalTop hE.related trivial form

/-- A form leaves its place as it is but for the context, whose module is there. -/
theorem confined_evalAt {b m m' : Machine} {top top' : Toplevel} {form : Value}
    {o : Except Signal Value} (h : E.evalAt top form m = .ok (o, top') m')
    (confined : b.Confined m) (known : b.Placed → m.HasModule top.context.module) :
    b.Confined m' ∧ top' = { top with context := top'.context } ∧
      (b.Placed → m'.HasModule top'.context.module) := by
  rw [evalAt_eq] at h
  cases h
  have inside := confined_evalTop hE top.scope form { m with context := top.context }
  have confined' := (confined.setContext known).trans inside
  refine ⟨confined'.setContext fun hb => ?_, rfl, fun hb => (confined'.placed hb).context⟩
  have outside : ({ m with context := top.context } : Machine).HasModule m.context.module :=
    (confined.placed hb).context
  exact outside.mono inside.grows

/-- The forms of a file run in scopes that were not there before. -/
theorem confined_evalSource [Tables] {b m : Machine} {top : Toplevel} (text source : String)
    (confined : b.Confined m) (fresh : b.heap.scopes.size ≤ top.scope.index)
    (known : b.Placed → m.HasModule top.context.module) :
    b.Confined ((E.evalSource false text source top).after m) := by
  let P (top : Toplevel) (m : Machine) : Prop :=
    b.Confined m ∧ b.heap.scopes.size ≤ top.scope.index ∧
      (b.Placed → m.HasModule top.context.module)
  have follow {top m top' m'} (h : P top m) (follows : Follows top m top' m') : P top' m' := by
    obtain ⟨confined, fresh, known⟩ := h
    cases follows with
    | stay _ => exact ⟨confined, fresh, known⟩
    | move _ opened _ =>
      refine ⟨confined.trans opened.confined, confined.grows.scopes_size, fun hb => ?_⟩
      exact (known hb).mono opened.confined.grows
  have position {top m} (p : Text.Position) (h : P top m) :
      P top (m.mapScopes (·.setPosition top.scope p)) := by
    obtain ⟨confined, fresh, known⟩ := h
    exact ⟨confined.trans (confined_setPosition top.scope p m), fresh, known⟩
  have evalAt {top m form o top' m'} (h : P top m)
      (heval : E.evalAt top form m = .ok (o, top') m') : P top' m' := by
    obtain ⟨confined, fresh, known⟩ := h
    obtain ⟨confined, hplace, known⟩ := confined_evalAt hE heval confined known
    rw [hplace]
    exact ⟨confined, fresh, known⟩
  have start : P top (m.mapScopes (·.setSource top.scope source)) :=
    ⟨confined.setSource fresh source, fresh, known⟩
  obtain ⟨o, top', m', hrun, ended, -⟩ := runSource_induction false follow position
    evalAt (fun h => absurd h Bool.false_ne_true) source _ _ start
  rw [evalSource_eq, after_of_eq hrun]
  exact ended.1

/-- Files are run at places of their own. -/
theorem confined_evalFile [Tables] {m : Machine} {c : Context}
    (known : m.Placed → m.HasModule c.module)
    (path : String) : m.Confined ((E.evalFile c path).after m) := by
  unfold evalFile read
  cases E.setting.files path with
  | none => exact .refl m
  | some contents =>
    cases contents with
    | error problem => exact .refl m
    | ok text =>
      have opened := opened_openedScope m c.module
        [("*file*", .string path), ("*dir*", .string ((Path.parent? path).getD ""))]
      simp only [Eval.after, bind, EStateM.bind, pure_apply, openToplevel_eq]
      refine confined_evalSource hE (Text.dropShebang text) path opened.confined (Nat.le_refl _) ?_
      exact fun hm => (known hm).mono opened.confined.grows

/-- What a form saves is the place it has started from, in another context. -/
theorem confined_evalForm (form : Value) : (E.evalForm form).Confined := by
  intro m
  obtain ⟨o, top, m', heval, hall⟩ := evalForm_spec (E := E) form m
  obtain ⟨confined, hplace, known⟩ := confined_evalAt hE heval (.refl m) Machine.Placed.session
  rw [after_of_eq hall, hplace]
  exact confined.setSession known

theorem confined_loadFile [Tables] (path : String) : (E.loadFile path).Confined :=
  confined_get_bind fun _ => confined_evalFile hE Machine.Placed.session path

/-! ### From outside -/

theorem evolves_evalAt {m m' : Machine} {top top' : Toplevel} {form : Value}
    {o : Except Signal Value} (h : E.evalAt top form m = .ok (o, top') m') : m.Evolves m' := by
  rw [evalAt_eq] at h
  cases h
  have inside := (confined_evalTop hE top.scope form { m with context := top.context }).evolves
  exact (Relation.ReflTransGen.head (.context _) inside).tail (.context _)

theorem evolves_evalText [Tables] (text source : String) (m : Machine) :
    m.Evolves ((E.evalText text source).after m) := by
  obtain ⟨o, top, m', hrun, ended, -⟩ := runSource_induction (E := E)
    (P := fun _ m' => m.Evolves m') true (fun h follows => h.trans follows.confined.evolves)
    (fun p h => h.tail (.position _ p)) (fun h heval => h.trans (evolves_evalAt hE heval))
    (fun _ h => h.tail (.session _)) source ((Reader.readAll E.mode text).fault.map (·.1))
    (Reader.readAll E.mode text).forms (.single (.source m.session.scope source))
  have hall : E.evalText text source m = Eval.ofOutcome o m' := hrun
  rw [after_of_eq hall]
  exact ended

theorem evolves_evalFormIn (scope : ScopeRef) (form : Value) (m : Machine) :
    m.Evolves ((E.evalFormIn scope form).after m) := by
  obtain ⟨o, top₁, m₁, top, m₂, heval, follows, hall⟩ := evalFormIn_spec (E := E) scope form m
  rw [after_of_eq hall]
  exact ((evolves_evalAt hE heval).trans follows.confined.evolves).tail (.session top)

end Inside

end Engine

end Lisp
