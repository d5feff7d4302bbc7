import Lisp.Proofs.Interpreter.Growth

/-!
# The place of a session

Between requests a session keeps a place for the next form. Its scope is within the scope of the
module that it was made for, and both are there. Whatever a host asks, this stays so. A text, or a
form that is given a scope, leaves behind a place that was made for the active module.

## Main definitions

* `Machine.Seats` — a place that is there
* `Machine.Steady` — machines whose modules and session are there
* `Machine.Settled` — machines whose session is in the active module
* `Machine.Runs` — what is known while the forms of a source run
* `Request.Follows` — requests that end with a move to the active module

## Main results

* `Machine.Runs.follow`, `Machine.Runs.evalAt` — what a run of forms does to its place
* `Interpreter.settled_of_follows`, `Interpreter.confined_of_not_follows` — two kinds of requests
* `Interpreter.Reachable.steady` — the invariant
-/

namespace Lisp

namespace Machine

variable {b m m' : Machine} {top top' : Toplevel}

/-- A place is there: its scope is one within the scope of the module it was made for. -/
structure Seats (m : Machine) (top : Toplevel) : Prop where
  there : top.scope.index < m.heap.scopes.size
  module : m.HasModule top.module
  context : m.HasModule top.context.module
  outer : m.heap.scopes.outer? top.scope = some (m.moduleScope top.module)

/-- All modules that are referred to are there, and so is the place of the session. -/
structure Steady (m : Machine) : Prop where
  placed : m.Placed
  session : m.Seats m.session

/-- The place of the session is one for the module that is active in it. -/
structure Settled (m : Machine) : Prop extends m.Steady where
  current : m.session.module = m.session.context.module

theorem Seats.mono (h : b.Seats top) (grows : b.Grows m) : m.Seats top where
  there := Nat.lt_of_lt_of_le h.there grows.scopes_size
  module := h.module.mono grows
  context := h.context.mono grows
  outer := by rw [grows.outer? h.there, h.outer, grows.moduleScope h.module]

/-- What is there stays there if the session has at most another context. -/
theorem Steady.mono (h : b.Steady) (grows : b.Grows m) (placed : m.Placed)
    (session : m.session = { b.session with context := m.session.context }) : m.Steady where
  placed := placed
  session := by
    have kept := h.session.mono grows
    rw [session]
    exact { kept with context := placed.session }

theorem Steady.confined (h : b.Steady) (hm : b.Confined m) : m.Steady :=
  h.mono hm.grows (hm.placed h.placed) hm.session

theorem Steady.setSource (h : m.Steady) (r : ScopeRef) (source : String) :
    (m.mapScopes (·.setSource r source)).Steady :=
  h.mono (Change.source r source).grows (h.placed.setSource r source) rfl

/-- A place that is there may become that of the session. -/
theorem Steady.save (h : m.Steady) (htop : m.Seats top) : Steady { m with session := top } where
  placed := { h.placed with session := htop.context }
  session := { htop with }

/-! ### What runs do to places -/

/-- The scope that a place moves to is within that of the active module. -/
theorem Seats.follow (h : m.Seats top) (hm : m.Placed) (follows : Eval.Follows top m top' m') :
    m'.Seats top' := by
  cases follows with
  | stay _ => exact h
  | move _ opened _ =>
    have grows := opened.confined.grows
    refine ⟨opened.there, h.context.mono grows, h.context.mono grows, ?_⟩
    rw [opened.outer hm h.context, grows.moduleScope h.context]

/-- The forms of a source run at a place that is there and whose scope belongs to the source. -/
structure Runs (m : Machine) (source : String) (top : Toplevel) : Prop where
  steady : m.Steady
  seats : m.Seats top
  source : m.heap.scopes.source? top.scope = some source

namespace Runs

variable {source : String}

theorem start (h : m.Steady) (source : String) :
    (m.mapScopes (·.setSource m.session.scope source)).Runs source m.session := by
  have steady := h.setSource m.session.scope source
  exact ⟨steady, steady.session, Scopes.source?_setSource h.session.there source⟩

theorem follow (h : m.Runs source top) (follows : Eval.Follows top m top' m') :
    m'.Runs source top' := by
  refine ⟨h.steady.confined follows.confined, h.seats.follow h.steady.placed follows, ?_⟩
  cases follows with
  | stay _ => exact h.source
  | move _ _ kept => exact kept source h.source

theorem position (h : m.Runs source top) (p : Text.Position) :
    (m.mapScopes (·.setPosition top.scope p)).Runs source top := by
  have confined := Eval.confined_setPosition top.scope p m
  refine ⟨h.steady.confined confined, h.seats.mono confined.grows, ?_⟩
  exact (confined.sources top.scope h.seats.there).trans h.source

theorem evalAt {E : Engine} (hE : E.Confined) {form : Value} {o : Except Signal Value}
    (h : m.Runs source top) (heval : E.evalAt top form m = .ok (o, top') m') :
    m'.Runs source top' := by
  obtain ⟨confined, hplace, known⟩ :=
    Engine.confined_evalAt hE heval (.refl m) fun _ => h.seats.context
  have kept := h.seats.mono confined.grows
  rw [hplace]
  refine ⟨h.steady.confined confined, { kept with context := known h.steady.placed }, ?_⟩
  exact (confined.sources top.scope h.seats.there).trans h.source

theorem save (h : m.Runs source top) : Runs { m with session := top } source top :=
  ⟨h.steady.save h.seats, { h.seats with }, h.source⟩

end Runs

end Machine

namespace Engine

open Machine (Runs)

variable {E : Engine} (hE : E.Confined) {m : Machine} (hm : m.Steady)

include hE

theorem exists_runForms {source : String} {top : Toplevel} (start : m.Runs source top)
    (fault : Option Reader.Fault) (forms : List Reader.Located) (last : Value) :
    ∃ o top' m', E.runForms true source fault forms last top m = .ok (o, top') m' ∧
      m'.Runs source top' :=
  runForms_induction true Runs.follow (fun p h => h.position p) (Runs.evalAt hE)
    (fun _ => Runs.save) source fault forms last start

include hm

/-- The forms of a source run in the session: they leave it in a place that is there and that was
made for the active module. -/
theorem settled_runSource (source : String) (fault : Option Reader.Fault)
    (forms : List Reader.Located) :
    ((E.runSource true source fault forms m.session).after m).Settled := by
  obtain ⟨o, top, m', hrun, ended, settled, saved⟩ :=
    runSource_induction true Runs.follow (fun p h => h.position p) (Runs.evalAt hE)
      (fun _ => Runs.save) source fault forms (Runs.start hm source)
  rw [Eval.after_of_eq hrun]
  refine ⟨ended.steady, ?_⟩
  rw [saved rfl]
  exact settled

theorem settled_evalText [Tables] (text source : String) :
    ((E.evalText text source).after m).Settled :=
  settled_runSource hE hm source _ _

/-- The session moves to the module that is active when the form has been evaluated. -/
theorem settled_evalFormIn (scope : ScopeRef) (form : Value) :
    ((E.evalFormIn scope form).after m).Settled := by
  obtain ⟨o, top₁, m₁, top, m₂, heval, follows, hall⟩ := evalFormIn_spec (E := E) scope form m
  obtain ⟨confined, -, known⟩ :=
    confined_evalAt hE heval (.refl m) fun hm => hm.session
  have steady := hm.confined confined
  have seats : m₁.Seats { m₁.session with context := top₁.context } :=
    { steady.session with context := known hm.placed }
  rw [Eval.after_of_eq hall]
  refine ⟨?_, follows.settled⟩
  exact (steady.confined follows.confined).save (seats.follow steady.placed follows)

end Engine

/-- Whether the session moves to the active module at the end of a request. -/
def Request.Follows : Request → Prop
  | .text .. | .formIn .. => True
  | .form _ | .file _ | .call .. => False

namespace Interpreter

/-- A session starts within the global scope. -/
theorem steady_start (options : Options) : (Start.machine options).Steady := by
  have core : (Start.machine options).HasModule Start.coreModule := Nat.zero_lt_succ 1
  have host : (Start.machine options).HasModule Start.hostModule := Nat.lt_succ_self 1
  have placed : (Start.machine options).Placed := by
    refine ⟨fun i module h => ?_, fun name r h => ?_, fun i l h => ?_, core, core⟩
    · match i with
      | 0 =>
        obtain rfl : _ = module := Option.some.inj h
        exact (by decide : 0 < 3)
      | 1 =>
        obtain rfl : _ = module := Option.some.inj h
        exact (by decide : 2 < 3)
      | i + 2 => simp [Start.machine, Start.modules] at h
    · change ((ModuleTree.empty.insert Start.coreName Start.coreModule).insert options.hostNamespace
        Start.hostModule).find? name = some r at h
      rw [ModuleTree.find?_insert, ModuleTree.find?_insert] at h
      split_ifs at h with hhost hcore
      · obtain rfl := Option.some.inj h
        exact host
      · obtain rfl := Option.some.inj h
        exact core
      · simp [ModuleTree.find?] at h
    · simp [Start.machine] at h
  exact ⟨placed, (by decide : 1 < 3), core, core, rfl⟩

/-- After a request that moves the session it is in the active module, wherever it was before. -/
theorem settled_of_follows [Tables] {i : Interpreter} (h : i.machine.Steady) (fuel : Nat)
    {request : Request} (follows : request.Follows) : (i.ask fuel request).2.machine.Settled := by
  have hE := Engine.confined_ofFuel i.setting fuel
  unfold ask
  rw [machine_run]
  cases request with
  | text text source => exact Engine.settled_evalText hE h text source
  | formIn scope form => exact Engine.settled_evalFormIn hE h scope form
  | form form => exact follows.elim
  | file path => exact follows.elim
  | call f args => exact follows.elim

/-- Requests that do not move the session leave it at most another context. -/
theorem confined_of_not_follows [Tables] (i : Interpreter) (fuel : Nat) {request : Request}
    (stays : ¬ request.Follows) : i.machine.Confined (i.ask fuel request).2.machine := by
  have hE := Engine.confined_ofFuel i.setting fuel
  unfold ask
  rw [machine_run]
  cases request with
  | text text source => exact absurd trivial stays
  | formIn scope form => exact absurd trivial stays
  | form form => exact Engine.confined_evalForm hE form i.machine
  | file path => exact Engine.confined_loadFile hE path i.machine
  | call f args => exact Engine.confined_apply hE f args i.machine

/-- Whatever is asked, the session stays in a place that is there. -/
theorem steady_ask [Tables] {i : Interpreter} (h : i.machine.Steady) (fuel : Nat)
    (request : Request) :
    (i.ask fuel request).2.machine.Steady := by
  by_cases follows : request.Follows
  · exact (settled_of_follows h fuel follows).toSteady
  · exact h.confined (confined_of_not_follows i fuel follows)

/-- The invariant holds of every interpreter that a host can have. -/
theorem Reachable.steady [Tables] {i : Interpreter} (h : i.Reachable) : i.machine.Steady := by
  induction h with
  | start options files => exact steady_start options
  | ask _ fuel request ih => exact steady_ask ih fuel request
  | takeOutput _ ih => exact ⟨{ ih.placed with }, { ih.session with }⟩
  | files _ files ih => exact ih

end Interpreter

end Lisp
