import Lisp.Proofs.Interpreter.Session

/-!
# A session is a fold over its forms

Forms that are given to a session in one text do what they do in two: the second text goes on where
the first has ended. For this, the machine that the first text leaves behind has to be the one that
the rest of a single text would go on with. It is, since behind every form the session has the place
of the run, that place is one for the active module, and its scope belongs to the source.

The first text may be empty. Then the session has moved to the active module before the second text
starts, while a single text moves behind its first form only, and that form can tell the difference.

## Main definitions

* `Machine.Saved` — the session has the place of a run
* `Engine.evalLocated` — runs the forms of a text that has been read
* `Interpreter.runLocated` — the same as a request

## Main results

* `Engine.runForms_append` — a run of forms is a run of some of them and then of the others
* `Interpreter.session_is_fold` — so is a text
* `Interpreter.first_form_sees_old_module` — but not at its start, if the session is behind
-/

namespace Lisp

/-! ### Changes that change nothing -/

theorem Forest.eq_of_nodes {α : Type} {f g : Forest α} (h : f.nodes = g.nodes) : f = g := by
  cases f
  cases g
  cases h
  rfl

theorem Forest.update_eq_self {α : Type} {f : Forest α} {i : Nat} {g : α → α}
    (h : ∀ a, f.get? i = some a → g a = a) : f.update i g = f := by
  refine Forest.eq_of_nodes (Array.ext_getElem? fun j => ?_)
  change (f.nodes.modify i _)[j]? = f.nodes[j]?
  rw [Array.getElem?_modify]
  split
  · next hij =>
    subst hij
    cases hi : f.nodes[i]? with
    | none => rfl
    | some node =>
      obtain ⟨parent, a⟩ := node
      have hsame := h a (by rw [Forest.get?, hi, Option.map_some])
      exact congrArg (fun b => some (parent, b)) hsame
  · rfl

theorem Scopes.setSource_eq_self {s : Scopes} {r : ScopeRef} {source : String}
    (h : s.source? r = some source) : s.setSource r source = s := by
  refine Forest.update_eq_self fun f hf => ?_
  unfold Scopes.source? Scopes.frame at h
  rw [hf, Option.getD_some] at h
  rw [← h]

/-- The session has the place of a run, and that is one for the active module. -/
structure Machine.Saved (m : Machine) (top : Toplevel) : Prop where
  session : m.session = top
  current : top.module = top.context.module

namespace Engine

open Machine (Runs)

variable {E : Engine} {source : String} {top : Toplevel} {m : Machine}

/-! ### Runs -/

/-- A run of forms is a run of some of them and, unless one of these fails, of the others. -/
theorem runForms_append (inSession : Bool) (source : String) (fault : Option Reader.Fault)
    (first rest : List Reader.Located) (last : Value) (top : Toplevel) :
    E.runForms inSession source fault (first ++ rest) last top = (do
      let (outcome, top) ← E.runForms inSession source none first last top
      match outcome with
      | .ok value => E.runForms inSession source fault rest value top
      | .error s => return (.error s, top)) := by
  induction first generalizing last top with
  | nil => rfl
  | cons located first ih =>
    rw [List.cons_append, runForms_cons, runForms_cons, bind_assoc]
    congr 1
    funext ⟨outcome, top⟩
    cases outcome with
    | ok value => exact ih value top
    | error s => rfl

/-- What a run starts with is its value only if it has no forms. -/
theorem runForms_congr (inSession : Bool) (source : String) (fault : Option Reader.Fault)
    {forms : List Reader.Located} (nonempty : forms ≠ []) (last last' : Value) (top : Toplevel) :
    E.runForms inSession source fault forms last top =
      E.runForms inSession source fault forms last' top := by
  cases forms with
  | nil => exact absurd rfl nonempty
  | cons located rest => rw [runForms_cons, runForms_cons]

/-- Behind every form of a session its place is saved. -/
theorem saved_runForms {fault : Option Reader.Fault} {forms : List Reader.Located} {last : Value}
    {o : Except Signal Value} {top' : Toplevel} {m' : Machine}
    (hrun : E.runForms true source fault forms last top m = .ok (o, top') m')
    (start : forms = [] → m.Saved top) : m'.Saved top' := by
  induction forms generalizing last top m with
  | nil =>
    cases hrun
    exact start rfl
  | cons located rest ih =>
    obtain ⟨_, _, o₁, _, _, -, -, top₁, m₁, hform, -, hsaved⟩ :=
      runForm_spec (E := E) true located top m
    have saved : m₁.Saved top₁ := by
      obtain ⟨m₀, follows, rfl⟩ := hsaved rfl
      exact ⟨rfl, follows.settled⟩
    rw [runForms_cons] at hrun
    simp only [bind, EStateM.bind, hform] at hrun
    cases o₁ with
    | ok value => exact ih hrun fun _ => saved
    | error s =>
      cases hrun
      exact saved

/-- Where a place is saved and settled nothing is left to do. -/
theorem finish_of_saved (h : m.Saved top) (o : Except Signal Value) :
    finish true (o, top) m = Eval.ofOutcome o m := by
  obtain ⟨top', m', follows, hfinish⟩ := finish_spec true o top m
  rw [hfinish, if_pos rfl]
  obtain ⟨hsession, hmodule⟩ := h
  cases follows with
  | stay _ => rw [← hsession]
  | move other _ _ => exact absurd hmodule other

/-! ### Texts -/

variable (E) in
/-- Runs the forms of a text in the session, as they have been read. -/
def evalLocated (source : String) (fault : Option Reader.Fault) (forms : List Reader.Located) :
    Eval Value := do
  E.runSource true source fault forms (← get).session

theorem evalLocated_eq (source : String) (fault : Option Reader.Fault)
    (forms : List Reader.Located) (m : Machine) :
    E.evalLocated source fault forms m =
      (E.runForms true source fault forms .nil m.session >>= finish true)
        (m.mapScopes (·.setSource m.session.scope source)) :=
  rfl

/-- A text goes on where another one of the same source has ended. -/
theorem evalLocated_append (hE : E.Confined) (hm : m.Steady) (source : String)
    (fault : Option Reader.Fault) {first rest : List Reader.Located} (nonempty : rest ≠ [])
    (start : first = [] → m.session.module = m.session.context.module) :
    E.evalLocated source fault (first ++ rest) m = (do
      let _ ← E.evalLocated source none first
      E.evalLocated source fault rest : Eval Value) m := by
  obtain ⟨o, top, m₁, hrun, ended⟩ :=
    exists_runForms hE (Runs.start hm source) none first .nil
  have saved : m₁.Saved top := saved_runForms hrun fun h => ⟨rfl, start h⟩
  have hfirst : E.evalLocated source none first m = Eval.ofOutcome o m₁ := by
    rw [evalLocated_eq, ← finish_of_saved saved o]
    simp only [bind, EStateM.bind, hrun]
  rw [evalLocated_eq, runForms_append]
  cases o with
  | error s =>
    simp only [bind, EStateM.bind, hrun, hfirst]
    exact finish_of_saved saved (.error s)
  | ok value =>
    -- the source of the scope is set once more, to what it is
    have still : m₁.mapScopes (·.setSource top.scope source) = m₁ := by
      rw [Machine.mapScopes, Scopes.setSource_eq_self ended.source]
    have hrest : E.evalLocated source fault rest m₁ =
        (E.runForms true source fault rest value top >>= finish true) m₁ := by
      rw [evalLocated_eq, saved.session, still,
        runForms_congr true source fault nonempty .nil value]
    simp only [bind, EStateM.bind, hrun, hfirst]
    exact hrest.symm

end Engine

namespace Interpreter

/-- Runs the forms of a text in the session, as they have been read. -/
def runLocated [Tables] (i : Interpreter) (fuel : Nat) (source : String)
    (fault : Option Reader.Fault)
    (forms : List Reader.Located) : Except Signal Value × Interpreter :=
  i.run ((Engine.ofFuel i.setting fuel).evalLocated source fault forms)

/-- What comes of a request and another one behind it, which is only made if the first succeeds. -/
def andThen (first : Except Signal Value × Interpreter)
    (next : Interpreter → Except Signal Value × Interpreter) : Except Signal Value × Interpreter :=
  match first with
  | (.ok _, j) => next j
  | (.error s, j) => (.error s, j)

/-- Two runs of forms with one source make one, whatever the forms are, as long as there are some in
the second: the answer is the same, and so is everything that they leave behind. If the first run
fails, the second makes no difference. Where there are no forms in the first one, the session has to
be in the active module. -/
theorem session_is_fold [Tables] {i : Interpreter} (h : i.Reachable) (fuel : Nat) (source : String)
    (fault : Option Reader.Fault) {first rest : List Reader.Located} (nonempty : rest ≠ [])
    (start : first = [] → i.machine.session.module = i.machine.session.context.module) :
    i.runLocated fuel source fault (first ++ rest) =
      andThen (i.runLocated fuel source none first) (·.runLocated fuel source fault rest) := by
  have hE := Engine.confined_ofFuel i.setting fuel
  have happend := Engine.evalLocated_append hE h.steady source fault nonempty start
  unfold andThen runLocated run
  rw [happend]
  simp only [bind, EStateM.bind]
  cases (Engine.ofFuel i.setting fuel).evalLocated source none first i.machine with
  | ok v m => rfl
  | error s m => rfl

/-- A definition in a new module and a form that reads it in the session. -/
theorem session_is_fold_definition :
    let i := start {} fun _ => none
    let first : List Reader.Located :=
      [⟨.list [.sym "module", .sym "a"], ⟨1, 1⟩⟩,
        ⟨.list [.sym "define", .sym "x", .kw "a"], ⟨1, 12⟩⟩]
    let rest : List Reader.Located := [⟨.list [.sym "eval", .quoted (.sym "x")], ⟨2, 1⟩⟩]
    rest ≠ [] ∧ first ≠ [] ∧
      i.runLocated 30 "t" none (first ++ rest) =
        andThen (i.runLocated 30 "t" none first) (·.runLocated 30 "t" none rest) := by
  intro i first rest
  have hfirst : first ≠ [] := List.cons_ne_nil _ _
  have hrest : rest ≠ [] := List.cons_ne_nil _ _
  exact ⟨hrest, hfirst, session_is_fold (Reachable.start {} fun _ => none) 30 "t" none hrest
    fun h => absurd h hfirst⟩

/-- A session that is behind: a form has made another module active. The first form of a text runs
in that module, but what it evaluates in the session still runs in the module before; behind an
empty text it does not. -/
theorem first_form_sees_old_module :
    let i := ((start {} fun _ => none).ask 30
      (.text "(module a) (define x :a) (module b) (define x :b) (module a)" "t")).2
    let j := (i.ask 30 (.form (.list [.sym "use", .sym "b"]))).2
    let rest : List Reader.Located := [⟨.list [.sym "eval", .quoted (.sym "x")], ⟨1, 1⟩⟩]
    j.Reachable ∧ rest ≠ [] ∧
      j.runLocated 30 "t" none ([] ++ rest) ≠
        andThen (j.runLocated 30 "t" none []) (·.runLocated 30 "t" none rest) := by
  intro i j rest
  have hj : j.Reachable := ((Reachable.start {} fun _ => none).ask 30 _).ask 30 _
  let shown (answer : Except Signal Value × Interpreter) : Option String :=
    answer.1.toOption.map answer.2.machine.heap.print
  have whole : shown (j.runLocated 30 "t" none ([] ++ rest)) = some ":a" := by decide +kernel
  have split : shown (andThen (j.runLocated 30 "t" none []) (·.runLocated 30 "t" none rest)) =
      some ":b" := by
    decide +kernel
  refine ⟨hj, List.cons_ne_nil _ _, fun same => ?_⟩
  rw [same, split] at whole
  exact absurd whole (by decide)

end Interpreter

end Lisp
