import Lisp.Proofs.Eval.Sparing
import Lisp.Proofs.Eval.TailCall
import Lisp.Proofs.Interpreter.Session

/-!
# Rounds of a loop

A loop has a scope of its own, in which its names are bound one after the other. The first round of
its body runs right there; each round that is asked for by `again` gets a scope within that one,
which binds the names to the new values. So what is bound privately in one of these rounds is bound
in its own scope and nowhere else, and no other round sees it: they are not within each other, and
whatever runs in them gives no more names to the scope of the loop. What the first round has bound
privately is in the scope of the loop, though, and is seen by all rounds after it.

## Main definitions

* `Machine.Isolates` — the scope of a round sees the names of the loop and what is seen around it
* `Engine.Begins` — the first round, when it asks for another one
* `Engine.Rounds` — any number of rounds after it, each of which asks for another one

## Main results

* `Engine.Rounds.spares` — rounds give no more names to the scope of the loop
* `Engine.evalLoop_isolates` — a round sees no more than it should, but for names of the first one
* `Engine.first_round_leaks` — these it may see
-/

namespace Lisp

/-- What a scope binds itself is what is visible there. -/
theorem Scopes.binding?_of_own {s : Scopes} {e : ScopeRef} {n : String} {b : Binding}
    (h : s.own? e n = some b) : s.binding? e n = some b := by
  obtain ⟨rest, hpath⟩ : ∃ rest, s.path e = e :: rest := by
    cases outer : s.parent? e.index with
    | none => exact ⟨[], path_of_outermost outer⟩
    | some p => exact ⟨s.path ⟨p⟩, path_of_outer (r := ⟨p⟩) outer⟩
  rw [binding?_eq, hpath, List.findSome?_cons, h]

namespace Machine

variable {m : Machine} {base outer : ScopeRef} {names : List String} {vs : List Value}
  {excepted : String → Prop}

/-- What symbols mean in the scope of a round, compared with the scope that the loop stands in. The
names of the loop have the values that the round was asked for with; of equal names, the last one
counts. Every other name means the same, unless it is excepted. -/
structure Isolates (m : Machine) (round outer : ScopeRef) (names : List String) (vs : List Value)
    (excepted : String → Prop) : Prop where
  bound : ∀ (i : Nat) (n : String) (v : Value), names[i]? = some n → vs[i]? = some v →
    (∀ j, i < j → names[j]? ≠ some n) → m.resolve? round ⟨none, n⟩ = .ok (some ⟨v, none⟩)
  others : ∀ name : Name, (name.space = none → name.base ∉ names ∧ ¬ excepted name.base) →
    m.resolve? round name = m.resolve? outer name

/-- A scope for a round, within one that binds no other names than the excepted ones. -/
theorem isolates_newScope (there : m.heap.scopes.Has base)
    (within : m.heap.scopes.outer? base = some outer)
    (free : ∀ n, ¬ excepted n → m.heap.scopes.own? base n = none) :
    ((Eval.newScope base "loop" (Scopes.bindAll names vs)).after m).Isolates m.heap.scopes.next
      outer names vs excepted := by
  have child : m.heap.scopes.Child base (Scopes.bindAll names vs).get?
      ((Eval.newScope base "loop" (Scopes.bindAll names vs)).after m).heap.scopes :=
    Scopes.child_newScope there "loop" (Scopes.bindAll names vs)
  generalize (Eval.newScope base "loop" (Scopes.bindAll names vs)).after m = inside at child ⊢
  obtain ⟨hangs, binds⟩ := child.kept base there
  have own := congrFun child.own
  refine ⟨fun i n v hname hvalue last => ?_, fun name other => ?_⟩
  · have visible := Scopes.binding?_of_own
      ((own n).trans (Scopes.get?_bindAll_of_last hname hvalue last))
    simp only [resolve?, visible, Option.some_or]
  · obtain ⟨space, n⟩ := name
    cases space with
    | some space => rfl
    | none =>
      obtain ⟨notMem, allowed⟩ := other rfl
      -- neither the scope of the round nor that of the loop binds the name
      have past := Scopes.binding?_of_free child.outer
        ((own n).trans (Scopes.get?_bindAll_of_notMem notMem))
      have past' := Scopes.binding?_of_free (hangs.trans within)
        ((congrFun binds n).trans (free n allowed))
      simp only [resolve?, past, past']

end Machine

namespace Engine

open Machine

/-! ### Rounds -/

section Rounds

variable (E : Engine) (base : ScopeRef) (names : List String) (body : List Value)

/-- The first round of a loop asks for another one: the names are bound in a new scope, and the body
is evaluated there. -/
structure Begins (scope : ScopeRef) (items : List Value) (m : Machine) (next : List Value)
    (m' : Machine) : Prop where
  even : items.length % 2 = 0
  round : ∃ m₀, E.bindLoop m.heap.scopes.next (Value.pairUp items)
      ((Eval.newScope scope "loop").after m) = .ok names m₀ ∧
    E.evalBody m.heap.scopes.next body m₀ = .error (.again next) m'

/-- Rounds of a loop after the first one, each of which ends by asking for the next one. -/
inductive Rounds : Nat → List Value → Machine → List Value → Machine → Prop
  | refl (vs : List Value) (m : Machine) : Rounds 0 vs m vs m
  | step {k : Nat} {vs next us : List Value} {m m' m'' : Machine}
      (length : vs.length = names.length)
      (again : E.evalBody m.heap.scopes.next body
        ((Eval.newScope base "loop" (Scopes.bindAll names vs)).after m) = .error (.again next) m')
      (rest : Rounds k next m' us m'') : Rounds (k + 1) vs m us m''

/-- The round that is asked for with some values, and those after it. -/
def nextRound (rounds : Nat) (vs : List Value) : Eval Value := do
  if vs.length = names.length then
    let next ← Eval.newScope base "loop" (Scopes.bindAll names vs)
    E.runLoop base names body rounds next
  else Eval.failArity "loop" (toString names.length) vs.length

end Rounds

variable {E : Engine} {base scope : ScopeRef} {names : List String} {items body : List Value}
  {rep : Representation} {vs next us : List Value} {m m' m₁ : Machine}

theorem runLoop_of_again (again : E.evalBody scope body m = .error (.again next) m') (n : Nat) :
    E.runLoop base names body (n + 1) scope m = E.nextRound base names body n next m' := by
  simp only [runLoop, bind, EStateM.bind, Eval.attempt, again]
  rfl

theorem nextRound_of_length (length : vs.length = names.length) (n : Nat) (m : Machine) :
    E.nextRound base names body n vs m = E.runLoop base names body n m.heap.scopes.next
      ((Eval.newScope base "loop" (Scopes.bindAll names vs)).after m) := by
  rw [nextRound, if_pos length]
  rfl

/-- Rounds that have been run can be left out. -/
theorem Rounds.nextRound_eq {k : Nat} (h : E.Rounds base names body k vs m us m') (n : Nat) :
    E.nextRound base names body (n + k) vs m = E.nextRound base names body n us m' := by
  induction h with
  | refl vs m => rfl
  | @step k vs next us m m' m'' length again _ ih =>
    rw [nextRound_of_length length, ← ih, ← Nat.add_assoc]
    exact runLoop_of_again again (n + k)

/-- A loop whose first round asks for another one goes on with that. -/
theorem Begins.evalLoop_eq (h : E.Begins names body scope items m next m₁) {n : Nat}
    (rounds : E.rounds = n + 1) (rep : Representation) :
    E.evalLoop scope (.vector rep items :: body) m =
      E.nextRound m.heap.scopes.next names body n next m₁ := by
  obtain ⟨m₀, bound, again⟩ := h.round
  have opened : (Eval.newScope scope "loop" {}) m =
      .ok m.heap.scopes.next ((Eval.newScope scope "loop").after m) := rfl
  rw [← runLoop_of_again again n, ← rounds]
  simp only [evalLoop, if_pos h.even, bind, EStateM.bind, opened, bound]

/-! ### What rounds do to the scope of the loop -/

section Confined

variable (hE : E.Confined)

include hE

theorem Begins.confined (h : E.Begins names body scope items m next m₁) :
    ((Eval.newScope scope "loop").after m).Confined m₁ := by
  obtain ⟨m₀, bound, again⟩ := h.round
  have bind := confined_bindLoop hE m.heap.scopes.next (Value.pairUp items)
    ((Eval.newScope scope "loop").after m)
  have run := confined_evalBody hE m.heap.scopes.next body m₀
  rw [Eval.after_of_eq (o := .ok _) bound] at bind
  rw [Eval.after_of_eq (o := .error _) again] at run
  exact bind.trans run

theorem Rounds.confined {k : Nat} (h : E.Rounds base names body k vs m us m') : m.Confined m' := by
  induction h with
  | refl vs m => exact .refl m
  | @step k vs next us m m' m'' length again _ ih =>
    have opened := Eval.confined_newScope base "loop" (Scopes.bindAll names vs) m
    have run := confined_evalBody hE m.heap.scopes.next body
      ((Eval.newScope base "loop" (Scopes.bindAll names vs)).after m)
    rw [Eval.after_of_eq (o := .error _) again] at run
    exact (opened.trans run).trans ih

end Confined

/-- Rounds after the first one run in scopes of their own, so they give no more names to the scope
of the loop. -/
theorem Rounds.spares (rel : Related (Eval.elsewhere base) E E) {k : Nat}
    (h : E.Rounds base names body k vs m us m') (aside : m.Aside base) : m.Spares base m' := by
  induction h with
  | refl vs m => exact .refl aside
  | @step k vs next us m m' m'' length again _ ih =>
    have opened : m.Spares base _ := Comparison.relates_effect (S := Eval.sparing base)
      (.newScope base "loop" (Scopes.bindAll names vs)) m aside
    have run := relates_evalBody rel aside.ne_next body _ opened.aside
    rw [Eval.after_of_eq (o := .error _) again] at run
    exact (opened.trans run).trans (ih run.aside)

/-! ### Loops -/

/-- A loop asks for a round with some values, the first round asking for the second one and so on.
If there are as many values as the loop has names, then the loop goes on with this round, in whose
scope the names of the loop have these values and all other names mean what they mean where the
loop stands, except for names that the first round has left in the scope of the loop. Else the loop
fails because of the number of values. -/
theorem evalLoop_isolates [Tables] (setting : Setting) (fuel : Nat) (placed : m.Placed)
    (there : m.heap.scopes.Has scope) (session : m.heap.scopes.Has m.session.scope)
    (begins : (ofFuel setting fuel).Begins names body scope items m next m₁) {k : Nat}
    (rounds : (ofFuel setting fuel).Rounds m.heap.scopes.next names body k next m₁ vs m')
    (lasts : k < fuel) (rep : Representation) :
    let E := ofFuel setting fuel
    let round := m'.heap.scopes.next
    let inside := (Eval.newScope m.heap.scopes.next "loop" (Scopes.bindAll names vs)).after m'
    (vs.length = names.length →
      E.evalLoop scope (.vector rep items :: body) m =
        E.runLoop m.heap.scopes.next names body (fuel - (k + 1)) round inside ∧
      inside.Isolates round scope names vs
        fun n => (m₁.heap.scopes.own? m.heap.scopes.next n).isSome) ∧
    (vs.length ≠ names.length →
      E.evalLoop scope (.vector rep items :: body) m =
        .error (.fault { cause := .arity "loop" (toString names.length) vs.length }) m') := by
  intro E round inside
  have hE : E.Confined := confined_ofFuel setting fuel
  -- the scope of the loop is made where it stands, and code from inside keeps it aside
  have opened := Scopes.child_newScope there "loop" {}
  have first : ((Eval.newScope scope "loop").after m).Confined m₁ := begins.confined hE
  have made : ((Eval.newScope scope "loop").after m).heap.scopes.Has m.heap.scopes.next :=
    (placed.aside_newScope session scope "loop" {}).there
  have aside : m₁.Aside m.heap.scopes.next :=
    first.aside (placed.aside_newScope session scope "loop" {})
  have spared := rounds.spares (related_elsewhere _ setting fuel) aside
  have goesOn : E.evalLoop scope (.vector rep items :: body) m =
      E.nextRound m.heap.scopes.next names body (fuel - (k + 1)) vs m' := by
    rw [begins.evalLoop_eq (n := fuel - 1) (by change fuel = fuel - 1 + 1; omega) rep,
      ← rounds.nextRound_eq]
    congr 1
    omega
  refine ⟨fun length => ⟨?_, ?_⟩, fun length => ?_⟩
  · rw [goesOn, nextRound_of_length length]
  · have grows := first.grows.trans (rounds.confined hE).grows
    refine isolates_newScope spared.aside.there ?_ fun n free => ?_
    · exact (grows.outer? made).trans opened.outer
    · exact spared.unbound n (Option.not_isSome_iff_eq_none.1 free)
  · rw [goesOn, nextRound, if_neg length]
    rfl

/-! ### Loops of a session -/

/-- The values that an evaluation asks for another round with. -/
def nextArgs (act : Eval Value) (m : Machine) : List Value := (nextArgs? act m).getD []

theorem eq_again_of_isSome {act : Eval Value} (h : (nextArgs? act m).isSome) :
    act m = .error (.again (nextArgs act m)) (act.after m) := by
  obtain ⟨vs, hvs⟩ := Option.isSome_iff_exists.1 h
  rw [nextArgs, hvs]
  exact eq_again_of_nextArgs? hvs

theorem bindLoop_of_outcome {bindings : List (Value × Value)}
    (h : ((E.bindLoop base bindings).outcome m).toOption = some names) :
    E.bindLoop base bindings m = .ok names ((E.bindLoop base bindings).after m) := by
  unfold Eval.outcome at h
  unfold Eval.after
  cases hbind : E.bindLoop base bindings m with
  | ok found m' =>
    rw [hbind] at h
    cases h
    rfl
  | error s m' =>
    rw [hbind] at h
    cases h

/-- A name that is bound privately in the second round of a loop is not visible in the third. -/
theorem evalLoop_isolates_third :
    let E := ofFuel ⟨{}, fun _ => none⟩ 30
    let m := (Interpreter.start {} fun _ => none).machine
    let scope := m.session.scope
    let base := m.heap.scopes.next
    let atRound (round : String) : Value := .list [.sym "=", .sym "round", .kw round]
    let items : List Value := [.sym "round", .kw "first"]
    let body : List Value :=
      [.list [.sym "cond", atRound "second",
          .list [.sym "define", .kw "private", .sym "y", .bool true]],
        .list [.sym "cond", atRound "first", .list [.sym "again", .kw "second"],
          atRound "second", .list [.sym "again", .kw "third"], .kw "else", .sym "y"]]
    ∃ next m₁ vs m', E.Begins ["round"] body scope items m next m₁ ∧
      E.Rounds base ["round"] body 1 next m₁ vs m' ∧ vs.length = 1 ∧
      let inside := (Eval.newScope base "loop" (Scopes.bindAll ["round"] vs)).after m'
      E.evalLoop scope (.vector .native items :: body) m =
        E.runLoop base ["round"] body 28 m'.heap.scopes.next inside ∧
      inside.resolve? m'.heap.scopes.next (.simple "y") = inside.resolve? scope (.simple "y") := by
  intro E m scope base atRound items body
  have steady : m.Steady := (Interpreter.Reachable.start {} fun _ => none).steady
  -- the names, and the first two rounds
  let bind := E.bindLoop base (Value.pairUp items)
  let m₀ := bind.after ((Eval.newScope scope "loop").after m)
  let first := E.evalBody base body
  let m₁ := first.after m₀
  let begun := (Eval.newScope base "loop" (Scopes.bindAll ["round"] (nextArgs first m₀))).after m₁
  let second := E.evalBody m₁.heap.scopes.next body
  obtain ⟨bound, again, again', free⟩ :
      (bind.outcome ((Eval.newScope scope "loop").after m)).toOption = some ["round"] ∧
      ((nextArgs? first m₀).isSome ∧ (nextArgs first m₀).length = 1) ∧
      ((nextArgs? second begun).isSome ∧ (nextArgs second begun).length = 1) ∧
      (m₁.heap.scopes.own? base "y").isSome = false := by decide +kernel
  have begins : E.Begins ["round"] body scope items m (nextArgs first m₀) m₁ :=
    ⟨Nat.mod_self 2, m₀, bindLoop_of_outcome bound, eq_again_of_isSome again.1⟩
  have rounds : E.Rounds base ["round"] body 1 (nextArgs first m₀) m₁ (nextArgs second begun)
      (second.after begun) :=
    .step again.2 (eq_again_of_isSome again'.1) (.refl _ _)
  obtain ⟨goesOn, isolates⟩ := (evalLoop_isolates ⟨{}, fun _ => none⟩ 30 steady.placed
    steady.session.there steady.session.there begins rounds (by decide) .native).1 again'.2
  refine ⟨_, _, _, _, begins, rounds, again'.2, goesOn, isolates.others (.simple "y") fun _ => ?_⟩
  exact ⟨by decide, by rw [Name.simple, free]; decide⟩

/-- A name that is bound privately in the first round of a loop is visible in the second, though not
where the loop stands. -/
theorem first_round_leaks :
    let E := ofFuel ⟨{}, fun _ => none⟩ 30
    let m := (Interpreter.start {} fun _ => none).machine
    let scope := m.session.scope
    let base := m.heap.scopes.next
    let items : List Value := [.sym "more", .bool true]
    let body : List Value :=
      [.list [.sym "cond", .sym "more", .list [.sym "define", .kw "private", .sym "y", .bool true]],
        .list [.sym "cond", .sym "more", .list [.sym "again", .nil], .kw "else", .sym "y"]]
    ∃ next m₁, E.Begins ["more"] body scope items m next m₁ ∧ next.length = 1 ∧
      let inside := (Eval.newScope base "loop" (Scopes.bindAll ["more"] next)).after m₁
      ¬ inside.Isolates m₁.heap.scopes.next scope ["more"] next fun _ => False := by
  intro E m scope base items body
  let bind := E.bindLoop base (Value.pairUp items)
  let m₀ := bind.after ((Eval.newScope scope "loop").after m)
  let first := E.evalBody base body
  let m₁ := first.after m₀
  let inside := (Eval.newScope base "loop" (Scopes.bindAll ["more"] (nextArgs first m₀))).after m₁
  obtain ⟨bound, again, visible, unbound⟩ :
      (bind.outcome ((Eval.newScope scope "loop").after m)).toOption = some ["more"] ∧
      ((nextArgs? first m₀).isSome ∧ (nextArgs first m₀).length = 1) ∧
      (inside.valueOf m₁.heap.scopes.next (.simple "y")).toOption.isSome = true ∧
      (inside.valueOf scope (.simple "y")).toOption.isSome = false := by decide +kernel
  have begins : E.Begins ["more"] body scope items m (nextArgs first m₀) m₁ :=
    ⟨Nat.mod_self 2, m₀, bindLoop_of_outcome bound, eq_again_of_isSome again.1⟩
  refine ⟨nextArgs first m₀, m₁, begins, again.2, fun isolates => ?_⟩
  have same := isolates.others (.simple "y") fun _ => ⟨by decide, id⟩
  rw [Machine.valueOf, same, ← Machine.valueOf, unbound] at visible
  cases visible

end Engine

end Lisp
