import Lisp.Proofs.Eval.Installation
import Lisp.Proofs.Interpreter.Growth
import Mathlib.Tactic.IntervalCases

/-!
# The method installed last counts

Whatever a session has been asked, there is a list of the installations that have been made in it,
beginning with the methods of the host's types. This list tells what every type answers. The last
method of a name that a type has got is its method of that name; a type that has got none leaves the
answer to its parent, as that answers now. The list also tells which protocols a type has, in order
and with repetitions. And it grows by what a program does: by one entry when a protocol is called,
and by one for each part of the body of a type.

## Main definitions

* `Start.installations` — what the host's types have from the start
* `Heap.History` — the installations made in a session
* `Heap.Accounts` — what types answer, as the installations tell

## Main results

* `Interpreter.Reachable.history` — every session has its history
* `Heap.History.accounts` — the history tells what types answer
* `Interpreter.last_installed_wins` — both, in the middle of any evaluation
-/

namespace Lisp

/-! ### The start of a session -/

/-- What the types of the host have from the start, one method at a time. -/
def Start.installations : List Installation :=
  MathFunction.all.map (fun f => .method mathType (named (.math f)).1 (named (.math f)).2) ++
    [.method consoleType (named .consoleLog).1 (named .consoleLog).2]

namespace Heap

variable {options : Options} {h h' : Heap} {done more : List Installation}

/-- The installations made in a session up to some heap, the last at the end. -/
def History (options : Options) (done : List Installation) (h : Heap) : Prop :=
  ∃ later, done = Start.installations ++ later ∧ (Start.machine options).heap.Becomes later h

theorem History.becomes (history : h.History options done) (becomes : h.Becomes more h') :
    h'.History options (done ++ more) := by
  obtain ⟨later, rfl, before⟩ := history
  exact ⟨later ++ more, List.append_assoc .., before.trans becomes⟩

theorem target_of_mem_installations :
    ∀ e ∈ Start.installations, e.target.index < Start.types.size := by decide

theorem mixins_of_mem_installations : ∀ e ∈ Start.installations, e.mixins = [] := by
  have bare : ∀ e ∈ Start.installations, e.mixins.isEmpty = true := by decide
  exact fun e he => List.isEmpty_iff.1 (bare e he)

/-- The types of a new session have the methods that count as installed on them, and no
protocols. -/
theorem type_start (options : Options) (t : TypeRef) :
    ((Start.machine options).heap.type t).methods = .ofPairs (installed Start.installations t) ∧
      ((Start.machine options).heap.type t).mixins = [] := by
  by_cases there : t.index < Start.types.size
  · -- the types of the host are gone through one by one
    have types : ∀ i < Start.types.size,
        ((Start.types.get? i).getD default).methods = .ofPairs (installed Start.installations ⟨i⟩) ∧
          ((Start.types.get? i).getD default).mixins = [] := by
      intro i hi
      have hi : i < 12 := hi
      interval_cases i <;> exact ⟨rfl, rfl⟩
    exact types t.index there
  · -- what is no type of the host has nothing, and nothing was installed on it
    have none : Start.types.get? t.index = none := Forest.get?_eq_none_iff.2 (Nat.not_lt.1 there)
    have missing : (Start.machine options).heap.type t = default := by
      show (Start.types.get? t.index).getD default = default
      rw [none]
      rfl
    have nothing : installed Start.installations t = [] := by
      rw [installed, List.flatMap_eq_nil_iff]
      intro e he
      obtain ⟨mem, target⟩ := List.mem_filter.1 he
      have := target_of_mem_installations e mem
      rw [of_decide_eq_true target] at this
      exact absurd this there
    rw [missing, nothing]
    exact ⟨rfl, rfl⟩

theorem own?_start (options : Options) (t : TypeRef) (name : String) :
    (Start.machine options).heap.own? t name =
      (installed Start.installations t).reverse.lookup name := by
  rw [own?, (type_start options t).1]
  exact (Dict.get?_foldl_insert {} _ name).trans (Option.or_none ..)

theorem mixedIn_start (t : TypeRef) : mixedIn Start.installations t = [] := by
  rw [mixedIn, List.flatMap_eq_nil_iff]
  intro e he
  exact mixins_of_mem_installations e (List.mem_filter.1 he).1

namespace History

theorem installed_append (done more : List Installation) (t : TypeRef) :
    installed (done ++ more) t = installed done t ++ installed more t := by
  simp [installed]

/-- The methods that a type itself has are the last ones that it has got. -/
theorem own?_eq (history : h.History options done) (t : TypeRef) (name : String) :
    h.own? t name = (installed done t).reverse.lookup name := by
  obtain ⟨later, rfl, becomes⟩ := history
  rw [becomes.own?_eq, own?_start, installed_append, List.reverse_append, List.lookup_append]

theorem mixins_eq (history : h.History options done) (t : TypeRef) :
    (h.type t).mixins = mixedIn done t := by
  obtain ⟨later, rfl, becomes⟩ := history
  have append : mixedIn (Start.installations ++ later) t =
      mixedIn Start.installations t ++ mixedIn later t := by simp [mixedIn]
  rw [becomes.mixins_eq, (type_start options t).2, append, mixedIn_start]

end History

/-- What types answer to the name of a method, and which protocols they have, as a list of
installations tells. -/
structure Accounts (h : Heap) (done : List Installation) : Prop where
  /-- The method installed last under a name is the one that a type has. -/
  latest : ∀ t name f, Latest (installed done t) name f → h.method? t name = some f
  /-- A type on which none was installed leaves the answer to its parent, as that answers now. -/
  inherited : ∀ t name, (∀ e ∈ installed done t, e.1 ≠ name) →
    h.method? t name = (h.parentType? t).bind (h.method? · name)
  /-- The protocols of a type, in order and with repetitions. -/
  mixins : ∀ t, (h.type t).mixins = mixedIn done t
  /-- An installation changes the answer of another type only if this descends from the type that
  gets something, and has got no method of that name itself. -/
  elsewhere : ∀ e t name, t ≠ e.target → (h.put e).method? t name ≠ h.method? t name →
    h.isSubtype t e.target ∧ ∀ x ∈ installed done t, x.1 ≠ name

theorem History.accounts (history : h.History options done) : h.Accounts done where
  latest t name f latest := by
    rw [method?_eq, history.own?_eq, latest.lookup, Option.some_or]
  inherited t name missing := by
    have none : (installed done t).reverse.lookup name = none :=
      Dict.lookup_eq_none_of_ne fun e he => missing e (List.mem_reverse.1 he)
    rw [method?_eq, history.own?_eq, none, Option.none_or]
  mixins := history.mixins_eq
  elsewhere e t name other changed := by
    obtain ⟨descends, unanswered⟩ := of_method?_put_ne changed other
    rw [history.own?_eq, List.lookup_eq_none_iff] at unanswered
    refine ⟨descends, fun x hx same => ?_⟩
    exact absurd same.symm (by simpa using unanswered x (List.mem_reverse.2 hx))

end Heap

namespace Interpreter

/-- Every session has its history. -/
theorem Reachable.history [Tables] {i : Interpreter} (h : i.Reachable) :
    ∃ done, i.machine.heap.History i.setting.options done := by
  induction h with
  | start options files => exact ⟨_, [], (List.append_nil _).symm, .start⟩
  | @ask i _ fuel request ih =>
    obtain ⟨done, history⟩ := ih
    obtain ⟨more, becomes⟩ := (evolves_ask i fuel request).becomes
    rw [setting_ask]
    exact ⟨done ++ more, history.becomes becomes⟩
  | takeOutput _ ih => exact ih
  | files _ files ih => exact ih

/-- Every moment of an evaluation has its history. -/
theorem Reachable.history_of_evolves [Tables] {i : Interpreter} (h : i.Reachable) {m : Machine}
    (evolves : i.machine.Evolves m) : ∃ done, m.heap.History i.setting.options done := by
  obtain ⟨done, history⟩ := h.history
  obtain ⟨more, becomes⟩ := evolves.becomes
  exact ⟨done ++ more, history.becomes becomes⟩

/-- The method installed last counts, at any moment of any evaluation that a session is asked for.
The moment has its history; whatever history it has tells what types answer; a protocol that is
called then adds itself to the history, on the type or the type of the object that it is called
with; and a type that is defined then adds what its body says, in order. -/
theorem last_installed_wins [Tables] {i : Interpreter} (h : i.Reachable) {m : Machine}
    (evolves : i.machine.Evolves m) :
    (∃ done, m.heap.History i.setting.options done) ∧
    ∀ done, m.heap.History i.setting.options done →
      m.heap.Accounts done ∧
      (∀ p target v m', Eval.applyMixin p [target] m = .ok v m' →
        ∃ t, m.heap.classOf? target = some t ∧ ((m.heap.types.get? t.index).isSome →
          m'.heap.History i.setting.options (done ++ [.protocol t p (m.heap.protocol p)]))) ∧
      (∀ fuel scope target fields specs v m',
        (Engine.ofFuel i.setting fuel).evalDefineType scope (target :: fields :: specs) m =
          .ok v m' →
        ∃ (begun : Machine) (new : List Installation),
          begun.heap.History i.setting.options done ∧
          List.Forall₂ (begun.Specifies scope ⟨m.heap.types.size⟩) specs new ∧
          m'.heap.History i.setting.options (done ++ new)) := by
  refine ⟨h.history_of_evolves evolves, fun done history => ⟨history.accounts, ?_, ?_⟩⟩
  · -- a call adds one entry
    intro p target v m' run
    obtain ⟨-, t, class_, heap⟩ := Eval.applyMixin_becomes run
    refine ⟨t, class_, fun there => history.becomes ?_⟩
    rw [heap]
    exact .put .start ⟨there, by rintro _ _ _ ⟨⟩; rfl⟩
  · -- a definition adds one for each part of its body
    intro fuel scope target fields specs v m' run
    obtain ⟨begun, new, before, specified, becomes⟩ :=
      Engine.evalDefineType_becomes (Engine.readsSymbols_ofFuel i.setting fuel scope) run
    have history₁ : begun.heap.History i.setting.options done := by
      simpa using history.becomes before
    exact ⟨begun, new, history₁, specified, history₁.becomes becomes⟩

/-- A type with a method of its own and a protocol in its body gets a second protocol through an
instance, and the first one once more. -/
theorem last_installed_wins_repeated :
    let i := ((start {} fun _ => none).ask 40 (.text ("(define-protocol A (m [self] 1))" ++
      "(define-type T [] (m [self] 0) A) (define-protocol B (m [self] 2)) (B (new T)) (A T)")
      "t")).2
    i.Reachable ∧ i.machine.Evolves i.machine ∧
      ∃ done, i.machine.heap.History i.setting.options done ∧ i.machine.heap.Accounts done ∧
        mixedIn done ⟨12⟩ = [.simple "A", .simple "B", .simple "A"] := by
  intro i
  have reachable : i.Reachable := (Reachable.start {} fun _ => none).ask 40 _
  obtain ⟨⟨done, history⟩, told⟩ := last_installed_wins reachable .refl
  have accounts : i.machine.heap.Accounts done := (told done history).1
  have mixins : (i.machine.heap.type ⟨12⟩).mixins = [.simple "A", .simple "B", .simple "A"] := by
    decide +kernel
  exact ⟨reachable, .refl, done, history, accounts, (accounts.mixins ⟨12⟩).symm.trans mixins⟩

end Interpreter

end Lisp
