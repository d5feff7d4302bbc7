import Lisp.Proofs.Eval.Undivided

/-!
# Sessions keep to their representation

An interpreter makes vectors, maps and sets in the representation that it was started with. As long
as the forms and values that it is given are in that representation, so is everything that it
answers, raises or holds, with one exception: the pieces of a string that is split come in a native
vector. Maps and sets are never in another representation. Vectors are not either in a session in
which no string is split.

## Main definitions

* `Request.Meets` — requests that give nothing but what meets a standard
* `Interpreter.Unsplit` — requests that split no string
* `Interpreter.Within` — sessions whose requests meet a standard

## Main results

* `Standard.fits_start` — a new machine meets every standard
* `Interpreter.session_keeps_representation` — the answers and the machine of a session
* `Interpreter.split_is_native` — the exception
-/

namespace Lisp

namespace Standard

variable {σ : Standard}

/-! ### New machines -/

theorem meets_errorClasses : ∀ p ∈ Start.errorClasses, σ.Meets p.2 :=
  List.forall_mem_map.2 fun _ _ => meets_entity _

theorem meets_named {bs : List Builtin} : ∀ p ∈ bs.map Start.named, σ.Meets p.2 :=
  List.forall_mem_map.2 fun _ _ => meets_entity _

theorem meets_coreBindings : ∀ p ∈ Start.coreBindings, σ.Meets p.2 := by
  simp only [Start.coreBindings, List.forall_mem_append, ← List.map_map]
  refine ⟨⟨⟨?_, meets_errorClasses⟩, meets_named⟩, meets_named⟩
  simp [Start.surroundings]

theorem meets_hostBindings : ∀ p ∈ Start.hostBindings, σ.Meets p.2 := by
  simp only [Start.hostBindings, List.forall_mem_append]
  exact ⟨meets_errorClasses, by simp [Start.named]⟩

/-- What a frame binds. -/
def MeetsFrame (σ : Standard) (f : Frame) : Prop :=
  ∀ name b, f.bindings.get? name = some b → σ.MeetsBinding b

theorem meetsFrame_start {ps : List (String × Value)} (h : ∀ p ∈ ps, σ.Meets p.2)
    (ident : Option String) : σ.MeetsFrame { bindings := Start.bindings ps, ident } := by
  intro name b hb
  obtain ⟨p, hp, heq⟩ := List.mem_map.1 (Dict.mem_of_get?_ofPairs hb)
  cases heq
  exact meetsBinding_plain (h p hp)

theorem meetsAll_errorTypes (i : Nat) (t : TypeInfo) (ht : Start.errorTypes.get? i = some t) :
    σ.MeetsAll t.methods := by
  have all (cs : List ErrorClass) (ts : Forest TypeInfo)
      (hts : ∀ i t, ts.get? i = some t → σ.MeetsAll t.methods) :
      ∀ i t, (cs.foldl (fun ts c =>
        ts.push (if c = .error then none else some ErrorClass.error.ref.index)
          { name := .simple c.name, fields := ["message"] }) ts).get? i = some t →
        σ.MeetsAll t.methods := by
    induction cs generalizing ts with
    | nil => exact hts
    | cons c cs ih => exact ih _ (forall_get?_push hts _ meetsAll_empty)
  exact all ErrorClass.all {} (fun i t h => nomatch h) i t ht

theorem meetsFrame_scopes (o : Options) (i : Nat) (f : Frame)
    (hf : (Start.scopes o).get? i = some f) : σ.MeetsFrame f := by
  have none : ∀ i f, ({} : Scopes).get? i = some f → σ.MeetsFrame f := fun i f h => nomatch h
  have core := forall_get?_push none Option.none (meetsFrame_start meets_coreBindings Option.none)
  have session := forall_get?_push core (some globalScope.index)
    (x := { ident := some Start.coreName }) fun name b h => nomatch h
  exact forall_get?_push session Option.none
    (meetsFrame_start meets_hostBindings (some o.hostNamespace)) i f hf

/-- A session starts with names, numbers, texts and entities. -/
theorem covers_start (o : Options) : σ.Covers (Start.machine o).heap where
  scopes r name b hb := by
    change ((Start.scopes o).frame r).bindings.get? name = some b at hb
    unfold Scopes.frame at hb
    cases hf : (Start.scopes o).get? r.index with
    | none =>
      rw [hf] at hb
      cases hb
    | some f =>
      rw [hf] at hb
      exact meetsFrame_scopes o r.index f hf name b hb
  lambdas i l h := by simp [Start.machine] at h
  protocols i p h := by simp [Start.machine] at h
  types := by
    have host (name : String) (bs : List Builtin) : σ.MeetsAll (Start.hostType name bs).methods :=
      meetsAll_ofPairs meets_named
    exact forall_get?_push (forall_get?_push (forall_get?_push meetsAll_errorTypes _
      (host _ _)) _ (host _ _)) _ (host _ _)
  objects i o ho := by
    obtain rfl | rfl : o = _ ∨ o = _ := by
      simpa [Start.machine, Start.objects] using Array.mem_of_getElem? ho
    · exact meetsAll_ofPairs (by simp)
    · exact meetsAll_empty

theorem fits_start (o : Options) : σ.Fits (Start.machine o) :=
  ⟨covers_start o, fun _ he => nomatch he⟩

/-! ### Engines and requests -/

/-- The engine of a session. If vectors are covered, it stops before a string is split. -/
def engine [Tables] (σ : Standard) (s : Setting) (fuel : Nat) : Engine :=
  if σ.vectors then Undivided.engine s fuel else .ofFuel s fuel

theorem keeps_engine [Tables] {s : Setting} (hs : s.options.representation = σ.rep) (fuel : Nat) :
    (σ.engine s fuel).Keeps σ := by
  unfold engine
  cases covered : σ.vectors with
  | true => exact Undivided.keeps_engine hs fuel
  | false => exact Engine.keeps_ofFuel covered hs fuel

end Standard

/-- The forms and values that a request gives to an interpreter meet a standard. -/
def Request.Meets (σ : Standard) : Request → Prop
  | .text .. | .file _ => True
  | .form v | .formIn _ v => σ.Meets v
  | .call f args => σ.Meets f ∧ ∀ a ∈ args, σ.Meets a

theorem Request.ensures_act [Tables] {σ : Standard} {E : Engine} (hE : E.Keeps σ)
    {request : Request} (given : request.Meets σ) : σ.Ensures σ.Meets (request.act E) := by
  cases request with
  | text words source => exact Engine.ensures_evalText hE words source
  | form v => exact Engine.ensures_evalForm hE given
  | formIn scope v => exact Engine.ensures_evalFormIn hE scope given
  | file path => exact Engine.ensures_loadFile hE path
  | call f args => exact Engine.ensures_apply hE given.1 given.2

namespace Interpreter

variable {σ : Standard} {i : Interpreter}

/-- No string is split while a request is answered: the run that stops there comes to the same end
as the run that does not. -/
def Unsplit [Tables] (i : Interpreter) (fuel : Nat) (request : Request) : Prop :=
  request.act (Undivided.engine i.setting fuel) i.machine =
    request.act (.ofFuel i.setting fuel) i.machine

/-- A run that stops there and has not stopped has come to that end. -/
theorem unsplit_of_not_stops [Tables] {fuel : Nat} {request : Request}
    (h : ¬ (request.act (Undivided.engine i.setting fuel)).Stops i.machine) :
    i.Unsplit fuel request :=
  (Undivided.stops_or_same i.setting fuel request i.machine).resolve_left h

theorem outcome_run {α : Type} (i : Interpreter) (act : Eval α) :
    (i.run act).1 = act.outcome i.machine := by
  unfold run Eval.outcome
  cases act i.machine with
  | ok a m => rfl
  | error s m => rfl

/-- The answer to a request and the machine after it. -/
theorem meets_ask [Tables] (fits : σ.Fits i.machine) (hs : i.setting.options.representation = σ.rep)
    (fuel : Nat) {request : Request} (given : request.Meets σ)
    (unsplit : σ.vectors = true → i.Unsplit fuel request) :
    σ.Fits (i.ask fuel request).2.machine ∧
      σ.MeetsOutcome σ.Meets (i.ask fuel request).1 := by
  have kept := Request.ensures_act (Standard.keeps_engine hs fuel) given i.machine fits
  have same : request.act (σ.engine i.setting fuel) i.machine =
      request.act (.ofFuel i.setting fuel) i.machine := by
    unfold Standard.engine
    cases covered : σ.vectors with
    | true => exact unsplit covered
    | false => rfl
  unfold ask
  rw [machine_run, outcome_run, Eval.after, Eval.outcome, ← same]
  exact kept

/-- The interpreters that a host can have that asks for the representation of a standard, gives
nothing that does not meet it and, if vectors are covered, has no string split. -/
inductive Within [Tables] (σ : Standard) : Interpreter → Prop
  | start {options : Options} (hrep : options.representation = σ.rep) (files : Files) :
      Within σ (start options files)
  | ask {i : Interpreter} (h : i.Within σ) (fuel : Nat) {request : Request}
      (given : request.Meets σ) (unsplit : σ.vectors = true → i.Unsplit fuel request) :
      Within σ (i.ask fuel request).2
  | takeOutput {i : Interpreter} (h : i.Within σ) : Within σ i.takeOutput.2
  | files {i : Interpreter} (h : i.Within σ) (files : Files) :
      Within σ { i with setting.files := files }

/-- A session keeps the representation it was started with. -/
theorem Within.rep [Tables] (h : i.Within σ) : i.setting.options.representation = σ.rep := by
  induction h with
  | start hrep files => exact hrep
  | ask _ fuel _ _ ih =>
    rw [setting_ask]
    exact ih
  | takeOutput _ ih => exact ih
  | files _ files ih => exact ih

/-- In such a session every machine meets the standard. -/
theorem Within.fits [Tables] (h : i.Within σ) : σ.Fits i.machine := by
  induction h with
  | start _ files => exact Standard.fits_start _
  | ask h fuel given unsplit ih => exact (meets_ask ih h.rep fuel given unsplit).1
  | takeOutput _ ih => exact ⟨ih.heap, ih.locals⟩
  | files _ files ih => exact ih

/-- In a session that was started with a representation and is given only what is in it, everything
is in that representation: what a request answers or raises, what the machine holds afterwards, and
so for every form that is evaluated and every value that is called on the way. This holds of maps
and sets at any rate, and of vectors as long as no string is split. -/
theorem session_keeps_representation [Tables] (h : i.Within σ) (fuel : Nat) {request : Request}
    (given : request.Meets σ) (unsplit : σ.vectors = true → i.Unsplit fuel request) :
    σ.MeetsOutcome σ.Meets (i.ask fuel request).1 ∧
      (∀ v, (i.ask fuel request).2.machine.Holds v → σ.Meets v) ∧
      ∀ n, (σ.engine i.setting n).Keeps σ := by
  obtain ⟨fits, answer⟩ := meets_ask h.fits h.rep fuel given unsplit
  exact ⟨answer, Standard.fits_iff.1 fits, Standard.keeps_engine h.rep⟩

/-- A map is thrown that was made of arguments, among them one that was read as JSON. -/
theorem session_keeps_representation_thrown :
    let σ : Standard := { rep := .persistent }
    let i := start { representation := .persistent } fun _ => none
    let j := (i.ask 30
      (.text "(define f (lambda [x & r] \x7b:x [x] :r (conj #\x7b\x7d r)\x7d))" "a")).2
    let request := Request.text
      "(define m (read-json \"\x7b\\\"a\\\": [1]\x7d\")) (throw (f m [2]))" "b"
    j.Within σ ∧ request.Meets σ ∧ j.Unsplit 30 request ∧
      σ.MeetsOutcome σ.Meets (j.ask 30 request).1 ∧
      (∀ v, (j.ask 30 request).2.machine.Holds v → σ.Meets v) ∧
      ∀ n, (σ.engine j.setting n).Keeps σ := by
  intro σ i j request
  have hi : i.Within σ := .start rfl _
  have hj : j.Within σ := hi.ask 30 trivial fun _ => unsplit_of_not_stops (by decide +kernel)
  have unsplit : j.Unsplit 30 request := unsplit_of_not_stops (by decide +kernel)
  exact ⟨hj, trivial, unsplit, session_keeps_representation hj 30 trivial fun _ => unsplit⟩

/-- The representation of a vector. -/
def vectorRep? : Value → Option Representation
  | .vector r _ => some r
  | _ => none

theorem exists_of_vectorRep? {o : Except Signal Value} {r : Representation}
    (h : o.toOption.bind vectorRep? = some r) : ∃ items, o = .ok (.vector r items) := by
  cases o with
  | error s => cases h
  | ok v =>
    cases v with
    | vector s items =>
      obtain rfl : s = r := Option.some.inj h
      exact ⟨items, rfl⟩
    | _ => cases h

/-- The pieces of a string come in a native vector, also if another representation was asked for. -/
theorem split_is_native :
    let σ : Standard := { rep := .persistent }
    let i := start { representation := .persistent } fun _ => none
    let request := Request.text "(. \"a b\" split \" \")" "t"
    i.Within σ ∧ request.Meets σ ∧ ∃ items,
      (i.ask 20 request).1 = .ok (.vector .native items) ∧ ¬ σ.Meets (.vector .native items) := by
  intro σ i request
  have native : (i.ask 20 request).1.toOption.bind vectorRep? = some .native := by decide +kernel
  obtain ⟨items, answer⟩ := exists_of_vectorRep? native
  refine ⟨.start rfl _, trivial, items, answer, fun meets => ?_⟩
  exact absurd ((Standard.meets_vector.1 meets).1 rfl) (by decide)

end Interpreter

end Lisp
