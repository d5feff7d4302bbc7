import Lisp.Proofs.Reader.Step

/-!
# When to wait for more lines

An interactive reader gathers lines as long as the text so far merely ended too early. At the end of
a line this test is exact. A fault of any other kind has been met before the end, so nothing that
follows can mend it; a text that ended too early can be completed, unless it ended in a regular
expression, whose pattern may be beyond repair.

## Main definitions

* `Reader.Token.isEarlyEnd` — a failure that more text could mend

## Main results

* `Reader.State.isEarlyEnd_run` — no failure on the way is one
* `Reader.State.token_after_newline` — what can be going on at the end of a line
* `Reader.State.exists_completion` — brackets and quote marks that wait can always be satisfied
* `Reader.incompleteness_exact` — the test is exact
-/

namespace Lisp.Reader

/-- Whether a token is a failure that more text could mend. -/
def Token.isEarlyEnd : Token → Bool
  | .failed f => f.defect.isIncomplete
  | _ => false

namespace State

variable {rep : Representation} {s : State} {c : Char}

/-! ### No failure on the way is an early end -/

theorem isEarlyEnd_finish (v : Value) : (s.finish v).token.isEarlyEnd = false := by
  simp [Token.isEarlyEnd]

theorem isEarlyEnd_closing [Tables] (h : s.token.isEarlyEnd = false) :
    (s.closing rep c).token.isEarlyEnd = false := by
  have closes := closes_closing rep s c
  generalize s.closing rep c = s' at closes
  cases closes with
  | stray => exact h
  | group => exact isEarlyEnd_finish _
  | quote | oddMap => rfl

theorem isEarlyEnd_fresh [Tables] (h : s.token.isEarlyEnd = false) :
    (s.fresh rep c).token.isEarlyEnd = false := by
  have starts := starts_fresh rep s c
  generalize s.fresh rep c = s' at starts
  cases starts with
  | separator => exact h
  | closing => exact isEarlyEnd_closing h
  | _ => rfl

theorem isEarlyEnd_take [Tables] (h : s.token.isEarlyEnd = false) :
    (s.take rep c).token.isEarlyEnd = false := by
  have takes := takes_take rep s c
  generalize s.take rep c = s' at takes
  cases takes with
  | passes => exact h
  | fresh => exact isEarlyEnd_fresh h
  | completes => exact isEarlyEnd_finish _
  | ends => exact isEarlyEnd_fresh (isEarlyEnd_finish _)
  | opensSet => rfl
  | becomes change =>
    generalize s.token = t at change
    cases change <;> rfl
  | endsBadly bad =>
    generalize s.token = t at bad
    cases bad <;> rfl
  | refuses refusal =>
    generalize s.token = t at refusal
    cases refusal <;> rfl

theorem isEarlyEnd_run [Tables] (h : s.token.isEarlyEnd = false) (cs : List Char) :
    (s.run rep cs).token.isEarlyEnd = false := by
  induction cs generalizing s with
  | nil => exact h
  | cons c cs ih => exact ih (isEarlyEnd_take h)

/-! ### The end of a line -/

/-- What can be going on at the end of a line: nothing, a string, a regular expression, or reading
has failed. -/
theorem token_after_newline [Tables] (rep : Representation) (s : State) :
    (s.step rep '\n').IsEnded ∨ (∃ chars, (s.step rep '\n').token = .string chars) ∨
    ∃ chars, (s.step rep '\n').token = .regex chars := by
  cases ht : s.token with
  | comment => exact .inl (.inl (by simp [step, take, ht]))
  | string chars => exact .inr (.inl ⟨'\n' :: chars, by simp [step, take, ht]⟩)
  -- a backslash before a newline stands for the newline
  | escape chars => exact .inr (.inl ⟨'\n' :: chars, by simp [step, take, ht, escaped]⟩)
  | unicode chars digits =>
    -- four hexadecimal digits must follow, and a newline is none
    have hhex : isHexDigit '\n' = false := by decide
    exact .inl (.inr ⟨_, by simp [step, take, ht, inUnicode, hhex, fail]; rfl⟩)
  | regex chars => exact .inr (.inr ⟨'\n' :: chars, by simp [step, take, ht]⟩)
  | regexEscape chars =>
    exact .inr (.inr ⟨'\n' :: '\\' :: chars, by simp [step, take, ht]⟩)
  | none | sign _ | number _ _ _ | symbol _ | colon | keyword _ _ | hash _ | failed _ =>
    have hends : s.token.endsAtBlank = true := by simp [ht, Token.endsAtBlank]
    left
    simpa only [step, take_blank hends newline_isBlank, IsEnded] using isEnded_endToken hends

/-! ### Completing what waits for more -/

theorem length_deliver_le (pending : List Pending) (forms : List Value) (v : Value) :
    (deliver (pending, forms) v).1.length ≤ pending.length := by
  induction pending generalizing v with
  | nil => simp
  | cons p rest ih =>
    cases p with
    | group d items => simp
    | quote =>
      rw [deliver_quote]
      exact Nat.le_trans (ih _) (Nat.le_succ _)

/-- An empty list is a form for whatever waits for one. -/
theorem run_emptyList [Tables] (rep : Representation) (h : s.token = .none) :
    (s.run rep ['(', ')']).token = .none ∧
      (s.run rep ['(', ')']).view = deliver s.view (.list []) := by
  obtain ⟨htoken, hview⟩ := run_opening rep .list h
  exact view_step_close rep htoken hview (by simp [Delimiter.Fits])

/-- Whatever waits for more can be satisfied. The proof goes by how much waits: a quote mark takes
an empty list, an open form takes its closing bracket, after an empty list if a key of a map lacks
its value. -/
theorem exists_completion [Tables] (rep : Representation) (h : s.token = .none) :
    ∃ cs, (s.run rep cs).token = .none ∧ (s.run rep cs).pending = [] := by
  induction hn : s.pending.length using Nat.strongRecOn generalizing s with
  | ind n ih =>
    -- it is enough to find characters after which less waits
    have finishWith : ∀ cs, (s.run rep cs).token = .none → (s.run rep cs).pending.length < n →
        ∃ cs, (s.run rep cs).token = .none ∧ (s.run rep cs).pending = [] := by
      intro cs htoken hlength
      obtain ⟨ds, hds⟩ := ih _ hlength htoken rfl
      exact ⟨cs ++ ds, by simpa using hds⟩
    cases hp : s.pending with
    | nil => exact ⟨[], h, hp⟩
    | cons p rest =>
      obtain ⟨htoken, hview⟩ := run_emptyList rep h
      rw [show s.view = (p :: rest, s.forms.map (·.form)) by simp [view, hp]] at hview
      have hlength : n = rest.length + 1 := by simp [← hn, hp]
      cases p with
      | quote =>
        refine finishWith ['(', ')'] htoken ?_
        have hle := length_deliver_le rest (s.forms.map (·.form)) (.quoted (.list []))
        rw [← deliver_quote, ← hview] at hle
        exact Nat.lt_of_le_of_lt hle (by omega)
      | group d items =>
        by_cases fits : d.Fits items.length
        · refine finishWith [d.close] ?_ ?_
          · simp [step_close h hp fits]
          · have hview : s.view = (.group d items :: rest, s.forms.map (·.form)) := by
              simp [view, hp]
            have hclose := (view_step_close rep h hview fits).2
            have hle := length_deliver_le rest (s.forms.map (·.form))
              (groupValue rep d items.reverse)
            rw [← hclose] at hle
            exact Nat.lt_of_le_of_lt hle (by omega)
        · -- only a map can be at odds with its items
          have fits' : d.Fits (.list [] :: items : List Value).length := by
            intro hd
            have hodd : ¬ items.length % 2 = 0 := fun h => fits fun _ => h
            simp only [List.length_cons]
            omega
          rw [deliver_group] at hview
          have hclose := view_step_close rep htoken hview fits'
          refine finishWith (['(', ')'] ++ [d.close]) (by simpa using hclose.1) ?_
          have hle := length_deliver_le rest (s.forms.map (·.form))
            (groupValue rep d (.list [] :: items).reverse)
          rw [← hclose.2] at hle
          exact Nat.lt_of_le_of_lt hle (by omega)

end State

open State

/-- Between forms, only what waits for more can be at fault at the end of a text. -/
theorem isIncomplete_of_none {s : State} {f : Fault} {p : Text.Position} (h : s.token = .none)
    (hf : s.outcome.fault = some (f, p)) : f.defect.isIncomplete = true := by
  cases hp : s.pending with
  | nil => simp [outcome, endToken, fault?, h, hp] at hf
  | cons q rest =>
    cases q <;> simp [outcome, endToken, fault?, h, hp] at hf <;> simp [← hf.1, Defect.isIncomplete]

theorem fault_outcome_of_string {s : State} {chars : List Char} (h : s.token = .string chars) :
    s.outcome.fault = some (⟨.unterminatedString, s.position⟩, s.start) := by
  simp [outcome, endToken, fault?, fail, h]

theorem fault_outcome_of_regex {s : State} {chars : List Char} (h : s.token = .regex chars) :
    s.outcome.fault = some (⟨.unterminatedRegex, s.position⟩, s.start) := by
  simp [outcome, endToken, fault?, fail, h]

/-- The test for incomplete input is exact at the end of a line. A fault that it takes for final
comes out of every longer text, at the same place; and every text that it takes for incomplete has a
continuation that can be read, unless it ends within a regular expression. -/
theorem incompleteness_exact [Tables] (rep : Representation) (line : String) (f : Fault)
    (h : read rep (line ++ "\n") = .error f) :
    (f.defect.isIncomplete = false → ∀ more, read rep (line ++ "\n" ++ more) = .error f) ∧
      (f.defect.isIncomplete = true → f.defect ≠ .unterminatedRegex →
        ∃ more forms, read rep (line ++ "\n" ++ more) = .ok forms) := by
  obtain ⟨p, hp⟩ := read_eq_error_iff.1 h
  -- the state at the end of the line, from which every longer text goes on
  let s : State := (State.run rep {} line.toList).step rep '\n'
  have hread : ∀ more : String,
      readAll rep (line ++ "\n" ++ more) = (s.run rep more.toList).outcome := by
    intro more
    simp [readAll, readChars_eq, s]
  have hs : (readAll rep (line ++ "\n")) = s.outcome := by
    simpa using hread ""
  rw [hs] at hp
  -- faults of the end of the text are found there and never before
  have early : s.token.isEarlyEnd = false :=
    isEarlyEnd_take (isEarlyEnd_run (s := {}) rfl _)
  have complete : ∀ cs, (s.run rep cs).token = .none →
      ∃ more forms, read rep (line ++ "\n" ++ more) = .ok forms := by
    intro cs htoken
    obtain ⟨ds, htoken', hpending⟩ := exists_completion rep htoken
    refine ⟨String.ofList (cs ++ ds), _, read_of_fault_eq_none ?_⟩
    rw [hread]
    simp [outcome, endToken, fault?, htoken', hpending]
  rcases token_after_newline rep (State.run rep {} line.toList) with
    (hnone | ⟨f', hfailed⟩) | ⟨chars, hstring⟩ | ⟨chars, hregex⟩
  · have hincomplete := isIncomplete_of_none hnone hp
    refine ⟨fun hfinal => ?_, fun _ _ => complete [] hnone⟩
    simp [hincomplete] at hfinal
  · -- a fault that has been found stays, whatever follows
    rw [fault_outcome_of_failed hfailed] at hp
    obtain ⟨rfl, rfl⟩ := Prod.mk.inj (Option.some.inj hp)
    refine ⟨fun _ more => read_eq_error_iff.2 ⟨s.start, ?_⟩, fun hincomplete => ?_⟩
    · rw [hread, run_of_failed hfailed]
      exact fault_outcome_of_failed hfailed
    · have : s.token.isEarlyEnd = f'.defect.isIncomplete := by rw [hfailed, Token.isEarlyEnd]
      simp [← this, early] at hincomplete
  · rw [fault_outcome_of_string hstring] at hp
    obtain ⟨rfl, -⟩ := Prod.mk.inj (Option.some.inj hp)
    refine ⟨fun hfinal => by simp [Defect.isIncomplete] at hfinal, fun _ _ => complete ['"'] ?_⟩
    have htoken : s.token = .string chars := hstring
    simp [step, take, htoken]
  · rw [fault_outcome_of_regex hregex] at hp
    obtain ⟨rfl, -⟩ := Prod.mk.inj (Option.some.inj hp)
    exact ⟨fun hfinal => by simp [Defect.isIncomplete] at hfinal, fun _ hne => absurd rfl hne⟩

/-- A map whose last value is still behind its quote mark waits, and can be completed. -/
theorem incompleteness_exact_quotedValue :
    read .native ("\x7b:a '" ++ "\n") = .error ⟨.endOfInput, ⟨2, 0⟩⟩ ∧
      ∃ more forms, read .native ("\x7b:a '" ++ "\n" ++ more) = .ok forms := by
  have h : read .native ("\x7b:a '" ++ "\n") = .error ⟨.endOfInput, ⟨2, 0⟩⟩ := by rfl
  exact ⟨h, (incompleteness_exact .native _ _ h).2 rfl (by simp)⟩

end Lisp.Reader
