import Lisp.Proofs.Reader.Location
import Lisp.Proofs.Reader.RoundTrip
import Lisp.Proofs.Reader.Spelling

/-!
# The text of a regular expression

In the text of a regular expression a quote stands behind a backslash, and the reader removes this
backslash and no other. The printer writes the pattern as it is, without putting any back. So the
text of a pattern without quotes is read as the same pattern, whatever backslashes are in it, while
the first quote of any other pattern ends its text too early. A backslash before every quote would
always do.

## Main definitions

* `Reader.escapeQuotes` — a pattern with a backslash before every quote

## Main results

* `Reader.State.forms_suffix_run` — forms that have been read stay
* `Reader.delivers_regex` — a pattern is read from its text with escaped quotes
* `Reader.regex_reads_back_iff` — the printed text is read as the same pattern if there is no quote
-/

namespace Lisp.Reader

open Text (Position)

/-- A pattern with a backslash before every quote. -/
def escapeQuotes (cs : List Char) : List Char :=
  cs.flatMap fun c => if c = '"' then ['\\', '"'] else [c]

theorem escapeQuotes_append (cs ds : List Char) :
    escapeQuotes (cs ++ ds) = escapeQuotes cs ++ escapeQuotes ds := List.flatMap_append

theorem escapeQuotes_of_not_mem {cs : List Char} (h : '"' ∉ cs) : escapeQuotes cs = cs := by
  induction cs with
  | nil => rfl
  | cons c cs ih =>
    simp only [List.mem_cons, not_or] at h
    have hc : c ≠ '"' := Ne.symm h.1
    calc escapeQuotes (c :: cs) = [c] ++ escapeQuotes cs := by simp [escapeQuotes, hc]
      _ = c :: cs := by rw [ih h.2]; rfl

/-- The first quote of a pattern stands behind a pattern. -/
theorem IsPattern.exists_quote {cs : List Char} (h : IsPattern cs) (hquote : '"' ∈ cs) :
    ∃ before after, IsPattern before ∧ '"' ∉ before ∧ cs = before ++ '"' :: after := by
  induction h with
  | nil => simp at hquote
  | @cons unit cs head tail ih =>
    by_cases hunit : '"' ∈ unit
    · cases head with
      | quote => exact ⟨[], cs, .nil, by simp, rfl⟩
      | plain hc => exact absurd (List.mem_singleton.1 hunit).symm hc
      | escape hc => exact absurd hunit (by simp [hc.symm])
    · have htail : '"' ∈ cs := (List.mem_append.1 hquote).resolve_left hunit
      obtain ⟨before, after, hbefore, hnone, rfl⟩ := ih htail
      refine ⟨unit ++ before, after, .cons head hbefore, ?_, by simp⟩
      simpa using ⟨hunit, hnone⟩

namespace State

variable {rep : Representation} {s t : State} {c : Char}

/-! ### Forms that have been read stay -/

theorem Course.forms_suffix (h : s.Course t) : s.forms <:+ t.forms := by
  cases h with
  | goesOn forms => exact forms ▸ List.suffix_refl _
  | ends v forms => exact forms ▸ List.suffix_cons _ _

theorem forms_suffix_step [Tables] (rep : Representation) (s : State) (c : Char) :
    s.forms <:+ (s.step rep c).forms := by
  have hstep : (s.step rep c).forms = (s.take rep c).forms := rfl
  rw [hstep]
  rcases course_take rep s c with course | ⟨m, course, -, hpending, -, hc, htake⟩
  · exact course.forms_suffix
  · rw [htake, (fresh_of_begins rep hpending hc).1]
    exact course.forms_suffix

theorem forms_suffix_run [Tables] (rep : Representation) (s : State) (cs : List Char) :
    s.forms <:+ (s.run rep cs).forms := by
  induction cs generalizing s with
  | nil => exact List.suffix_refl _
  | cons c cs ih => exact (forms_suffix_step rep s c).trans (ih _)

/-! ### Reading a pattern -/

theorem run_regex_start [Tables] (rep : Representation) (h : s.token = .none) :
    (s.run rep ['#', '"']).token = .regex [] ∧ (s.run rep ['#', '"']).view = s.view := by
  obtain ⟨htoken, hview⟩ : (s.step rep '#').token = .hash s.position ∧
      (s.step rep '#').view = s.view := step_of_begin h rfl
  have htake : (s.step rep '#').take rep '"' = { s.step rep '#' with token := .regex [] } := by
    simp [take, htoken]
  obtain ⟨htoken', hview'⟩ := step_of_take htake
  exact ⟨htoken', hview'.trans hview⟩

/-- One unit of a pattern, with its quote escaped, goes to the pattern. -/
theorem run_unit [Tables] (rep : Representation) {chars unit : List Char}
    (h : s.token = .regex chars)
    (hunit : IsUnit unit) :
    (s.run rep (escapeQuotes unit)).token = .regex (unit.reverse ++ chars) ∧
      (s.run rep (escapeQuotes unit)).view = s.view := by
  have hslash : s.take rep '\\' = { s with token := .regexEscape chars } := by
    simp [take, h]
  obtain ⟨htoken, hview⟩ := step_of_take hslash
  -- the character behind a backslash decides whether this stays
  have behind (d : Char) : (s.step rep '\\').take rep d = { s.step rep '\\' with
      token := .regex (if d = '"' then d :: chars else d :: '\\' :: chars) } := by
    simp [take, htoken]
  cases hunit with
  | quote =>
    obtain ⟨htoken', hview'⟩ := step_of_take (behind '"')
    exact ⟨htoken', hview'.trans hview⟩
  | @plain c hquote hother =>
    have hc : s.take rep c = { s with token := .regex (c :: chars) } := by
      simp [take, h, hquote, hother]
    simpa [escapeQuotes, hquote] using step_of_take hc
  | @escape c hquote =>
    obtain ⟨htoken', hview'⟩ := step_of_take (behind c)
    rw [if_neg hquote] at htoken'
    simpa [escapeQuotes, hquote] using And.intro htoken' (hview'.trans hview)

theorem run_pattern [Tables] (rep : Representation) {chars cs : List Char}
    (h : s.token = .regex chars)
    (hcs : IsPattern cs) :
    (s.run rep (escapeQuotes cs)).token = .regex (cs.reverse ++ chars) ∧
      (s.run rep (escapeQuotes cs)).view = s.view := by
  induction hcs generalizing s chars with
  | nil => exact ⟨h, rfl⟩
  | cons head _ ih =>
    obtain ⟨htoken, hview⟩ := run_unit rep h head
    obtain ⟨htoken', hview'⟩ := ih htoken
    rw [escapeQuotes_append, run_append]
    exact ⟨by simpa using htoken', hview'.trans hview⟩

/-- The state behind the opening quote of a regular expression and a pattern. -/
theorem run_open_pattern [Tables] (rep : Representation) {cs : List Char} (h : s.token = .none)
    (hcs : IsPattern cs) :
    (s.run rep ('#' :: '"' :: escapeQuotes cs)).token = .regex cs.reverse ∧
      (s.run rep ('#' :: '"' :: escapeQuotes cs)).view = s.view := by
  obtain ⟨htoken, hview⟩ := run_regex_start rep h
  obtain ⟨htoken', hview'⟩ := run_pattern rep htoken hcs
  exact ⟨by simpa using htoken', hview'.trans hview⟩

/-- A quote closes a regular expression whose pattern compiles. -/
theorem step_quote [Tables] (rep : Representation) {chars : List Char} {program : Regex.Pattern}
    (h : s.token = .regex chars)
    (hparse : Regex.parse (String.ofList chars.reverse) = .ok program) :
    s.step rep '"' = { s.finish (.regex (String.ofList chars.reverse)) with
      position := s.position.advance '"' } := by
  simp [step, take, h, finishRegex, hparse]

end State

/-! ### The printed text -/

variable {rep : Representation} {pattern : String}

/-- The text of a regular expression in which all quotes are escaped delivers it. -/
theorem delivers_regex [Tables] {program : Regex.Pattern} (hpattern : IsPattern pattern.toList)
    (hparse : Regex.parse pattern = .ok program) :
    Delivers rep ('#' :: '"' :: escapeQuotes pattern.toList ++ ['"']) [.regex pattern] := by
  intro s hs
  obtain ⟨htoken, hview⟩ := State.run_open_pattern rep hs hpattern
  have hstep := State.step_quote rep htoken
    (show _ = Except.ok program by rw [List.reverse_reverse, String.ofList_toList, hparse])
  rw [List.reverse_reverse, String.ofList_toList] at hstep
  rw [State.run_append]
  -- the state in front of the closing quote
  generalize s.run rep ('#' :: '"' :: escapeQuotes pattern.toList) = t at hstep hview
  have closed : (t.step rep '"').token = .none ∧
      (t.step rep '"').view = deliver s.view (.regex pattern) := by
    rw [hstep, State.view_position, State.view_finish, hview]
    exact ⟨State.finish_token, rfl⟩
  have rests := State.rests_of_none closed.1
  rwa [closed.2] at rests

theorem read_escaped_regex [Tables] (rep : Representation) {text : String}
    (htext : text.toList = '#' :: '"' :: escapeQuotes pattern.toList ++ ['"'])
    (hpattern : IsPattern pattern.toList) (hparse : (Regex.parse pattern).isOk = true) :
    read rep text = .ok [.regex pattern] := by
  obtain ⟨program, hprogram⟩ : ∃ program, Regex.parse pattern = .ok program := by
    cases h : Regex.parse pattern with
    | ok program => exact ⟨program, rfl⟩
    | error report => simp [h, Except.isOk, Except.toBool] at hparse
  refine read_of_delivers ?_
  rw [htext]
  exact delivers_regex hpattern hprogram

theorem toList_render_regex (entityText : Entity → String) (pattern : String) :
    ((Value.regex pattern).render entityText).toList = '#' :: '"' :: pattern.toList ++ ['"'] := by
  simp [Value.render]

/-- What is read in front of a text comes first in all of it. -/
theorem head_of_read [Tables] {cs ds : List Char} {text : String} {l : Located} {v : Value}
    (htext : text.toList = cs ++ ds) (hcs : (State.run rep {} cs).forms = [l])
    (h : read rep text = .ok [v]) : l.form = v := by
  let s : State := State.run rep {} text.toList
  have hsuffix : [l] <:+ s.endToken.forms := by
    have hrun : s = (State.run rep {} cs).run rep ds := by
      simp only [s, htext, State.run_append]
    calc [l] = (State.run rep {} cs).forms := hcs.symm
      _ <:+ s.forms := hrun ▸ State.forms_suffix_run rep _ ds
      _ <:+ s.endToken.forms := (State.course_endToken s).forms_suffix
  have hforms : s.endToken.forms.map (·.form) = [v] := forms_of_read h
  obtain ⟨newer, hnewer⟩ := hsuffix
  rw [← hnewer, List.map_append] at hforms
  cases newer with
  | nil => exact List.singleton_inj.1 hforms
  | cons l' newer => simp at hforms

/-- The first quote of a pattern ends its printed text too early. -/
theorem read_render_regex_ne [Tables] (hpattern : IsPattern pattern.toList)
    (hquote : '"' ∈ pattern.toList) (rep : Representation) (entityText : Entity → String) :
    read rep ((Value.regex pattern).render entityText) ≠ .ok [.regex pattern] := by
  intro h
  obtain ⟨before, after, hbefore, hnone, hcs⟩ := hpattern.exists_quote hquote
  have htext : ((Value.regex pattern).render entityText).toList =
      ('#' :: '"' :: before ++ ['"']) ++ (after ++ ['"']) := by
    simp [toList_render_regex, hcs]
  obtain ⟨htoken, hview⟩ := State.run_open_pattern rep (s := {}) rfl hbefore
  rw [escapeQuotes_of_not_mem hnone] at htoken hview
  have hrun : ∀ t, t = State.run rep {} ('#' :: '"' :: before) →
      State.run rep {} ('#' :: '"' :: before ++ ['"']) = t.step rep '"' := by
    rintro t rfl
    exact State.run_append _ _
  generalize State.run rep {} ('#' :: '"' :: before) = t at htoken hview hrun
  -- what stands before the quote compiles to a form of its own, or reading has failed for good
  cases hparse : Regex.parse (String.ofList before) with
  | ok program =>
    have hstep := State.step_quote rep htoken
      (show _ = Except.ok program by rw [List.reverse_reverse, hparse])
    rw [List.reverse_reverse] at hstep
    have hforms : (t.step rep '"').forms.map (·.form) = [.regex (String.ofList before)] := by
      have hclosed : (t.step rep '"').view = ([], [.regex (String.ofList before)]) := by
        rw [hstep, State.view_position, State.view_finish, hview]
        rfl
      exact congrArg Prod.snd hclosed
    obtain ⟨l, hl, hform⟩ := List.map_eq_singleton_iff.1 hforms
    have hsame : l.form = .regex pattern := head_of_read htext (by rw [hrun t rfl, hl]) h
    rw [hform, Value.regex.injEq, ← String.toList_inj, String.toList_ofList, hcs] at hsame
    simpa using congrArg List.length hsame
  | error report =>
    obtain ⟨f, hfailed⟩ : ∃ f, (t.step rep '"').token = .failed f := by
      simp [State.step, State.take, htoken, State.finishRegex, hparse, State.fail]
    have herror : (readAll rep ((Value.regex pattern).render entityText)).fault ≠ none := by
      rw [readAll, readChars_eq, htext, State.run_append, hrun t rfl,
        State.outcome_run_of_failed hfailed]
      simp
    exact herror (read_eq_ok_iff.1 h).1

/-- A regular expression that has been read prints as a text that is read as the same pattern
exactly if there is no quote in the pattern. With a backslash before every quote, the text of every
pattern would be. -/
theorem regex_reads_back_iff [Tables] {text : String} (h : read rep text = .ok [.regex pattern])
    (rep' : Representation) (entityText : Entity → String) :
    (read rep' ((Value.regex pattern).render entityText) = .ok [.regex pattern] ↔
        '"' ∉ pattern.toList) ∧
      read rep' (String.ofList ('#' :: '"' :: escapeQuotes pattern.toList ++ ['"'])) =
        .ok [.regex pattern] := by
  obtain ⟨hpattern, program, hparse⟩ : IsSpelled (.regex pattern) :=
    spelled_of_read h _ (List.mem_singleton_self _)
  have delivers : Delivers rep' ('#' :: '"' :: escapeQuotes pattern.toList ++ ['"'])
      [.regex pattern] := delivers_regex hpattern hparse
  refine ⟨⟨fun hread hquote => ?_, fun hquote => ?_⟩, ?_⟩
  · exact read_render_regex_ne hpattern hquote rep' entityText hread
  · refine read_of_delivers ?_
    rwa [toList_render_regex, ← escapeQuotes_of_not_mem hquote]
  · refine read_of_delivers ?_
    rwa [String.toList_ofList]

/-- Three backslashes and a point: an escaped backslash and an escaped point. -/
theorem regex_reads_back_backslashes :
    read .native "#\"a\\\\\\.\"" = .ok [.regex "a\\\\\\."] ∧
      read .native ((Value.regex "a\\\\\\.").render Entity.untold) =
        .ok [.regex "a\\\\\\."] := by
  have hpattern : IsPattern "a\\\\\\.".toList :=
    .cons (.plain (by decide) (by decide)) (.cons (.escape (by decide))
      (.cons (.escape (by decide)) .nil))
  have h : read .native "#\"a\\\\\\.\"" = .ok [.regex "a\\\\\\."] :=
    read_escaped_regex .native (by decide) hpattern (by decide +kernel)
  exact ⟨h, (regex_reads_back_iff h .native Entity.untold).1.2 (by decide)⟩

/-- A quote behind a letter, printed without its backslash, leaves the quote at the end alone. -/
theorem regex_with_quote_breaks :
    read .native "#\"a\\\"b\"" = .ok [.regex "a\"b"] ∧
      (Value.regex "a\"b").render Entity.untold = "#\"a\"b\"" ∧
      read .native "#\"a\"b\"" = .error ⟨.unterminatedString, ⟨1, 6⟩⟩ := by
  have hpattern : IsPattern "a\"b".toList :=
    .cons (.plain (by decide) (by decide)) (.cons .quote
      (.cons (.plain (by decide) (by decide)) .nil))
  have hfault : (readAll .native "#\"a\"b\"").fault =
      some (⟨.unterminatedString, ⟨1, 6⟩⟩, ⟨1, 5⟩) := by decide +kernel
  exact ⟨read_escaped_regex .native (by decide) hpattern (by decide +kernel), by rfl,
    read_eq_error_iff.2 ⟨_, hfault⟩⟩

end Lisp.Reader
