import Lisp.Proofs.Reader.Run

/-!
# Reading composes

A text that can be read leaves nothing behind: what follows it on a new line is read as if it stood
alone, only further down. The reader does not look at positions, so moving a text moves every
position it reports and changes nothing else; and at the end of a readable text the reader is as at
the beginning, except that it remembers some forms and where the last of them began.

## Main definitions

* `Text.Position.shift` — a position in a text, seen from the place where the text begins
* `Reader.State.shift` — a state of the reader in a text that has been moved behind another
* `Reader.State.IsIdle` — nothing has been begun

## Main results

* `Text.Position.shift_after` — shifting a position gives the position in the whole text
* `Reader.State.run_shift` — moving a text moves positions and changes nothing else
* `Reader.State.alike_run`, `Reader.State.outcome_of_alike` — where the last form began does not
  matter
* `Reader.readAll_append` — reading composes
-/

namespace Lisp

namespace Text.Position

/-- A position in a text, seen from the place `p` where the text begins: the first line goes on
where `p` is, the others are whole lines below. -/
def shift (p q : Position) : Position :=
  if q.line = 1 then ⟨p.line, p.column + q.column⟩ else ⟨p.line + (q.line - 1), q.column⟩

theorem line_pos_advance {q : Position} (h : 1 ≤ q.line) (c : Char) : 1 ≤ (q.advance c).line := by
  unfold advance
  split
  · exact Nat.le_add_left 1 _
  · exact h

theorem shift_advance (p : Position) {q : Position} (h : 1 ≤ q.line) (c : Char) :
    p.shift (q.advance c) = (p.shift q).advance c := by
  unfold advance shift
  by_cases hc : c = '\n' <;> by_cases hq : q.line = 1
  · simp [hc, hq]
  · have : q.line ≠ 0 := by omega
    simp only [hc, hq, if_true, if_false, Nat.add_eq_right, this]
    simp only [mk.injEq, and_true]
    omega
  · simp [hc, hq, Nat.add_assoc]
  · simp [hc, hq]

@[simp] theorem shift_start (p : Position) : p.shift {} = p := rfl

/-- Shifting the position behind some characters gives the position behind them in the whole
text. -/
theorem shift_after (p : Position) (cs : List Char) : p.shift (after {} cs) = p.after cs := by
  have general : ∀ q : Position, 1 ≤ q.line → p.shift (q.after cs) = (p.shift q).after cs := by
    induction cs with
    | nil => intro q _; rfl
    | cons c cs ih =>
      intro q hq
      have := ih (q.advance c) (line_pos_advance hq c)
      rwa [shift_advance p hq] at this
  exact general {} (Nat.le_refl 1)

end Text.Position

namespace Reader

open Text (Position)

/-- A fault in a text, seen from the place where the text begins. -/
def Fault.shift (p : Position) (f : Fault) : Fault := ⟨f.defect, p.shift f.position⟩

/-- A located form of a text, seen from the place where the text begins. -/
def Located.shift (p : Position) (l : Located) : Located := ⟨l.form, p.shift l.start⟩

/-- A token of a text, seen from the place where the text begins. -/
def Token.shift (p : Position) : Token → Token
  | .hash start => .hash (p.shift start)
  | .failed f => .failed (f.shift p)
  | t => t

/-- The outcome of a text that stands behind another one with the given forms, seen from the place
where the text begins. -/
def Reading.behind (base : List Located) (p : Position) (r : Reading) : Reading where
  forms := base ++ r.forms.map (·.shift p)
  fault := r.fault.map fun (f, start) => (f.shift p, p.shift start)

namespace State

/-- A state of the reader in a text that stands behind another one with the given forms, seen from
the place where the text begins. -/
def shift (p : Position) (base : List Located) (s : State) : State where
  position := p.shift s.position
  token := s.token.shift p
  pending := s.pending
  start := p.shift s.start
  forms := s.forms.map (·.shift p) ++ base

variable {rep : Representation} {p : Position} {base : List Located} {s : State} {c : Char}

/-! ### Moving a text changes positions only -/

theorem finish_shift (v : Value) : (s.shift p base).finish v = (s.finish v).shift p base := by
  unfold finish
  simp only [shift]
  generalize wrapQuotes s.pending v = w
  obtain ⟨pending, v⟩ := w
  cases pending with
  | nil => rfl
  | cons q rest => cases q <;> rfl

theorem begin_shift (t : Token) :
    (s.shift p base).begin (t.shift p) = (s.begin t).shift p base := by
  cases h : s.pending.isEmpty <;> simp only [begin, shift, h] <;> rfl

theorem open_shift (q : Pending) : (s.shift p base).open_ q = (s.open_ q).shift p base := by
  unfold open_
  have begun : (s.shift p base).begin .none = (s.begin .none).shift p base := begin_shift .none
  rw [begun]
  rfl

theorem finishNumber_shift (chars : List Char) :
    (s.shift p base).finishNumber chars = (s.finishNumber chars).shift p base := by
  unfold finishNumber
  split
  · exact finish_shift _
  · rfl

theorem finishKeyword_shift (auto : Bool) (chars : List Char) :
    (s.shift p base).finishKeyword auto chars = (s.finishKeyword auto chars).shift p base := by
  unfold finishKeyword
  split
  · rfl
  · exact finish_shift _

theorem finishRegex_shift (chars : List Char) (q : Position) :
    (s.shift p base).finishRegex chars (p.shift q) = (s.finishRegex chars q).shift p base := by
  unfold finishRegex
  dsimp only
  split
  · exact finish_shift _
  · rfl

theorem finishGroup_shift [Tables] (d : Delimiter) (items : List Value) (q : Position) :
    finishGroup rep (s.shift p base) d items (p.shift q) =
      (finishGroup rep s d items q).shift p base := by
  cases d with
  | map =>
    simp only [finishGroup]
    split
    · exact finish_shift _
    · rfl
  | _ => exact finish_shift _

theorem closing_shift [Tables] (h : 1 ≤ s.position.line) :
    (s.shift p base).closing rep c = (s.closing rep c).shift p base := by
  unfold closing
  simp only [shift]
  split
  · next hp => rw [hp]
  · rfl
  · split
    · rw [← Position.shift_advance p h]
      exact finishGroup_shift (s := { s with pending := _ }) _ _ _
    · next hp _ => rw [hp]

theorem fresh_shift [Tables] (h : 1 ≤ s.position.line) :
    (s.shift p base).fresh rep c = (s.fresh rep c).shift p base := by
  have begins : ∀ t : Token, t.shift p = t →
      (s.shift p base).begin t = (s.begin t).shift p base := by
    intro t ht
    rw [← begin_shift, ht]
  unfold fresh
  simp only [apply_ite (State.shift p base)]
  rw [closing_shift h, begins (.string []) rfl, begins (.number false false [c]) rfl,
    begins (.sign c) rfl, begins .colon rfl, begins (.symbol [c]) rfl, begins .none rfl,
    open_shift, open_shift, open_shift, open_shift, ← begin_shift (.hash s.position)]
  rfl

theorem resume_shift [Tables] (h : 1 ≤ s.position.line) :
    (s.shift p base).resume rep c = (s.resume rep c).shift p base := by
  unfold resume
  cases ht : s.token with
  | failed f => simp only [shift, ht, Token.shift]
  | _ => simpa only [shift, ht, Token.shift] using fresh_shift h

theorem inSymbol_shift [Tables] (h : 1 ≤ s.position.line) (chars : List Char) :
    (s.shift p base).inSymbol rep chars c = (s.inSymbol rep chars c).shift p base := by
  unfold inSymbol
  split
  · rfl
  · rw [finish_shift, resume_shift (by simpa using h)]

theorem inKeyword_shift [Tables] (h : 1 ≤ s.position.line) (auto : Bool) (chars : List Char) :
    (s.shift p base).inKeyword rep auto chars c = (s.inKeyword rep auto chars c).shift p base := by
  unfold inKeyword
  split
  · rfl
  · rw [finishKeyword_shift, resume_shift (by simpa using h)]

theorem inNumber_shift [Tables] (h : 1 ≤ s.position.line) (signed point : Bool)
    (chars : List Char) :
    (s.shift p base).inNumber rep signed point chars c =
      (s.inNumber rep signed point chars c).shift p base := by
  unfold inNumber
  simp only [apply_ite (State.shift p base)]
  rw [finishNumber_shift, resume_shift (by simpa using h)]
  rfl

theorem inUnicode_shift (h : 1 ≤ s.position.line) (chars digits : List Char) :
    (s.shift p base).inUnicode chars digits c = (s.inUnicode chars digits c).shift p base := by
  have advance : (s.shift p base).position.advance c = p.shift (s.position.advance c) :=
    (Position.shift_advance p h c).symm
  unfold inUnicode
  simp only [apply_ite (State.shift p base), advance]
  rfl

theorem take_shift [Tables] (h : 1 ≤ s.position.line) :
    (s.shift p base).take rep c = (s.take rep c).shift p base := by
  have advance : (s.shift p base).position.advance c = p.shift (s.position.advance c) :=
    (Position.shift_advance p h c).symm
  obtain ⟨position, token, pending, start, forms⟩ := s
  cases token with
  | failed f => rfl
  | none => exact fresh_shift h
  | comment =>
    simp only [take, shift, Token.shift]
    split <;> rfl
  | sign sign =>
    simp only [take, shift, Token.shift]
    split
    · rfl
    · exact inSymbol_shift h _
  | number signed point chars => exact inNumber_shift h _ _ _
  | symbol chars => exact inSymbol_shift h _
  | colon =>
    simp only [take, shift, Token.shift]
    split
    · rfl
    · exact inKeyword_shift h _ _
  | keyword auto chars => exact inKeyword_shift h _ _
  | hash start =>
    simp only [take, shift, Token.shift]
    split
    · rfl
    split <;> rfl
  | string chars =>
    simp only [take, shift, Token.shift]
    split
    · exact finish_shift (s := ⟨position, .string chars, pending, start, forms⟩) _
    split <;> rfl
  | escape chars =>
    simp only [take, shift, Token.shift]
    split <;> rfl
  | unicode chars digits => exact inUnicode_shift h _ _
  | regex chars =>
    -- faults in a pattern are reported at the closing quote, so the position comes in here
    let s : State := ⟨position, .regex chars, pending, start, forms⟩
    have finished : (s.shift p base).finishRegex chars (p.shift (position.advance c)) =
        (s.finishRegex chars (position.advance c)).shift p base := finishRegex_shift _ _
    rw [← advance] at finished
    simp only [take, shift, Token.shift] at finished ⊢
    split
    · exact finished
    split <;> rfl
  | regexEscape chars => rfl

theorem step_shift [Tables] (h : 1 ≤ s.position.line) :
    (s.shift p base).step rep c = (s.step rep c).shift p base := by
  have advance : (s.shift p base).position.advance c = p.shift (s.position.advance c) :=
    (Position.shift_advance p h c).symm
  simp only [step, take_shift h, advance]
  rfl

/-- Moving a text moves positions and changes nothing else. -/
theorem run_shift [Tables] (h : 1 ≤ s.position.line) (cs : List Char) :
    (s.shift p base).run rep cs = (s.run rep cs).shift p base := by
  induction cs generalizing s with
  | nil => rfl
  | cons c cs ih =>
    rw [run_cons, step_shift h]
    exact ih (Position.line_pos_advance h c)

theorem endToken_shift : (s.shift p base).endToken = s.endToken.shift p base := by
  obtain ⟨position, token, pending, start, forms⟩ := s
  cases token with
  | sign c => exact finish_shift _
  | number signed point chars => exact finishNumber_shift _
  | symbol chars => exact finish_shift _
  | keyword auto chars => exact finishKeyword_shift _ _
  | _ => rfl

theorem fault_shift : (s.shift p base).fault? = s.fault?.map (·.shift p) := by
  obtain ⟨position, token, pending, start, forms⟩ := s
  cases token <;> cases pending <;> try rfl
  all_goals
    rename_i q _
    cases q <;> rfl

theorem outcome_shift : (s.shift p base).outcome = s.outcome.behind base.reverse p := by
  simp only [outcome, endToken_shift, fault_shift, Reading.behind]
  simp [shift, Function.comp_def]

/-! ### Where the last form began does not matter -/

/-- Nothing has been begun: no form waits for more and no token of one is being read. -/
def IsIdle (s : State) : Prop := s.pending = [] ∧ (s.token = .none ∨ s.token = .comment)

/-- Two states that differ at most in where the latest form began, and only while nothing has been
begun since. -/
def Alike (s t : State) : Prop := s = t ∨ (s.IsIdle ∧ t = { s with start := t.start })

theorem alike_step [Tables] {t : State} (h : Alike s t) : Alike (s.step rep c) (t.step rep c) := by
  rcases h with rfl | ⟨⟨hpending, htoken⟩, ht⟩
  · exact .inl rfl
  obtain ⟨position, token, pending, start, forms⟩ := s
  obtain ⟨_, _, _, start', _⟩ := t
  cases hpending
  cases ht
  rcases htoken with rfl | rfl
  · have hstep : ∀ x, State.step rep ⟨position, .none, [], x, forms⟩ c =
        { State.fresh rep ⟨position, .none, [], x, forms⟩ c with position := position.advance c } :=
      fun x => step_of_none rfl
    rw [hstep, hstep]
    by_cases hclosing : isClosing c = true
    · rw [fresh_of_isClosing hclosing, fresh_of_isClosing hclosing]
      exact .inr ⟨⟨rfl, .inl rfl⟩, rfl⟩
    unfold fresh
    by_cases hseparator : isSeparator c = true
    · rw [if_pos hseparator, if_pos hseparator]
      exact .inr ⟨⟨rfl, .inl rfl⟩, rfl⟩
    rw [if_neg hseparator, if_neg hseparator]
    by_cases hcomment : c = ';'
    · rw [if_pos hcomment, if_pos hcomment]
      exact .inr ⟨⟨rfl, .inr rfl⟩, rfl⟩
    -- anything else begins a form, and where it begins is then the same on both sides
    rw [if_neg hcomment, if_neg hcomment, if_neg hclosing, if_neg hclosing]
    exact .inl rfl
  · right
    simp only [step, take]
    split
    · exact ⟨⟨rfl, .inl rfl⟩, rfl⟩
    · exact ⟨⟨rfl, .inr rfl⟩, rfl⟩

theorem alike_run [Tables] {t : State} (h : Alike s t) (cs : List Char) :
    Alike (s.run rep cs) (t.run rep cs) := by
  induction cs generalizing s t with
  | nil => exact h
  | cons c cs ih => exact ih (alike_step h)

theorem outcome_of_alike {t : State} (h : Alike s t) : s.outcome = t.outcome := by
  rcases h with rfl | ⟨⟨hpending, htoken⟩, ht⟩
  · rfl
  · rw [ht]
    rcases htoken with htoken | htoken <;> simp [outcome, endToken, fault?, htoken, hpending]

/-! ### A readable text leaves nothing behind -/

/-- At the end of a line behind a readable text nothing has been begun. -/
theorem step_newline_of_readable [Tables] (h : s.outcome.fault = none) :
    (s.step rep '\n').pending = [] ∧ (s.step rep '\n').token = .none ∧
      (s.step rep '\n').forms.reverse = s.outcome.forms := by
  have hnone : s.endToken.fault? = none := by simpa [outcome] using h
  obtain ⟨hsound, hpending⟩ := fault_eq_none_iff.1 hnone
  cases hends : s.token.endsAtBlank with
  | true =>
    have htoken := (isEnded_endToken hends).resolve_right (by
      rintro ⟨f, hf⟩
      exact hsound f hf)
    simp only [step, take_blank hends newline_isBlank]
    exact ⟨hpending, htoken, rfl⟩
  | false =>
    -- a comment goes on to the end of the line, and the other tokens are at fault here
    cases ht : s.token with
    | comment =>
      simp only [endToken, ht] at hpending
      simp [step, take, outcome, endToken, ht, hpending]
    | string _ | escape _ | unicode _ _ | regex _ | regexEscape _ =>
      simp [endToken, ht, fail] at hsound
    | _ => simp [ht, Token.endsAtBlank] at hends

/-- Separators and stray closing brackets between forms do not count. -/
theorem run_gap [Tables] (htoken : s.token = .none) (hpending : s.pending = []) {cs : List Char}
    (hcs : ∀ c ∈ cs, isSeparator c = true ∨ isClosing c = true) :
    s.run rep cs = { s with position := s.position.after cs } := by
  induction cs generalizing s with
  | nil => rfl
  | cons c cs ih =>
    have hstep : s.step rep c = { s with position := s.position.advance c } := by
      rcases hcs c (by simp) with hc | hc
      · exact step_separator htoken hc
      · have hclosing : s.closing rep c = s := by simp only [closing, hpending]
        rw [step_of_none htoken, fresh_of_isClosing hc, hclosing]
    rw [run_cons, hstep]
    exact ih htoken hpending fun d hd => hcs d (by simp [hd])

end State

open State

/-- Reading composes: behind a readable text, a newline and any separators and stray closing
brackets, a text is read as it is read alone, only moved to where it stands. -/
theorem readAll_append [Tables] (rep : Representation) (a gap b : String)
    (ha : (readAll rep a).fault = none)
    (hgap : ∀ c ∈ gap.toList, isSeparator c = true ∨ isClosing c = true) :
    readAll rep (a ++ "\n" ++ gap ++ b) =
      (readAll rep b).behind (readAll rep a).forms
        (Position.after {} (a ++ "\n" ++ gap).toList) := by
  let s : State := State.run rep {} a.toList
  let t : State := (s.step rep '\n').run rep gap.toList
  obtain ⟨hpending, htoken, hforms⟩ : (s.step rep '\n').pending = [] ∧
      (s.step rep '\n').token = .none ∧
      (s.step rep '\n').forms.reverse = (readAll rep a).forms := step_newline_of_readable ha
  have ht : t = { s.step rep '\n' with position := (s.step rep '\n').position.after gap.toList } :=
    run_gap htoken hpending hgap
  have hposition : t.position = Position.after {} (a ++ "\n" ++ gap).toList := by
    rw [show t = State.run rep {} (a ++ "\n" ++ gap).toList by simp [t, s]]
    exact run_position _
  -- behind the gap the reader is as at the beginning of `b`, but for where the last form began
  have halike : Alike (({} : State).shift t.position t.forms) t := by
    refine .inr ⟨⟨rfl, .inl rfl⟩, ?_⟩
    rw [ht]
    simp [State.shift, Token.shift, hpending, htoken]
  calc readAll rep (a ++ "\n" ++ gap ++ b)
      = (t.run rep b.toList).outcome := by simp [readAll, readChars_eq, t, s]
    _ = ((({} : State).shift t.position t.forms).run rep b.toList).outcome :=
        (outcome_of_alike (alike_run halike _)).symm
    _ = ((State.run rep {} b.toList).shift t.position t.forms).outcome := by
        rw [run_shift (Nat.le_refl 1)]
    _ = (readAll rep b).behind t.forms.reverse t.position := outcome_shift
    _ = _ := by rw [hposition, ht, hforms]

/-- A comment at the end, stray brackets and commas in between, and a fault further down. -/
theorem readAll_append_faulty :
    (readAll .native "(f 1) ; end").fault = none ∧
      (∀ c ∈ ")],\n ".toList, isSeparator c = true ∨ isClosing c = true) ∧
      readAll .native ("(f 1) ; end" ++ "\n" ++ ")],\n " ++ "x [2") =
        (readAll .native "x [2").behind (readAll .native "(f 1) ; end").forms ⟨3, 1⟩ := by
  have ha : (readAll .native "(f 1) ; end").fault = none := by rfl
  have hgap : ∀ c ∈ ")],\n ".toList, isSeparator c = true ∨ isClosing c = true := by
    simp only [← Bool.or_eq_true]
    exact List.all_eq_true.1 rfl
  exact ⟨ha, hgap, readAll_append .native "(f 1) ; end" ")],\n " "x [2" ha hgap⟩

end Reader

end Lisp
