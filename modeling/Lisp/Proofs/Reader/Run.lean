import Lisp.Proofs.Reader.Character

/-!
# Runs of the reader

The reader takes characters one at a time, so reading a text is a run of `State.step`, and reading
two texts in a row is two runs. What matters of a state for the forms that come out is its view:
what waits for more and the forms so far, without any positions.

## Main definitions

* `Reader.State.run` — the effect of a row of characters
* `Reader.State.view` — a state without positions and token
* `Reader.deliver` — what a finished form does to a view
* `Reader.groupValue`, `Reader.Delimiter.opening` — the value of a bracketed form, and how it opens

## Main results

* `Reader.State.run_of_failed` — a reader that has failed stays as it is
* `Reader.State.view_finish` — finishing a form delivers it
* `Reader.State.starts_fresh` — all that a character can lead to where no token is being read
* `Reader.State.step_close` — the closing bracket delivers the bracketed form
-/

namespace Lisp.Reader

open Text (Position)

namespace State

variable {rep : Representation} {s : State} {c : Char} {v : Value} {t : Token}

/-- The effect of a row of characters. -/
def run [Tables] (rep : Representation) (s : State) (cs : List Char) : State :=
  cs.foldl (State.step rep) s

@[simp] theorem run_nil [Tables] : s.run rep [] = s := rfl

@[simp] theorem run_cons [Tables] (cs : List Char) :
    s.run rep (c :: cs) = (s.step rep c).run rep cs := rfl

@[simp] theorem run_append [Tables] (cs ds : List Char) :
    s.run rep (cs ++ ds) = (s.run rep cs).run rep ds := List.foldl_append

end State

theorem readChars_eq [Tables] (rep : Representation) (cs : List Char) :
    readChars rep cs = (State.run rep {} cs).outcome := rfl

namespace State

variable {rep : Representation} {s : State} {c : Char} {v : Value} {t : Token}

@[simp] theorem step_position [Tables] : (s.step rep c).position = s.position.advance c := rfl

theorem run_position [Tables] (cs : List Char) : (s.run rep cs).position = s.position.after cs := by
  induction cs generalizing s with
  | nil => rfl
  | cons c cs ih => exact ih

/-! ### Failure is for good -/

theorem step_of_failed [Tables] {f : Fault} (h : s.token = .failed f) :
    s.step rep c = { s with position := s.position.advance c } := by
  simp [step, take, h]

theorem run_of_failed [Tables] {f : Fault} (h : s.token = .failed f) (cs : List Char) :
    s.run rep cs = { s with position := s.position.after cs } := by
  induction cs generalizing s with
  | nil => rfl
  | cons c cs ih =>
    rw [run_cons, step_of_failed h]
    exact ih h

/-- A reader that has failed tells so at the end. -/
theorem fault_outcome_of_failed {f : Fault} (h : s.token = .failed f) :
    s.outcome.fault = some (f, s.start) := by
  simp [outcome, endToken, fault?, h]

/-- A reader that has failed goes on to no other outcome. -/
theorem outcome_run_of_failed [Tables] {f : Fault} (h : s.token = .failed f) (cs : List Char) :
    (s.run rep cs).outcome = ⟨s.forms.reverse, some (f, s.start)⟩ := by
  rw [run_of_failed h]
  simp [outcome, endToken, fault?, h]

/-! ### The view of a state -/

/-- A state without positions and token: what waits for more, and the forms so far in reverse. -/
def view (s : State) : List Pending × List Value := (s.pending, s.forms.map (·.form))

end State

/-- What a finished form does to a view: it goes to whatever waits for it. -/
def deliver (w : List Pending × List Value) (v : Value) : List Pending × List Value :=
  match wrapQuotes w.1 v with
  | (.group d items :: rest, v) => (.group d (v :: items) :: rest, w.2)
  | (pending, v) => (pending, v :: w.2)

@[simp] theorem deliver_quote (pending : List Pending) (forms : List Value) (v : Value) :
    deliver (.quote :: pending, forms) v = deliver (pending, forms) (.quoted v) := rfl

@[simp] theorem deliver_group (d : Delimiter) (items : List Value) (rest : List Pending)
    (forms : List Value) (v : Value) :
    deliver (.group d items :: rest, forms) v = (.group d (v :: items) :: rest, forms) := rfl

@[simp] theorem deliver_nil (forms : List Value) (v : Value) :
    deliver ([], forms) v = ([], v :: forms) := rfl

theorem foldl_deliver_group (d : Delimiter) (items : List Value) (rest : List Pending)
    (forms : List Value) (vs : List Value) :
    vs.foldl deliver (.group d items :: rest, forms) =
      (.group d (vs.reverse ++ items) :: rest, forms) := by
  induction vs generalizing items with
  | nil => rfl
  | cons v vs ih => simp [ih]

theorem foldl_deliver_nil (forms vs : List Value) :
    vs.foldl deliver ([], forms) = ([], vs.reverse ++ forms) := by
  induction vs generalizing forms with
  | nil => rfl
  | cons v vs ih => simp [ih]

/-- The value of a bracketed form with the given elements. -/
def groupValue [Tables] (rep : Representation) (d : Delimiter) (vs : List Value) : Value :=
  match d with
  | .list => .list vs
  | .vector => .vector rep vs
  | .set => .setOf Entity.untold rep vs
  | .map => .mapOf Entity.untold rep (Value.pairUp vs)

/-- The characters that open a bracketed form. -/
def Delimiter.opening : Delimiter → List Char
  | .list => ['(']
  | .vector => ['[']
  | .map => ['\x7b']
  | .set => ['#', '\x7b']

/-- Whether a bracketed form may end with the given number of elements. -/
def Delimiter.Fits (d : Delimiter) (n : Nat) : Prop := d = .map → n % 2 = 0

namespace State

variable {rep : Representation} {s : State} {c : Char} {v : Value} {t : Token}

@[simp] theorem finish_token : (s.finish v).token = .none := by
  unfold finish
  split <;> rfl

@[simp] theorem finish_position : (s.finish v).position = s.position := by
  unfold finish
  split <;> rfl

@[simp] theorem finishNumber_position (chars : List Char) :
    (s.finishNumber chars).position = s.position := by
  unfold finishNumber
  split
  · exact finish_position
  · rfl

@[simp] theorem finishKeyword_position (auto : Bool) (chars : List Char) :
    (s.finishKeyword auto chars).position = s.position := by
  unfold finishKeyword
  split
  · rfl
  · exact finish_position

theorem view_finish : (s.finish v).view = deliver s.view v := by
  unfold finish deliver view
  simp only
  generalize wrapQuotes s.pending v = w
  obtain ⟨pending, v⟩ := w
  cases pending with
  | nil => rfl
  | cons p rest => cases p <;> rfl

@[simp] theorem view_position (p : Position) : { s with position := p }.view = s.view := rfl

theorem finishGroup_eq [Tables] {d : Delimiter} {items : List Value} (h : d.Fits items.length)
    (after : Position) :
    finishGroup rep s d items after = s.finish (groupValue rep d items.reverse) := by
  cases d with
  | map => simp [finishGroup, groupValue, h rfl]
  | _ => rfl

/-! ### Characters at which no token is being read -/

/-- Where a character can lead if no token is being read, with what is known about the character. -/
inductive Starts [Tables] (rep : Representation) (s : State) (c : Char) : State → Prop where
  | separator (h : isSeparator c = true) : Starts rep s c s
  | comment (h : c = ';') : Starts rep s c { s with token := .comment }
  | closing (h : isClosing c = true) : Starts rep s c (s.closing rep c)
  | string (h : c = '"') : Starts rep s c (s.begin (.string []))
  | number (h : c.isDigit = true) : Starts rep s c (s.begin (.number false false [c]))
  | sign (h : c = '-' ∨ c = '+') : Starts rep s c (s.begin (.sign c))
  | colon (h : c = ':') : Starts rep s c (s.begin .colon)
  | quote (h : c = '\'') : Starts rep s c (s.open_ .quote)
  | group (d : Delimiter) : Starts rep s c (s.open_ (.group d []))
  | hash (h : c = '#') : Starts rep s c (s.begin (.hash s.position))
  | symbol (h : isSymbolChar c = true) (hd : c.isDigit = false) (hs : ¬ (c = '-' ∨ c = '+')) :
    Starts rep s c (s.begin (.symbol [c]))
  | stray : Starts rep s c ((s.begin .none).fail (.strayCharacter c) s.position)

theorem starts_fresh [Tables] (rep : Representation) (s : State) (c : Char) :
    Starts rep s c (s.fresh rep c) := by
  fun_cases fresh rep s c with
  | case1 h => exact .separator h
  | case2 _ h => exact .comment h
  | case3 _ _ h => exact .closing h
  | case4 _ _ _ h => exact .string h
  | case5 _ _ _ _ h => exact .number h
  | case6 _ _ _ _ _ h => exact .sign (by simpa using h)
  | case7 _ _ _ _ _ _ h => exact .colon h
  | case8 _ _ _ _ _ _ _ h => exact .quote h
  | case9 => exact .group .list
  | case10 => exact .group .vector
  | case11 => exact .group .map
  | case12 _ _ _ _ _ _ _ _ _ _ _ h => exact .hash h
  | case13 _ _ _ _ hd hs _ _ _ _ _ _ h => exact .symbol h (by simpa using hd) (by simpa using hs)
  | case14 => exact .stray

theorem step_of_none [Tables] (h : s.token = .none) :
    s.step rep c = { s.fresh rep c with position := s.position.advance c } := by
  simp [step, take, h]

/-- A separator between forms changes nothing. -/
theorem step_separator [Tables] (h : s.token = .none) (hc : isSeparator c = true) :
    s.step rep c = { s with position := s.position.advance c } := by
  simp [step_of_none h, fresh, hc]

theorem resume_separator [Tables] (hc : isSeparator c = true) : s.resume rep c = s := by
  unfold resume
  split
  · rfl
  · simp [fresh, hc]

theorem fresh_of_isClosing [Tables] (h : isClosing c = true) : s.fresh rep c = s.closing rep c := by
  have hne : c ≠ ';' := by
    rintro rfl
    exact absurd h (by decide)
  simp [fresh, isSeparator_of_isClosing h, hne, h]

/-- The closing bracket of the innermost open form delivers the form. -/
theorem step_close [Tables] {d : Delimiter} {items : List Value} {rest : List Pending}
    (h : s.token = .none) (hp : s.pending = .group d items :: rest) (fits : d.Fits items.length) :
    s.step rep d.close =
      { { s with pending := rest }.finish (groupValue rep d items.reverse) with
        position := s.position.advance d.close } := by
  rw [step_of_none h, fresh_of_isClosing (isClosing_close d), closing, hp]
  simp [finishGroup_eq fits]

theorem view_step_close [Tables] (rep : Representation) {d : Delimiter} {items : List Value}
    {rest : List Pending} {forms : List Value} (h : s.token = .none)
    (hv : s.view = (.group d items :: rest, forms)) (fits : d.Fits items.length) :
    (s.step rep d.close).token = .none ∧
      (s.step rep d.close).view = deliver (rest, forms) (groupValue rep d items.reverse) := by
  obtain ⟨hp, hf⟩ := Prod.mk.inj hv
  rw [step_close h hp fits, view_position, view_finish, ← hf]
  exact ⟨finish_token, rfl⟩

theorem run_opening [Tables] (rep : Representation) (d : Delimiter) (h : s.token = .none) :
    (s.run rep d.opening).token = .none ∧
      (s.run rep d.opening).view = (.group d [] :: s.view.1, s.view.2) := by
  cases d with
  | list =>
    have hfresh : s.fresh rep '(' = s.open_ (.group .list []) := rfl
    simp [Delimiter.opening, step_of_none h, hfresh, open_, begin, view]
  | vector =>
    have hfresh : s.fresh rep '[' = s.open_ (.group .vector []) := rfl
    simp [Delimiter.opening, step_of_none h, hfresh, open_, begin, view]
  | map =>
    have hfresh : s.fresh rep '\x7b' = s.open_ (.group .map []) := rfl
    simp [Delimiter.opening, step_of_none h, hfresh, open_, begin, view]
  | set =>
    -- the only delimiter that opens with two characters
    have hfresh : s.fresh rep '#' = s.begin (.hash s.position) := rfl
    have hstep : s.step rep '#' = { s.begin (.hash s.position) with
        position := s.position.advance '#' } := by
      rw [step_of_none h, hfresh]
    rw [Delimiter.opening, run_cons, hstep]
    exact ⟨rfl, rfl⟩

/-! ### Blanks end tokens -/

end State

theorem newline_isBlank : Text.isBlank '\n' = true := rfl

/-- The tokens that a blank ends, as the end of the text would. -/
def Token.endsAtBlank : Token → Bool
  | .none | .sign _ | .number .. | .symbol _ | .colon | .keyword .. | .hash _ | .failed _ => true
  | .comment | .string _ | .escape _ | .unicode .. | .regex _ | .regexEscape _ => false

namespace State

variable {rep : Representation} {s : State} {c : Char}

/-- What cannot belong to a token ends it as the end of the text would, and is then taken. Only
numbers go on at a comma. -/
theorem take_ending [Tables] (ht : s.token.endsAtBlank = true) (hsymbol : isSymbolChar c = false)
    (hcolon : c ≠ ':') (hbrace : c ≠ '\x7b') (hquote : c ≠ '"')
    (hcomma : ∀ signed point chars, s.token = .number signed point chars → c ≠ ',') :
    s.take rep c = s.endToken.resume rep c := by
  have hdigit : c.isDigit = false := by
    cases h : c.isDigit with
    | false => rfl
    | true => simp [isSymbolChar_of_isDigit h] at hsymbol
  have inSymbol_eq : ∀ chars, s.inSymbol rep chars c =
      (s.finish (symbolValue chars)).resume rep c := by
    intro chars
    rw [inSymbol, if_neg (by simp [hsymbol])]
  have inKeyword_eq : ∀ auto chars, s.inKeyword rep auto chars c =
      (s.finishKeyword auto chars).resume rep c := by
    intro auto chars
    rw [inKeyword, if_neg (by simp [hsymbol])]
  cases h : s.token with
  | none => simp only [take, endToken, h, resume]
  | sign sign => simp only [take, endToken, h, hdigit, Bool.false_eq_true, if_false, inSymbol_eq]
  | number signed point chars =>
    -- points, signs and underscores go on with a number, and are symbol characters too
    have other : ∀ d, isSymbolChar d = true → c ≠ d := by
      rintro d hd rfl
      simp [hsymbol] at hd
    have h₁ : c ≠ '.' := other _ (by decide)
    have h₂ : c ≠ '-' := other _ (by decide)
    have h₃ : c ≠ '+' := other _ (by decide)
    have h₄ : c ≠ '_' := other _ (by decide)
    simp [take, endToken, h, inNumber, h₁, h₂, h₃, h₄, hcomma _ _ _ h, hdigit]
  | symbol chars => simp only [take, endToken, h, inSymbol_eq]
  | colon => simp [take, endToken, h, hcolon, inKeyword_eq, finishKeyword]
  | keyword auto chars => simp only [take, endToken, h, inKeyword_eq]
  | hash start => simp [take, endToken, h, hbrace, hquote, resume, fail]
  | failed f => simp only [take, endToken, h, resume]
  | comment | string _ | escape _ | unicode _ _ | regex _ | regexEscape _ =>
    simp [h, Token.endsAtBlank] at ht

/-- A blank ends a token as the end of the text would. -/
theorem take_blank [Tables] (ht : s.token.endsAtBlank = true) (hc : Text.isBlank c = true) :
    s.take rep c = s.endToken := by
  rw [take_ending ht (isSymbolChar_of_isBlank hc) (ne_of_class hc (by decide))
    (ne_of_class hc (by decide)) (ne_of_class hc (by decide))
    (fun _ _ _ _ => ne_of_class hc (by decide))]
  exact resume_separator (isSeparator_of_isBlank hc)

/-- Ending a token either ends it or fails. -/
def IsEnded (s : State) : Prop := s.token = .none ∨ ∃ f, s.token = .failed f

theorem isEnded_finish (v : Value) : (s.finish v).IsEnded := .inl finish_token

theorem isEnded_finishNumber (chars : List Char) : (s.finishNumber chars).IsEnded := by
  unfold finishNumber
  split
  · exact isEnded_finish _
  · exact .inr ⟨_, rfl⟩

theorem isEnded_finishKeyword (auto : Bool) (chars : List Char) :
    (s.finishKeyword auto chars).IsEnded := by
  unfold finishKeyword
  split
  · exact .inr ⟨_, rfl⟩
  · exact isEnded_finish _

theorem isEnded_endToken (h : s.token.endsAtBlank = true) : s.endToken.IsEnded := by
  cases ht : s.token with
  | none => exact .inl (by simp [endToken, ht])
  | sign c => simpa only [endToken, ht] using isEnded_finish _
  | number signed point chars => simpa only [endToken, ht] using isEnded_finishNumber _
  | symbol chars => simpa only [endToken, ht] using isEnded_finish _
  | keyword auto chars => simpa only [endToken, ht] using isEnded_finishKeyword _ _
  | colon | hash _ =>
    simp only [endToken, ht]
    exact .inr ⟨_, rfl⟩
  | failed f => exact .inr ⟨f, by simp [endToken, ht]⟩
  | comment | string _ | escape _ | unicode _ _ | regex _ | regexEscape _ =>
    simp [ht, Token.endsAtBlank] at h

/-- Nothing is at fault exactly if reading has not failed and nothing waits for more. -/
theorem fault_eq_none_iff :
    s.fault? = none ↔ (∀ f, s.token ≠ .failed f) ∧ s.pending = [] := by
  obtain ⟨position, token, pending, start, forms⟩ := s
  cases token <;> cases pending with
  | nil => simp [fault?]
  | cons q rest => cases q <;> simp [fault?]

/-- A fault has been met before the end of the text, or something still waits for more there. -/
theorem fault_outcome_cases {f : Fault} {p : Position} (h : s.outcome.fault = some (f, p)) :
    s.endToken.token = .failed f ∨ f = ⟨.endOfInput, s.endToken.position⟩ ∨
      ∃ d, f = ⟨.unterminated d, s.endToken.position⟩ := by
  obtain ⟨g, hg, heq⟩ := Option.map_eq_some_iff.1 h
  obtain rfl : g = f := congrArg Prod.fst heq
  unfold fault? at hg
  split at hg
  · next g' hfailed =>
    obtain rfl := Option.some.inj hg
    exact .inl hfailed
  · cases hg
  · exact .inr (.inl (Option.some.inj hg).symm)
  · exact .inr (.inr ⟨_, (Option.some.inj hg).symm⟩)

end State

/-! ### Outcomes -/

theorem read_eq_error_iff [Tables] {rep : Representation} {text : String} {f : Fault} :
    read rep text = .error f ↔ ∃ p, (readAll rep text).fault = some (f, p) := by
  unfold read
  dsimp only
  split
  · next f' p h => simp [h, eq_comm]
  · next h => simp [h]

theorem read_eq_ok_iff [Tables] {rep : Representation} {text : String} {vs : List Value} :
    read rep text = .ok vs ↔
      (readAll rep text).fault = none ∧ (readAll rep text).forms.map (·.form) = vs := by
  unfold read
  dsimp only
  split
  · next h => simp [h]
  · next h => simp [h]

theorem read_of_fault_eq_none [Tables] {rep : Representation} {text : String}
    (h : (readAll rep text).fault = none) :
    read rep text = .ok ((readAll rep text).forms.map (·.form)) :=
  read_eq_ok_iff.2 ⟨h, rfl⟩

/-- The forms of a text are those of the state at its end. -/
theorem forms_of_read [Tables] {rep : Representation} {text : String} {vs : List Value}
    (h : read rep text = .ok vs) :
    (State.run rep {} text.toList).endToken.forms.map (·.form) = vs.reverse := by
  have hforms := (read_eq_ok_iff.1 h).2
  rw [← hforms]
  simp [readAll, readChars_eq, State.outcome]

end Lisp.Reader
