import Lisp.Proofs.Reader.Readable
import Mathlib.Data.List.TakeWhile

/-!
# How numbers and regular expressions are spelled

The characters that a token has collected are not arbitrary. Those of a number are a sign and a
numeral: a digit, then digits with at most one point among them. Such a text always denotes a
number, so that the reader never has an invalid number to complain about. Those of a regular
expression come in units, because a backslash takes the next character with it; only the quote gives
its backslash up.

## Main definitions

* `Number.IsNumeral`, `Number.IsSign` — the text of a number without separators
* `Number.decimalOf` — what the digits of a text denote
* `Reader.IsUnit`, `Reader.IsPattern` — the patterns that regular expressions can have
* `Reader.State.Spelled` — the invariant of the reader

## Main results

* `Number.parseChars?_of_isNumeral` — a sign and a numeral denote a number
* `Reader.State.spelled_step` — one character keeps the invariant
* `Reader.State.not_invalidNumber` — no run of the reader ends with an invalid number
* `Reader.spelled_of_read` — regular expressions that have been read have such a pattern
-/

namespace Lisp.Number

/-- What may stand before the digits of a number. -/
def IsSign (sign : List Char) : Prop := sign = [] ∨ sign = ['-'] ∨ sign = ['+']

/-- A numeral without separators: a digit, then digits with at most one point among them. -/
structure IsNumeral (cs : List Char) : Prop where
  head : cs.head?.any Char.isDigit = true
  chars : ∀ c ∈ cs, c.isDigit = true ∨ c = '.'
  points : cs.count '.' ≤ 1

/-- The digits of a text as one natural number, of which one place falls behind the point for every
digit that stands there. No other character counts. -/
def decimalOf (cs : List Char) : Decimal :=
  ⟨digitsValue 0 (cs.filter Char.isDigit), -((cs.dropWhile (· ≠ '.')).countP Char.isDigit : Int)⟩

section Numeral

variable {cs ds sign : List Char}

theorem IsNumeral.head_append (h : IsNumeral cs) (more : List Char) :
    (cs ++ more).head?.any Char.isDigit = true := by
  cases cs with
  | nil => exact absurd h.head (by decide)
  | cons c rest => exact h.head

theorem not_mem_of_isDigit (h : ∀ c ∈ ds, c.isDigit = true) : '.' ∉ ds := fun hmem =>
  absurd (h '.' hmem) (by decide)

theorem filter_of_isDigit (h : ∀ c ∈ ds, c.isDigit = true) : ds.filter Char.isDigit = ds :=
  List.filter_eq_self.2 h

theorem dropWhile_of_isDigit (h : ∀ c ∈ ds, c.isDigit = true) (rest : List Char) :
    (ds ++ rest).dropWhile (· ≠ '.') = rest.dropWhile (· ≠ '.') := by
  refine List.dropWhile_append_of_pos fun c hc => ?_
  simpa using ne_of_mem_of_not_mem hc (not_mem_of_isDigit h)

/-- The digits before the point of a numeral, and those behind it if there is one. -/
theorem IsNumeral.exists_digits (h : IsNumeral cs) :
    ∃ whole, whole ≠ [] ∧ (∀ c ∈ whole, c.isDigit = true) ∧
      (cs = whole ∨ ∃ fraction, (∀ c ∈ fraction, c.isDigit = true) ∧
        cs = whole ++ '.' :: fraction) := by
  obtain ⟨c, cs, rfl⟩ : ∃ c rest, cs = c :: rest :=
    List.exists_cons_of_ne_nil fun hnil => by simpa [hnil] using h.head
  have hc : c.isDigit = true := by simpa using h.head
  refine ⟨(c :: cs).takeWhile Char.isDigit, by simp [hc], fun d hd => List.mem_takeWhile_imp hd, ?_⟩
  have whole : (c :: cs).takeWhile Char.isDigit ++ (c :: cs).dropWhile Char.isDigit = c :: cs :=
    List.takeWhile_append_dropWhile
  cases hrest : (c :: cs).dropWhile Char.isDigit with
  | nil => exact .inl (by simpa [hrest] using whole.symm)
  | cons d fraction =>
    -- the first character that is no digit is the point, and there is no other
    right
    have hd : d.isDigit = false := by
      simpa [hrest] using List.head?_dropWhile_not Char.isDigit (c :: cs)
    rw [hrest] at whole
    have hmem : ∀ x ∈ d :: fraction, x ∈ c :: cs := fun x hx => by
      rw [← whole]
      exact List.mem_append_right _ hx
    obtain rfl : d = '.' := by simpa [hd] using h.chars d (hmem d (by simp))
    refine ⟨fraction, fun x hx => ?_, whole.symm⟩
    refine (h.chars x (hmem x (by simp [hx]))).resolve_right ?_
    rintro rfl
    have hpoints := h.points
    rw [← whole, List.count_append, List.count_cons_self] at hpoints
    have := List.count_pos_iff.2 hx
    omega

theorem decimalOf_whole (h : ∀ c ∈ ds, c.isDigit = true) :
    decimalOf ds = ⟨digitsValue 0 ds, 0⟩ := by
  have hdrop : ds.dropWhile (· ≠ '.') = [] := by
    simpa using dropWhile_of_isDigit h []
  unfold decimalOf
  rw [filter_of_isDigit h, hdrop]
  rfl

theorem decimalOf_point (h : ∀ c ∈ cs, c.isDigit = true) (h' : ∀ c ∈ ds, c.isDigit = true) :
    decimalOf (cs ++ '.' :: ds) = ⟨digitsValue (digitsValue 0 cs) ds, -(ds.length : Int)⟩ := by
  have hpoint : '.'.isDigit = false := by decide
  have hcount : ds.countP Char.isDigit = ds.length := List.countP_eq_length.2 h'
  unfold decimalOf
  rw [dropWhile_of_isDigit h]
  simp [filter_of_isDigit h, filter_of_isDigit h', hpoint, hcount, digitsValue]

/-- The parser takes a numeral for what its digits denote, also with nothing behind its point. -/
theorem parseDecimal?_of_isNumeral (h : IsNumeral cs) : parseDecimal? cs = some (decimalOf cs) := by
  obtain ⟨whole, hne, hwhole, rfl | ⟨fraction, hfraction, rfl⟩⟩ := h.exists_digits
  · have span : spanDigits (cs ++ []) = (cs, []) := Numeral.spanDigits_append hwhole (by simp)
    rw [List.append_nil] at span
    rw [decimalOf_whole hwhole]
    simp [parseDecimal?, span, hne, parseExponent?, digitsValue]
  · have span : spanDigits (whole ++ '.' :: fraction) = (whole, '.' :: fraction) :=
      Numeral.spanDigits_append hwhole (by simp)
    have span' : spanDigits (fraction ++ []) = (fraction, []) :=
      Numeral.spanDigits_append hfraction (by simp)
    rw [List.append_nil] at span'
    rw [decimalOf_point hwhole hfraction]
    simp [parseDecimal?, span, span', hne, parseExponent?]

theorem IsSign.splitSign (hsign : IsSign sign) {c : Char} (hc : c.isDigit = true) :
    splitSign (sign ++ c :: cs) = (decide (sign = ['-']), c :: cs) := by
  rcases hsign with rfl | rfl | rfl
  · exact splitSign_of_isDigit cs hc
  · rfl
  · rfl

/-- A sign and a numeral denote a number. -/
theorem parseChars?_of_isNumeral (hsign : IsSign sign) (h : IsNumeral cs) :
    parseChars? (sign ++ cs) = some ((decimalOf cs).toNumber (sign = ['-'])) := by
  obtain ⟨c, rest, rfl⟩ : ∃ c rest, cs = c :: rest :=
    List.exists_cons_of_ne_nil fun hnil => by simpa [hnil] using h.head
  have hc : c.isDigit = true := by simpa using h.head
  rw [parseChars?_of_isDigit (hsign.splitSign hc) hc, parseDecimal?_of_isNumeral h]
  rfl

end Numeral

end Lisp.Number

namespace Lisp.Reader

open Number (IsSign IsNumeral)
open Text (Position)

/-! ### The patterns of regular expressions -/

/-- What one step of a regular expression leaves in its pattern: a quote, which has lost its
backslash, another character, or a backslash with the character that it has taken along. -/
inductive IsUnit : List Char → Prop where
  | quote : IsUnit ['"']
  | plain {c : Char} (hquote : c ≠ '"') (hslash : c ≠ '\\') : IsUnit [c]
  | escape {c : Char} (hquote : c ≠ '"') : IsUnit ['\\', c]

/-- A row of such units. -/
inductive IsPattern : List Char → Prop where
  | nil : IsPattern []
  | cons {unit cs : List Char} (head : IsUnit unit) (tail : IsPattern cs) : IsPattern (unit ++ cs)

theorem IsPattern.snoc {cs unit : List Char} (h : IsPattern cs) (hunit : IsUnit unit) :
    IsPattern (cs ++ unit) := by
  induction h with
  | nil => simpa using IsPattern.cons hunit .nil
  | cons head _ ih => simpa [List.append_assoc] using IsPattern.cons head ih

/-- What is known of a value that is a regular expression: its pattern compiles, and it is one that
the reader can collect. -/
def IsSpelled : Value → Prop
  | .regex pattern => IsPattern pattern.toList ∧ ∃ program, Regex.parse pattern = .ok program
  | _ => True

theorem isSpelled_symbolValue (chars : List Char) : IsSpelled (symbolValue chars) := by
  rcases symbolValue_cases chars with h | ⟨b, h⟩ | h <;> exact h ▸ trivial

theorem isSpelled_groupValue [Tables] (rep : Representation) (d : Delimiter) (vs : List Value) :
    IsSpelled (groupValue rep d vs) := by
  cases d <;> trivial

theorem isSpelled_wrapQuotes {v : Value} (hv : IsSpelled v) (pending : List Pending) :
    IsSpelled (wrapQuotes pending v).2 := by
  induction pending generalizing v with
  | nil => exact hv
  | cons p rest ih =>
    cases p with
    | group d items => exact hv
    | quote => exact ih (v := .quoted v) trivial

/-! ### The invariant of the reader -/

/-- The characters of a number so far, in reverse: a sign if there is one, and a numeral. A point is
in it only if it is known to be. -/
structure SpelledNumber (point : Bool) (chars : List Char) : Prop where
  text : ∃ sign cs, chars.reverse = sign ++ cs ∧ IsSign sign ∧ IsNumeral cs ∧
    (point = false → '.' ∉ cs)

/-- What holds of the token being read. -/
def Token.Spelled : Token → Prop
  | .sign c => c = '-' ∨ c = '+'
  | .number _ point chars => SpelledNumber point chars
  | .regex chars | .regexEscape chars => IsPattern chars.reverse
  | .failed f => ∀ text, f.defect ≠ .invalidNumber text
  | _ => True

theorem isNumeral_singleton {c : Char} (h : c.isDigit = true) : IsNumeral [c] := by
  have hpoint : c ≠ '.' := ne_of_class h (by decide)
  exact ⟨by simpa using h, by simpa using .inl h, by simp [hpoint]⟩

theorem not_mem_singleton_digit {c : Char} (h : c.isDigit = true) : '.' ∉ [c] := by
  have hpoint : c ≠ '.' := ne_of_class h (by decide)
  simpa using hpoint.symm

namespace SpelledNumber

variable {point : Bool} {chars : List Char} {c : Char}

theorem digit (h : SpelledNumber point chars) (hc : c.isDigit = true) :
    SpelledNumber point (c :: chars) := by
  obtain ⟨sign, cs, htext, hsign, numeral, hpoint⟩ := h.text
  have hne : c ≠ '.' := ne_of_class hc (by decide)
  refine ⟨sign, cs ++ [c], by simp [htext], hsign, ⟨numeral.head_append [c], ?_, ?_⟩, ?_⟩
  · simpa [or_imp, forall_and] using ⟨numeral.chars, .inl hc⟩
  · simpa [hne] using numeral.points
  · simpa [hne.symm] using hpoint

theorem withPoint (h : SpelledNumber false chars) : SpelledNumber true ('.' :: chars) := by
  obtain ⟨sign, cs, htext, hsign, numeral, hpoint⟩ := h.text
  refine ⟨sign, cs ++ ['.'], by simp [htext], hsign, ⟨numeral.head_append ['.'], ?_, ?_⟩, by simp⟩
  · simpa [or_imp, forall_and] using numeral.chars
  · simp [List.count_eq_zero.2 (hpoint rfl)]

theorem parses (h : SpelledNumber point chars) :
    ∃ n, Number.parseChars? chars.reverse = some n := by
  obtain ⟨sign, cs, htext, hsign, numeral, -⟩ := h.text
  exact ⟨_, htext ▸ Number.parseChars?_of_isNumeral hsign numeral⟩

end SpelledNumber

section Token

variable {c : Char} {t t' : Token}

/-- A token that goes on keeps what holds of it. -/
theorem Token.Spelled.becomes (h : t.Spelled) (change : t.Becomes c t') : t'.Spelled := by
  cases change with
  | @signed sign hc =>
    -- a digit behind a sign makes a number of the two
    refine ⟨[sign], [c], rfl, ?_, isNumeral_singleton hc, fun _ => not_mem_singleton_digit hc⟩
    exact .inr (by simpa [Token.Spelled] using h)
  | point hc => exact hc ▸ SpelledNumber.withPoint h
  | digit hc => exact SpelledNumber.digit h hc
  | hashQuote => exact IsPattern.nil
  | regexBackslash => exact h
  | regex hquote hslash => simpa [Token.Spelled] using IsPattern.snoc h (.plain hquote hslash)
  | regexQuote hc => simpa [Token.Spelled, hc] using IsPattern.snoc h .quote
  | regexEscaped hc => simpa [Token.Spelled] using IsPattern.snoc h (.escape hc)
  | _ => trivial

/-- A regular expression that ends compiles. -/
theorem Token.Spelled.isSpelled {v : Value} (h : t.Spelled) (means : t.Means v) : IsSpelled v := by
  cases means with
  | sign | symbol => exact isSpelled_symbolValue _
  | @regex chars pattern hpattern =>
    have hchars : IsPattern chars.reverse := h
    exact ⟨by simpa using hchars, pattern, hpattern⟩
  | number | keyword | string => trivial

theorem Token.Spelled.endsBadly {here : Position} {f : Fault} (h : t.Spelled)
    (bad : t.EndsBadly here f) : (Token.failed f).Spelled := by
  cases bad with
  | number hn =>
    -- a well spelled number has a value
    obtain ⟨n, hn'⟩ := SpelledNumber.parses h
    simp [hn] at hn'
  | colon | keyword | hash => simp [Token.Spelled]

end Token

namespace State

/-- The invariant of the reader: the token is well spelled, and so is every top-level form that is
not among the given ones. -/
structure Spelled (base : List Located) (s : State) : Prop where
  token : s.token.Spelled
  forms : ∀ l ∈ s.forms, l ∈ base ∨ IsSpelled l.form

variable {rep : Representation} {base : List Located} {s : State} {c : Char} {v : Value}

theorem spelled_finish (h : s.Spelled base) (hv : IsSpelled v) : (s.finish v).Spelled base := by
  refine ⟨by simp [Token.Spelled], ?_⟩
  have hw := isSpelled_wrapQuotes hv s.pending
  unfold finish
  generalize wrapQuotes s.pending v = w at hw
  obtain ⟨pending, w⟩ := w
  rcases pending with _ | ⟨_ | _, rest⟩
  · exact List.forall_mem_cons.2 ⟨.inr hw, h.forms⟩
  · exact h.forms
  · exact List.forall_mem_cons.2 ⟨.inr hw, h.forms⟩

theorem spelled_closing [Tables] (h : s.Spelled base) : (s.closing rep c).Spelled base := by
  have closes := closes_closing rep s c
  generalize s.closing rep c = s' at closes
  cases closes with
  | stray => exact h
  | @group d items rest hp =>
    exact spelled_finish (s := { s with pending := rest }) ⟨h.token, h.forms⟩
      (isSpelled_groupValue rep d _)
  | quote | oddMap => exact ⟨by simp [fail, Token.Spelled], h.forms⟩

theorem spelled_fresh [Tables] (h : s.Spelled base) : (s.fresh rep c).Spelled base := by
  have starts := starts_fresh rep s c
  generalize s.fresh rep c = s' at starts
  cases starts with
  | separator => exact h
  | closing => exact spelled_closing h
  | number hc =>
    refine ⟨⟨[], [c], rfl, .inl rfl, isNumeral_singleton hc, fun _ => ?_⟩, h.forms⟩
    exact not_mem_singleton_digit hc
  | sign hc => exact ⟨hc, h.forms⟩
  | stray => exact ⟨by simp [fail, Token.Spelled], h.forms⟩
  | comment | string | colon | quote | group | hash | symbol => exact ⟨trivial, h.forms⟩

theorem spelled_take [Tables] (h : s.Spelled base) : (s.take rep c).Spelled base := by
  have takes := takes_take rep s c
  generalize s.take rep c = s' at takes
  cases takes with
  | passes => exact h
  | fresh => exact spelled_fresh h
  | becomes change => exact ⟨h.token.becomes change, h.forms⟩
  | opensSet => exact ⟨trivial, h.forms⟩
  | completes hv => exact spelled_finish h (h.token.isSpelled hv)
  | ends hv => exact spelled_fresh (spelled_finish h (h.token.isSpelled hv))
  | endsBadly bad => exact ⟨h.token.endsBadly bad, h.forms⟩
  | refuses refusal =>
    refine ⟨?_, h.forms⟩
    generalize s.token = t at refusal
    cases refusal <;> simp [Token.Spelled]

/-- One character keeps the invariant. -/
theorem spelled_step [Tables] (h : s.Spelled base) : (s.step rep c).Spelled base :=
  ⟨(spelled_take h).token, (spelled_take h).forms⟩

theorem spelled_run [Tables] (h : s.Spelled base) (cs : List Char) :
    (s.run rep cs).Spelled base := by
  induction cs generalizing s with
  | nil => exact h
  | cons c cs ih => exact ih (spelled_step h)

theorem spelled_endToken (h : s.Spelled base) : s.endToken.Spelled base := by
  have ends := ends_endToken s
  generalize s.endToken = s' at ends
  cases ends with
  | stays => exact h
  | means hv => exact spelled_finish h (h.token.isSpelled hv)
  | endsBadly bad => exact ⟨h.token.endsBadly bad, h.forms⟩
  | isCut cut =>
    refine ⟨?_, h.forms⟩
    generalize s.token = t at cut
    cases cut <;> simp [Token.Spelled]

theorem spelled_of_none (h : s.token = .none) : s.Spelled s.forms :=
  ⟨by simp [h, Token.Spelled], fun _ => .inl⟩

/-- Whatever is read, there is no invalid number to complain about. -/
theorem not_invalidNumber [Tables] (h : s.token = .none) (cs : List Char) {f : Fault}
    {start : Position} (hfault : (s.run rep cs).outcome.fault = some (f, start)) (text : String) :
    f.defect ≠ .invalidNumber text := by
  have ended : ((s.run rep cs).endToken).Spelled s.forms :=
    spelled_endToken (spelled_run (spelled_of_none h) cs)
  rcases fault_outcome_cases hfault with hfailed | rfl | ⟨d, rfl⟩
  · have htoken := ended.token
    rw [hfailed] at htoken
    exact htoken text
  · simp
  · simp

end State

/-- A regular expression that has been read has a pattern that compiles and consists of units. -/
theorem spelled_of_read [Tables] {rep : Representation} {text : String} {forms : List Value}
    (h : read rep text = .ok forms) : ∀ v ∈ forms, IsSpelled v := by
  have start : State.Spelled [] {} := State.spelled_of_none (s := {}) rfl
  have ended : (State.run rep {} text.toList).endToken.Spelled [] :=
    State.spelled_endToken (State.spelled_run start _)
  intro v hv
  rw [← List.mem_reverse, ← forms_of_read h] at hv
  obtain ⟨l, hl, rfl⟩ := List.mem_map.1 hv
  exact (ended.forms l hl).resolve_left (by simp)

end Lisp.Reader
