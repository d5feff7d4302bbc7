import Lisp.Proofs.Reader.Delivery
import Lisp.Proofs.Reader.Spelling

/-!
# How a number is read

A text that begins with a digit, or with a sign and a digit, is taken for a number. The reader goes
through the longest run of digits, points, underscores and commas behind the sign, and there are
three ways on from there. A second point in the run is misplaced, and so is another sign directly
behind the run of a signed number. In all other cases the reader delivers one number and goes on
behind the run. The number is that of the sign, the digits and the point; underscores and commas
only divide them, wherever they stand.

## Main definitions

* `Reader.NumberText` — a text that begins with a number, cut into sign, run and rest
* `Reader.NumberText.cut` — every text that begins like a number as such
* `Reader.NumberText.value` — the number that it begins with
* `Reader.State.TakesNumber` — the three ways in which the reader goes on

## Main results

* `Reader.NumberText.value_of_numeral` — separators do not matter for the number
* `Reader.State.run_number` — what a run of number characters does to a number
* `Reader.State.takesNumber` — there are these three ways
* `Reader.reads_number` — the grammar of numbers, for all texts
-/

namespace Lisp.Reader

open Number (IsSign IsNumeral decimalOf)

/-- The characters of signs. -/
def isSignChar (c : Char) : Bool := c = '-' || c = '+'

/-- The characters that a number goes on with. -/
def isNumberChar (c : Char) : Bool := c.isDigit || c = '.' || c = '_' || c = ','

/-- Underscores and commas only divide the digits of a number. -/
def isFiller (c : Char) : Bool := c = '_' || c = ','

/-- The characters of a number without those that only divide them. -/
def withoutFillers (cs : List Char) : List Char := cs.filter fun c => !isFiller c

section Characters

variable {c : Char} {cs : List Char}

theorem isFiller_of_isDigit (h : c.isDigit = true) : isFiller c = false := by
  have h₁ : c ≠ '_' := ne_of_class h (by decide)
  have h₂ : c ≠ ',' := ne_of_class h (by decide)
  simp [isFiller, h₁, h₂]

theorem isSignChar_of_isNumberChar (h : isNumberChar c = true) : isSignChar c = false := by
  have h₁ : c ≠ '-' := ne_of_class h (by decide)
  have h₂ : c ≠ '+' := ne_of_class h (by decide)
  simp [isSignChar, h₁, h₂]

theorem count_withoutFillers (cs : List Char) : (withoutFillers cs).count '.' = cs.count '.' :=
  List.count_filter rfl

theorem dropWhile_withoutFillers (cs : List Char) :
    (withoutFillers cs).dropWhile (· ≠ '.') = withoutFillers (cs.dropWhile (· ≠ '.')) := by
  induction cs with
  | nil => rfl
  | cons c cs ih =>
    by_cases hpoint : c = '.'
    · subst hpoint
      rfl
    · by_cases hfiller : isFiller c = true
      · simpa [withoutFillers, hfiller, hpoint] using ih
      · simpa [withoutFillers, hfiller, hpoint] using ih

/-- The place of a point, by the number of points before it. -/
theorem exists_point {n : Nat} (h : n < cs.count '.') :
    ∃ before after, cs = before ++ '.' :: after ∧ before.count '.' = n := by
  induction cs generalizing n with
  | nil => simp at h
  | cons c cs ih =>
    by_cases hpoint : c = '.'
    · subst hpoint
      rw [List.count_cons_self] at h
      cases n with
      | zero => exact ⟨[], cs, rfl, rfl⟩
      | succ n =>
        obtain ⟨before, after, rfl, hcount⟩ := ih (Nat.lt_of_succ_lt_succ h)
        exact ⟨'.' :: before, after, rfl, by simp [hcount]⟩
    · obtain ⟨before, after, rfl, hcount⟩ := ih (by simpa [List.count_cons, hpoint] using h)
      exact ⟨c :: before, after, rfl, by simp [hpoint, hcount]⟩

/-- What divides digits does not count for what they denote. -/
theorem decimalOf_withoutFillers (cs : List Char) :
    decimalOf (withoutFillers cs) = decimalOf cs := by
  have digits : ∀ c : Char, (c.isDigit && !isFiller c) = c.isDigit := by
    intro c
    by_cases hc : c.isDigit = true
    · simp [hc, isFiller_of_isDigit hc]
    · simp [hc]
  have hcount (ds : List Char) :
      (withoutFillers ds).countP Char.isDigit = ds.countP Char.isDigit := by
    simp only [withoutFillers, List.countP_filter, digits]
  unfold decimalOf
  rw [dropWhile_withoutFillers, hcount]
  simp only [withoutFillers, List.filter_filter, digits]

/-- A text that begins like a number begins with an optional sign and a digit. -/
theorem exists_sign_of_startsNumber (h : startsNumber cs = true) :
    ∃ sign c rest, IsSign sign ∧ c.isDigit = true ∧ cs = sign ++ c :: rest := by
  cases cs with
  | nil => cases h
  | cons c cs =>
    simp only [startsNumber, Bool.or_eq_true, Bool.and_eq_true, decide_eq_true_eq] at h
    rcases h with hc | ⟨hsign, hhead⟩
    · exact ⟨[], c, cs, .inl rfl, hc, rfl⟩
    · cases cs with
      | nil => simp at hhead
      | cons d ds =>
        refine ⟨[c], d, ds, ?_, by simpa using hhead, rfl⟩
        rcases hsign with rfl | rfl
        · exact .inr (.inl rfl)
        · exact .inr (.inr rfl)

theorem cut_sign {sign rest : List Char} (hsign : IsSign sign) (hc : c.isDigit = true) :
    (sign ++ c :: rest).takeWhile isSignChar = sign ∧
      (sign ++ c :: rest).dropWhile isSignChar = c :: rest := by
  have hnumber : isNumberChar c = true := by simp [isNumberChar, hc]
  have hother : isSignChar c = false := isSignChar_of_isNumberChar hnumber
  rcases hsign with rfl | rfl | rfl
  · simp [hother]
  · have hminus : isSignChar '-' = true := rfl
    simp [hother, hminus]
  · have hplus : isSignChar '+' = true := rfl
    simp [hother, hplus]

end Characters

/-- A text that begins with a number: an optional sign, the longest run of characters that a number
goes on with, which begins with a digit, and the rest. -/
structure NumberText where
  sign : List Char
  run : List Char
  rest : List Char
  isSign_sign : IsSign sign
  isDigit_head : run.head?.any Char.isDigit = true
  isNumberChar_run : ∀ c ∈ run, isNumberChar c = true
  isNumberChar_rest : ∀ c ∈ rest.head?, isNumberChar c = false

namespace NumberText

/-- The whole text. -/
def chars (t : NumberText) : List Char := t.sign ++ (t.run ++ t.rest)

/-- How many points are in the run. -/
def points (t : NumberText) : Nat := t.run.count '.'

/-- The digits and points of the run, without what divides them. -/
def numeral (t : NumberText) : List Char := withoutFillers t.run

/-- The double nearest to what the digits before and behind the point denote. -/
def value (t : NumberText) : Number := (decimalOf t.run).toNumber (t.sign = ['-'])

/-- Every text that begins like a number can be cut. -/
def cut (cs : List Char) (h : startsNumber cs = true) : NumberText where
  sign := cs.takeWhile isSignChar
  run := (cs.dropWhile isSignChar).takeWhile isNumberChar
  rest := (cs.dropWhile isSignChar).dropWhile isNumberChar
  isSign_sign := by
    obtain ⟨sign, c, rest, hsign, hc, rfl⟩ := exists_sign_of_startsNumber h
    rwa [(cut_sign hsign hc).1]
  isDigit_head := by
    obtain ⟨sign, c, rest, hsign, hc, rfl⟩ := exists_sign_of_startsNumber h
    have hnumber : isNumberChar c = true := by simp [isNumberChar, hc]
    simp [(cut_sign hsign hc).2, hnumber, hc]
  isNumberChar_run c hc := List.mem_takeWhile_imp hc
  isNumberChar_rest c hc := by
    have := List.head?_dropWhile_not isNumberChar (cs.dropWhile isSignChar)
    simpa [Option.mem_def.1 hc] using this

theorem chars_cut (cs : List Char) (h : startsNumber cs = true) : (cut cs h).chars = cs := by
  simp [chars, cut, List.takeWhile_append_dropWhile]

variable (t : NumberText)

theorem isNumeral_numeral (h : t.points ≤ 1) : IsNumeral t.numeral := by
  have points : t.numeral.count '.' = t.points := count_withoutFillers t.run
  refine ⟨?_, fun c hc => ?_, points ▸ h⟩
  · obtain ⟨c, more, hrun⟩ : ∃ c more, t.run = c :: more :=
      List.exists_cons_of_ne_nil fun hnil => by simpa [hnil] using t.isDigit_head
    have hc : c.isDigit = true := by simpa [hrun] using t.isDigit_head
    simp [numeral, withoutFillers, hrun, isFiller_of_isDigit hc, hc]
  · obtain ⟨hmem, hfiller⟩ := List.mem_filter.1 hc
    have hnumber := t.isNumberChar_run c hmem
    simp only [isFiller, Bool.not_eq_true', Bool.or_eq_false_iff, decide_eq_false_iff_not]
      at hfiller
    simpa [isNumberChar, hfiller.1, hfiller.2] using hnumber

/-- The number is what the parser of numerals makes of the sign and the numeral. -/
theorem parseChars?_numeral (h : t.points ≤ 1) :
    Number.parseChars? (t.sign ++ t.numeral) = some t.value := by
  rw [Number.parseChars?_of_isNumeral t.isSign_sign (t.isNumeral_numeral h)]
  simp only [value, numeral, decimalOf_withoutFillers]

/-- Neither the number nor what is misplaced in it depends on what divides its digits. -/
theorem value_of_numeral {t u : NumberText} (hsign : u.sign = t.sign)
    (hnumeral : u.numeral = t.numeral) : u.points = t.points ∧ u.value = t.value := by
  have points : ∀ v : NumberText, v.points = v.numeral.count '.' :=
    fun v => (count_withoutFillers v.run).symm
  have decimal : ∀ v : NumberText, decimalOf v.run = decimalOf v.numeral :=
    fun v => (decimalOf_withoutFillers v.run).symm
  refine ⟨by rw [points, points, hnumeral], ?_⟩
  rw [value, value, decimal, decimal, hnumeral, hsign]

end NumberText

namespace State

variable {rep : Representation} {s : State} {c : Char} {cs sign : List Char}

/-! ### Runs of a number -/

/-- What one more character does to a number: a digit or the first point goes to it, and what
divides digits is passed over. -/
theorem take_number [Tables] {signed point : Bool} {chars : List Char}
    (h : s.token = .number signed point chars) (hc : isNumberChar c = true)
    (hpoint : c = '.' → point = false) :
    s.take rep c =
      { s with token := .number signed (point || c = '.') (withoutFillers [c] ++ chars) } := by
  have hsign := isSignChar_of_isNumberChar hc
  simp only [isSignChar, Bool.or_eq_false_iff, decide_eq_false_iff_not] at hsign
  simp only [isNumberChar, Bool.or_eq_true, decide_eq_true_eq, or_assoc] at hc
  have hs : { s with token := .number signed point chars } = s := by rw [← h]
  rcases hc with hdigit | rfl | rfl | rfl
  · have hne : c ≠ '.' := ne_of_class hdigit (by decide)
    simp [take, h, inNumber, hne, hsign, hdigit, withoutFillers, isFiller_of_isDigit hdigit]
  · have hfiller : isFiller '.' = false := rfl
    simp [take, h, inNumber, hpoint rfl, withoutFillers, hfiller]
  · have hfiller : isFiller '_' = true := rfl
    have hother : '_'.isDigit = false := by decide
    simp [take, h, inNumber, withoutFillers, hfiller, hother, hs]
  · have hfiller : isFiller ',' = true := rfl
    have hother : ','.isDigit = false := by decide
    simp [take, h, inNumber, withoutFillers, hfiller, hother, hs]

/-- What a run of number characters does to a number, as long as there is no second point. -/
theorem run_number [Tables] {signed point : Bool} {chars : List Char}
    (h : s.token = .number signed point chars) (hcs : ∀ c ∈ cs, isNumberChar c = true)
    (hpoints : cs.count '.' + point.toNat ≤ 1) :
    s.run rep cs = { s with
      token := .number signed (point || cs.contains '.') ((withoutFillers cs).reverse ++ chars)
      position := s.position.after cs } := by
  induction cs generalizing s point chars with
  | nil => simp [withoutFillers, ← h, Text.Position.after]
  | cons c cs ih =>
    rw [List.forall_mem_cons] at hcs
    have hpoint : c = '.' → point = false := by
      rintro rfl
      rw [List.count_cons_self] at hpoints
      cases point with
      | false => rfl
      | true => simp at hpoints
    have hstep : s.step rep c = { s with
        token := .number signed (point || c = '.') (withoutFillers [c] ++ chars)
        position := s.position.advance c } := by
      unfold step
      rw [take_number h hcs.1 hpoint]
    have hpoints' : cs.count '.' + (point || decide (c = '.')).toNat ≤ 1 := by
      by_cases hdot : c = '.'
      · subst hdot
        obtain rfl := hpoint rfl
        simpa [List.count_cons_self] using hpoints
      · simpa [List.count_cons, hdot] using hpoints
    have hcontains : (point || decide (c = '.') || cs.contains '.') =
        (point || (c :: cs).contains '.') := by
      by_cases hdot : c = '.'
      · simp [hdot]
      · have hdot' : '.' ≠ c := Ne.symm hdot
        simp [hdot, hdot']
    have htext : (withoutFillers cs).reverse ++ (withoutFillers [c] ++ chars) =
        (withoutFillers (c :: cs)).reverse ++ chars := by
      by_cases hfiller : isFiller c = true <;> simp [withoutFillers, hfiller]
    rw [run_cons, hstep, ih rfl hcs.2 hpoints', hcontains, htext]
    rfl

/-- A sign and a digit begin a number. -/
theorem run_sign_digit [Tables] (idle : s.token = .none) (hsign : IsSign sign)
    (hc : c.isDigit = true) :
    s.run rep (sign ++ [c]) = { s.begin (.number (sign ≠ []) false (c :: sign)) with
      position := s.position.after (sign ++ [c]) } := by
  have behind : ∀ d, d = '-' ∨ d = '+' → s.run rep [d, c] =
      { s.begin (.number true false [c, d]) with position := s.position.after [d, c] } := by
    intro d hd
    have hstep : s.step rep d =
        { s.begin (.sign d) with position := s.position.advance d } := by
      rw [step_of_none idle, fresh_sign rep hd]
    rw [run_cons, hstep]
    simp [step, take, begin, hc, Text.Position.after]
  rcases hsign with rfl | rfl | rfl
  · rw [List.nil_append, run_cons, run_nil, step_of_none idle, fresh_digit rep hc]
    rfl
  · exact behind '-' (.inl rfl)
  · exact behind '+' (.inr rfl)

/-- The state behind a sign and a run with at most one point. -/
theorem run_sign_number [Tables] (idle : s.token = .none) (hsign : IsSign sign)
    (hhead : cs.head?.any Char.isDigit = true) (hcs : ∀ c ∈ cs, isNumberChar c = true)
    (hpoints : cs.count '.' ≤ 1) :
    s.run rep (sign ++ cs) = { s.begin
        (.number (sign ≠ []) (cs.contains '.') (sign ++ withoutFillers cs).reverse) with
      position := s.position.after (sign ++ cs) } := by
  obtain ⟨c, cs, rfl⟩ : ∃ c more, cs = c :: more :=
    List.exists_cons_of_ne_nil fun hnil => by simp [hnil] at hhead
  have hc : c.isDigit = true := by simpa using hhead
  have hne : c ≠ '.' := ne_of_class hc (by decide)
  have hreverse : sign.reverse = sign := by
    rcases hsign with rfl | rfl | rfl <;> rfl
  have hcontains : (c :: cs).contains '.' = cs.contains '.' := by
    simp [hne.symm]
  have htext : (sign ++ withoutFillers (c :: cs)).reverse =
      (withoutFillers cs).reverse ++ (c :: sign) := by
    simp [withoutFillers, isFiller_of_isDigit hc, hreverse]
  have hpoints' : cs.count '.' + false.toNat ≤ 1 := by
    simpa [List.count_cons, hne] using hpoints
  have hsplit : sign ++ c :: cs = sign ++ [c] ++ cs := by simp
  rw [hsplit, run_append, run_sign_digit idle hsign hc,
    run_number rfl (List.forall_mem_cons.1 hcs).2 hpoints', ← hsplit, hcontains, htext]
  simp [begin, Text.Position.after]

/-- The outcome when a character is misplaced in the number that the characters before it begin. -/
def misplaced (s : State) (c : Char) (before : List Char) : Reading where
  forms := s.forms.reverse
  fault := some (⟨.misplaced c, s.position.after before⟩, (s.begin .none).start)

/-- A character that is misplaced in a number ends the reading there. -/
theorem outcome_misplaced [Tables] {t : State} {signed point : Bool} {chars : List Char}
    {before : List Char}
    (ht : t = { s.begin (.number signed point chars) with position := s.position.after before })
    (htake : t.take rep c = t.fail (.misplaced c) t.position) (rest : List Char) :
    (t.run rep (c :: rest)).outcome = s.misplaced c before := by
  have hstep : (t.step rep c).token = .failed ⟨.misplaced c, t.position⟩ := by
    unfold step
    rw [htake]
    rfl
  have hforms : (t.step rep c).forms = t.forms ∧ (t.step rep c).start = t.start := by
    unfold step
    rw [htake]
    exact ⟨rfl, rfl⟩
  rw [run_cons, outcome_run_of_failed hstep, hforms.1, hforms.2, ht]
  rfl

/-! ### The three ways behind a number -/

/-- The three ways in which the reader goes on at a text that begins with a number. -/
structure TakesNumber [Tables] (rep : Representation) (s : State) (t : NumberText) : Prop where
  /-- A second point in the run is misplaced. -/
  point : 2 ≤ t.points → ∃ before after, t.run = before ++ '.' :: after ∧ before.count '.' = 1 ∧
    (s.run rep t.chars).outcome = s.misplaced '.' (t.sign ++ before)
  /-- A sign directly behind the run of a signed number is misplaced. -/
  sign : t.points ≤ 1 → t.sign ≠ [] → ∀ c rest, t.rest = c :: rest → isSignChar c = true →
    (s.run rep t.chars).outcome = s.misplaced c (t.sign ++ t.run)
  /-- In all other cases the number is delivered and the rest is read. -/
  number : t.points ≤ 1 → (t.sign = [] ∨ ∀ c ∈ t.rest.head?, isSignChar c = false) →
    (s.run rep t.chars).outcome =
      (({ s.begin .none with position := s.position.after (t.sign ++ t.run) }.finish
        (.number t.value)).run rep t.rest).outcome

/-- A number that ends is delivered, and the next character is taken as if none were being read. -/
theorem outcome_number [Tables] {t : State} {n : Number} {signed point : Bool} {chars : List Char}
    (h : t.token = .number signed point chars)
    (hn : Number.parseChars? chars.reverse = some n)
    (hcs : ∀ c ∈ cs.head?, isNumberChar c = false ∧ (signed = true → isSignChar c = false)) :
    (t.run rep cs).outcome = ((t.finish (.number n)).run rep cs).outcome := by
  have hfinish : t.finishNumber chars = t.finish (.number n) := by
    simp only [finishNumber, hn]
  have htoken : (t.finish (.number n)).token = .none := finish_token
  cases cs with
  | nil =>
    have hend : t.endToken = t.finish (.number n) := by simp only [endToken, h, hfinish]
    have hend' : (t.finish (.number n)).endToken = t.finish (.number n) := by
      simp only [endToken, htoken]
    simp only [run_nil, outcome, hend, hend']
  | cons c cs =>
    obtain ⟨hnumber, hsign⟩ := hcs c rfl
    simp only [isNumberChar, Bool.or_eq_false_iff, decide_eq_false_iff_not, and_assoc] at hnumber
    obtain ⟨hdigit, hpoint, hunder, hcomma⟩ := hnumber
    have hsigned : (signed && (decide (c = '-') || decide (c = '+'))) = false := by
      cases signed with
      | false => rfl
      | true => simpa [isSignChar] using hsign rfl
    have htake : t.take rep c = (t.finish (.number n)).fresh rep c := by
      simp only [take, h, inNumber, hpoint, hsigned, hdigit, hunder, hcomma, decide_false,
        Bool.or_self, Bool.false_eq_true, if_false, hfinish, resume, htoken]
    have hstep : t.step rep c = (t.finish (.number n)).step rep c := by
      rw [step_of_none htoken, finish_position]
      unfold step
      rw [htake]
    rw [run_cons, run_cons, hstep]

/-- The state behind any part of the run up to a second point. -/
theorem run_part [Tables] (rep : Representation) (idle : s.token = .none) (t : NumberText)
    {part more : List Char} (hrun : t.run = part ++ more)
    (hhead : part.head?.any Char.isDigit = true) (hpoints : part.count '.' ≤ 1) :
    s.run rep (t.sign ++ part) = { s.begin (.number (t.sign ≠ []) (part.contains '.')
      (t.sign ++ withoutFillers part).reverse) with
      position := s.position.after (t.sign ++ part) } := by
  refine run_sign_number idle t.isSign_sign hhead (fun c hc => ?_) hpoints
  exact t.isNumberChar_run c (hrun ▸ List.mem_append_left _ hc)

/-- The state behind a run without a second point. -/
theorem run_whole [Tables] (rep : Representation) (idle : s.token = .none) (t : NumberText)
    (hpoints : t.points ≤ 1) : s.run rep (t.sign ++ t.run) = { s.begin
      (.number (t.sign ≠ []) (t.run.contains '.') (t.sign ++ t.numeral).reverse) with
      position := s.position.after (t.sign ++ t.run) } :=
  run_part rep idle t (List.append_nil _).symm t.isDigit_head hpoints

/-- A number text is taken in one of these three ways. -/
theorem takesNumber [Tables] (rep : Representation) (idle : s.token = .none) (t : NumberText) :
    s.TakesNumber rep t where
  point hpoints := by
    obtain ⟨before, after, hrun, hcount⟩ := exists_point hpoints
    refine ⟨before, after, hrun, hcount, ?_⟩
    have hhead : before.head?.any Char.isDigit = true := by
      have hpoint : '.'.isDigit = false := by decide
      have hhead := t.isDigit_head
      rw [hrun] at hhead
      cases before with
      | nil => simp [hpoint] at hhead
      | cons c cs => exact hhead
    have hcontains : before.contains '.' = true := by
      rw [List.contains_iff_mem]
      exact List.count_pos_iff.1 (by omega)
    have hstate := run_part rep idle t hrun hhead hcount.le
    have hchars : t.chars = (t.sign ++ before) ++ '.' :: (after ++ t.rest) := by
      simp [NumberText.chars, hrun]
    rw [hchars, run_append]
    refine outcome_misplaced hstate ?_ _
    rw [hstate, hcontains]
    rfl
  sign hpoints hsign c rest hrest hc := by
    have hstate := run_whole rep idle t hpoints
    have hchars : t.chars = (t.sign ++ t.run) ++ c :: rest := by
      simp [NumberText.chars, hrest]
    rw [hchars, run_append]
    refine outcome_misplaced hstate ?_ _
    rw [hstate]
    simp only [isSignChar, Bool.or_eq_true, decide_eq_true_eq] at hc
    rcases hc with rfl | rfl <;> simp [take, begin, inNumber, hsign]
  number hpoints hother := by
    have hstate := run_whole rep idle t hpoints
    have hchars : t.chars = (t.sign ++ t.run) ++ t.rest := by
      simp [NumberText.chars]
    rw [hchars, run_append]
    refine (outcome_number (n := t.value) (by rw [hstate]; rfl) ?_ ?_).trans ?_
    · rw [List.reverse_reverse]
      exact t.parseChars?_numeral hpoints
    · intro c hc
      refine ⟨t.isNumberChar_rest c hc, fun hsigned => ?_⟩
      exact hother.resolve_left (by simpa using hsigned) c hc
    · -- finishing the number forgets the token
      rw [hstate]
      rfl

end State

/-- The grammar of numbers. A text that begins like a number is a sign, the longest run of digits,
points and separators, and a rest. The reader goes on in one of three ways: it fails at a second
point in the run or at a sign directly behind the run of a signed number, and otherwise it delivers
one number. This is the number that the sign and the numeral denote, so that it does not depend on
the separators; and there is never an invalid number. -/
theorem reads_number [Tables] (rep : Representation) {s : State} (idle : s.token = .none)
    {cs : List Char} (h : startsNumber cs = true) :
    let t := NumberText.cut cs h
    t.chars = cs ∧ s.TakesNumber rep t ∧
      (t.points ≤ 1 → Number.parseChars? (t.sign ++ t.numeral) = some t.value) ∧
      (∀ u : NumberText, u.sign = t.sign → u.numeral = t.numeral →
        u.points = t.points ∧ u.value = t.value) ∧
      ∀ f start, (s.run rep cs).outcome.fault = some (f, start) →
        ∀ text, f.defect ≠ .invalidNumber text := by
  intro t
  exact ⟨NumberText.chars_cut cs h, State.takesNumber rep idle t, t.parseChars?_numeral,
    fun u hsign hnumeral => NumberText.value_of_numeral hsign hnumeral,
    fun f start hfault => State.not_invalidNumber idle cs hfault⟩

/-- Separators may stand beside the point, twice in a row and at the end. -/
theorem reads_number_separated :
    let t := NumberText.cut "-1_,0,.5_ 2".toList (by decide)
    t.sign = ['-'] ∧ t.run = "1_,0,.5_".toList ∧ t.numeral = "10.5".toList ∧
      t.value = ⟨0xC025000000000000⟩ ∧
      (readAll .native "-1_,0,.5_ 2").forms =
        [⟨.number ⟨0xC025000000000000⟩, ⟨1, 0⟩⟩, ⟨.number ⟨0x4000000000000000⟩, ⟨1, 10⟩⟩] := by
  intro t
  obtain ⟨-, takes, -⟩ :=
    reads_number .native (s := {}) rfl (show startsNumber "-1_,0,.5_ 2".toList = true by decide)
  have hvalue : t.value = ⟨0xC025000000000000⟩ := by decide +kernel
  have hrest : t.rest = [' ', '2'] := rfl
  have separated : ∀ c ∈ t.rest.head?, isSignChar c = false := by
    rw [hrest]
    rintro c ⟨⟩
    rfl
  have outcome := takes.number (by decide) (.inr separated)
  refine ⟨rfl, rfl, rfl, hvalue, ?_⟩
  refine (congrArg Reading.forms outcome).trans ?_
  rw [show (NumberText.cut _ _).value = _ from hvalue]
  rfl

end Lisp.Reader
