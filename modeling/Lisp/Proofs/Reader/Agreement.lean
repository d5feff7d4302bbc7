import Lisp.Proofs.Reader.Descent

/-!
# The two ways of reading agree

The automaton and the procedures that read by descent come to the same. While a procedure is in one
of its loops the automaton has a token that says which, and what the procedure has collected; the
calls that wait for a form within a form are what is pending. So where a procedure begins, the
automaton goes on as it does from where the procedure ends, with the form finished, and it fails as
the procedure does.

## Main definitions

* `Reader.State.readFrom` — what comes of a state and the rest of a text
* `Reader.State.pursue` — what comes of it if something is read by descent first
* `Reader.State.Awaits` — a state and a cursor between which a form is to be read

## Main results

* `Reader.State.readFrom_string`, `Reader.State.readFrom_number` and the like — tokens
* `Reader.State.readFrom_group` — bracketed forms
* `Reader.State.readFrom_form` — forms
* `Reader.State.readFrom_top` — the next top-level form
-/

namespace Lisp.Reader.State

open Text (Cursor Position)

variable {rep : Representation} {s : State} {c : Cursor} {x : Char} {n : Nat} {α : Type}

/-! ### From a place on -/

/-- A state that stands at a place. -/
def atPlace (s : State) (p : Position) : State := { s with position := p }

theorem atPlace_of_position {p : Position} (h : s.position = p) : s.atPlace p = s := by
  subst h
  rfl

/-- A state that is reading a token. -/
def inside (s : State) (t : Token) : State := { s with token := t }

theorem inside_none (h : s.token = .none) : s.inside .none = s := by
  unfold inside
  rw [← h]

variable [Tables]

/-- What comes of a state and the rest of a text. -/
def readFrom (rep : Representation) (s : State) (c : Cursor) : Reading :=
  ((s.atPlace c.position).run rep c.rest).outcome

theorem readFrom_next (h : c.peek = some x) :
    s.readFrom rep c = ((s.atPlace c.position).take rep x).readFrom rep c.next.2 := by
  obtain ⟨rest, p⟩ := c
  cases rest with
  | nil => cases h
  | cons y rest =>
    cases h
    rfl

omit [Tables] in
theorem position_next (h : c.peek = some x) : c.next.2.position = c.position.advance x := by
  obtain ⟨rest, p⟩ := c
  cases rest with
  | nil => cases h
  | cons y rest =>
    cases h
    rfl

omit [Tables] in
theorem peek_next (c : Cursor) : c.next.2.peek = c.peekAhead := by
  obtain ⟨rest, p⟩ := c
  cases rest with
  | nil => rfl
  | cons x rest => rfl

theorem readFrom_of_take (rep : Representation) (r : State) (h : c.peek = some x)
    (next : (s.atPlace c.position).take rep x = r.atPlace c.position) :
    s.readFrom rep c = r.readFrom rep c.next.2 := by
  rw [readFrom_next h, next]
  rfl

theorem readFrom_end (h : c.peek = none) : s.readFrom rep c = (s.atPlace c.position).outcome := by
  obtain ⟨rest, p⟩ := c
  cases rest with
  | nil => rfl
  | cons y rest => cases h

/-- A fault, with what has been read before. -/
def stopped (s : State) (f : Fault) : Reading := ⟨s.forms.reverse, some (f, s.start)⟩

theorem readFrom_fail (d : Defect) (p : Position) :
    (s.fail d p).readFrom rep c = s.stopped ⟨d, p⟩ :=
  outcome_run_of_failed (f := ⟨d, p⟩) rfl c.rest

/-- What comes of a state if something is read by descent first. -/
def pursue (s : State) (r : Except Fault (Taken n α)) (go : Taken n α → Reading) : Reading :=
  match r with
  | .ok t => go t
  | .error f => s.stopped f

omit [Tables] in
theorem pursue_rebound {m : Nat} (r : Except Fault (Taken n α))
    (h : ∀ t, r = .ok t → t.cursor.left < m) (go : α → Cursor → Reading) :
    s.pursue (rebound r h) (fun t => go t.value t.cursor) =
      s.pursue r fun t => go t.value t.cursor := by
  cases r with
  | ok t => rfl
  | error f => rfl

/-- The form that is read by descent is finished. -/
def proceed (rep : Representation) (s : State) (r : Except Fault (Taken n Value)) : Reading :=
  s.pursue r fun t => (s.finish t.value).readFrom rep t.cursor

/-! ### Ends of tokens -/

omit [Tables] in
theorem finish_atPlace (v : Value) (p : Position) :
    (s.atPlace p).finish v = (s.finish v).atPlace p := by
  unfold finish atPlace
  dsimp only
  split <;> rfl

omit [Tables] in
theorem IsEnded.endToken_eq (h : s.IsEnded) : s.endToken = s := by
  rcases h with h | ⟨f, h⟩
  · rw [endToken, h]
  · rw [endToken, h]

theorem IsEnded.resume_eq_take (h : s.IsEnded) (x : Char) : s.resume rep x = s.take rep x := by
  rcases h with h | ⟨f, h⟩
  · rw [resume, h, take, h]
  · rw [resume, h, take, h]

/-- If the next character is taken as if the token had ended before it, it might as well have. -/
theorem readFrom_of_ended {e : State} (ended : e.IsEnded)
    (last : (s.atPlace c.position).endToken = e.atPlace c.position)
    (next : ∀ x, c.peek = some x →
      (s.atPlace c.position).take rep x = (e.atPlace c.position).resume rep x) :
    s.readFrom rep c = e.readFrom rep c := by
  have there : (e.atPlace c.position).IsEnded := ended
  cases h : c.peek with
  | none =>
    rw [readFrom_end h, readFrom_end h]
    unfold outcome
    rw [last, there.endToken_eq]
  | some x => rw [readFrom_next h, readFrom_next h, next x h, there.resume_eq_take]

/-! ### Blanks -/

omit [Tables] in
/-- A comment at the end of the text is as good as nothing. -/
theorem outcome_comment (s : State) : (s.inside .comment).outcome = (s.inside .none).outcome := by
  obtain ⟨position, token, pending, start, forms⟩ := s
  rcases pending with _ | ⟨_ | _, pending⟩ <;> rfl

theorem readFrom_comment (t : Taken n Unit) :
    (s.inside .comment).readFrom rep t.cursor =
      (s.inside .none).readFrom rep (skipComment t).cursor := by
  refine eq_loop (F := fun t => (s.inside .comment).readFrom rep t.cursor)
    (G := fun b : Taken n Unit => (s.inside .none).readFrom rep b.cursor)
    advances_comment (fun t => ?_) t
  unfold commentRound
  cases hc : t.cursor.peek with
  | none =>
    refine (readFrom_end hc).trans (Eq.trans ?_ (readFrom_end hc).symm)
    exact outcome_comment (s.atPlace _)
  | some c =>
    by_cases newline : c = '\n'
    · simp only [newline, if_true]
      exact readFrom_of_take rep (s.inside .none) hc (if_pos newline)
    · simp only [newline, if_false]
      exact readFrom_of_take rep (s.inside .comment) hc (if_neg newline)

theorem take_of_none (hs : s.token = .none) (x : Char) : s.take rep x = s.fresh rep x := by
  rw [take, hs]

theorem readFrom_fresh (hs : s.token = .none) (h : c.peek = some x) :
    s.readFrom rep c = ((s.atPlace c.position).fresh rep x).readFrom rep c.next.2 := by
  rw [readFrom_next h, take_of_none (s := s.atPlace c.position) hs]

theorem readFrom_blank (rep : Representation) (hs : s.token = .none) (t : Taken n Unit) :
    s.readFrom rep t.cursor = s.readFrom rep (skipBlank t).cursor := by
  refine eq_loop (F := fun t => s.readFrom rep t.cursor)
    (G := fun b : Taken n Unit => s.readFrom rep b.cursor) advances_blank (fun t => ?_) t
  unfold blankRound
  cases hc : t.cursor.peek with
  | none => rfl
  | some c =>
    have fresh : (s.atPlace t.cursor.position).take rep c =
        (s.atPlace t.cursor.position).fresh rep c :=
      take_of_none (s := s.atPlace t.cursor.position) hs c
    by_cases separator : isSeparator c = true
    · simp only [separator, if_true]
      exact readFrom_of_take rep s hc (fresh.trans (if_pos separator))
    · by_cases semicolon : c = ';'
      · -- a comment has its semicolon for a character like the others
        subst semicolon
        have inner := readFrom_of_take rep (s := s.inside .comment) (s.inside .comment) hc rfl
        have outer := readFrom_of_take rep (s := s) (s.inside .comment) hc
          (fresh.trans rfl)
        rw [outer, ← inner, readFrom_comment, inside_none hs]
        rfl
      · simp only [separator, semicolon, if_false]
        rfl

/-! ### Words and numbers -/

/-- While a word goes on, the token goes on with it. -/
theorem readFrom_while (rep : Representation) {p : Char → Bool} (token : List Char → Token)
    (goes : ∀ (s : State) chars c, p c = true →
      (s.inside (token chars)).take rep c = s.inside (token (c :: chars)))
    (t : Taken n (List Char)) :
    (s.inside (token t.value)).readFrom rep t.cursor =
      (s.inside (token (readWhile p t).value)).readFrom rep (readWhile p t).cursor := by
  refine eq_loop (F := fun t => (s.inside (token t.value)).readFrom rep t.cursor)
    (G := fun b : Taken n (List Char) => (s.inside (token b.value)).readFrom rep b.cursor)
    (advances_while p) (fun t => ?_) t
  unfold whileRound
  cases hc : t.cursor.peek with
  | none => rfl
  | some c =>
    cases kind : p c with
    | true =>
      simp only [kind, if_true]
      exact readFrom_of_take rep (s.inside (token (c :: t.value))) hc
        (goes (s.atPlace t.cursor.position) t.value c kind)
    | false =>
      simp only [kind, Bool.false_eq_true, if_false]
      rfl

omit [Tables] in
/-- What follows on a word is none of its characters. -/
theorem peek_readWhile (p : Char → Bool) (t : Taken n (List Char)) :
    ∀ c, (readWhile p t).cursor.peek = some c → p c = false := by
  refine loop_induction (P := fun _ (b : Taken n (List Char)) =>
    ∀ c, b.cursor.peek = some c → p c = false) (advances_while p) ?_ (fun _ _ _ _ hb => hb) t
  intro t b h
  obtain ⟨rfl, other⟩ := whileRound_eq_done h
  exact other

theorem readFrom_symbol (t : Taken n Unit) :
    (s.inside (.symbol [])).readFrom rep t.cursor =
      (s.finish (readSymbol t).value).readFrom rep (readSymbol t).cursor := by
  have word := readFrom_while rep (s := s) (p := isSymbolChar) .symbol
    (fun s chars c kind => if_pos kind) (t.put [])
  have other := peek_readWhile isSymbolChar (t.put [])
  refine word.trans (readFrom_of_ended (isEnded_finish _) (finish_atPlace _ _) fun c hc => ?_)
  show (if isSymbolChar c then _ else (State.finish (s.atPlace _) _).resume rep c) = _
  rw [if_neg (by simp [other c hc]), finish_atPlace]
  rfl

theorem readFrom_name (auto : Bool) (t : Taken n (List Char)) :
    (s.inside (.keyword auto t.value)).readFrom rep t.cursor = s.proceed rep (readName auto t) := by
  have word := readFrom_while rep (s := s) (p := isSymbolChar) (.keyword auto)
    (fun s chars c kind => if_pos kind) t
  have other := peek_readWhile isSymbolChar t
  rw [word, readName]
  generalize readWhile isSymbolChar t = b at other
  -- the name ends here, with or without characters
  have ended : (s.inside (.keyword auto b.value)).readFrom rep b.cursor =
      ((s.atPlace b.cursor.position).finishKeyword auto b.value).readFrom rep b.cursor := by
    have place : ((s.atPlace b.cursor.position).finishKeyword auto b.value).atPlace
        b.cursor.position = (s.atPlace b.cursor.position).finishKeyword auto b.value :=
      atPlace_of_position (finishKeyword_position auto b.value)
    refine readFrom_of_ended (isEnded_finishKeyword auto b.value) place.symm fun c hc => ?_
    show (if isSymbolChar c then _ else (State.finishKeyword _ auto b.value).resume rep c) = _
    rw [if_neg (by simp [other c hc])]
    exact congrArg (State.resume rep · c) place.symm
  rw [ended, finishKeyword]
  split
  · exact readFrom_fail _ _
  · rw [finish_atPlace]
    rfl

theorem readFrom_keyword (t : Taken n Unit) :
    (s.inside .colon).readFrom rep t.cursor = s.proceed rep (readKeyword t) := by
  unfold readKeyword
  split
  · next colon =>
    exact (readFrom_of_take rep (s.inside (.keyword true [])) colon rfl).trans
      (readFrom_name true (t.pass []))
  · next other =>
    refine Eq.trans ?_ (readFrom_name false (t.put []))
    cases hc : t.cursor.peek with
    | none =>
      refine (readFrom_end hc).trans (Eq.trans ?_ (readFrom_end hc).symm)
      rfl
    | some c =>
      have notColon : c ≠ ':' := fun colon => other (by rw [hc, colon])
      rw [readFrom_next hc]
      refine Eq.trans ?_ (readFrom_next hc).symm
      show (if c = ':' then _ else _ : State).readFrom rep _ = _
      rw [if_neg notColon]
      rfl

/-- A number that ends at a cursor is finished there. -/
theorem readFrom_number_end (signed : Bool) {t : Taken n (Bool × List Char)}
    (other : ∀ c, t.cursor.peek = some c → ∀ s : State,
      (s.inside (.number signed t.value.1 t.value.2)).take rep c =
        (s.finishNumber t.value.2).resume rep c) :
    (s.inside (.number signed t.value.1 t.value.2)).readFrom rep t.cursor =
      s.proceed rep (decimalValue t) := by
  have place : ((s.atPlace t.cursor.position).finishNumber t.value.2).atPlace t.cursor.position =
      (s.atPlace t.cursor.position).finishNumber t.value.2 :=
    atPlace_of_position (finishNumber_position _)
  have ended : (s.inside (.number signed t.value.1 t.value.2)).readFrom rep t.cursor =
      ((s.atPlace t.cursor.position).finishNumber t.value.2).readFrom rep t.cursor := by
    refine readFrom_of_ended (isEnded_finishNumber t.value.2) place.symm fun c hc => ?_
    rw [place]
    exact other c hc (s.atPlace t.cursor.position)
  rw [ended, finishNumber, decimalValue]
  cases Number.parseChars? t.value.2.reverse with
  | some number =>
    show ((s.atPlace _).finish _).readFrom rep _ = _
    rw [finish_atPlace]
    rfl
  | none => exact readFrom_fail _ _

theorem readFrom_decimal (signed : Bool) (t : Taken n (Bool × List Char)) :
    (s.inside (.number signed t.value.1 t.value.2)).readFrom rep t.cursor =
      s.proceed rep ((readDecimal signed t).bind decimalValue) := by
  refine eq_loop (F := fun t : Taken n (Bool × List Char) =>
      (s.inside (.number signed t.value.1 t.value.2)).readFrom rep t.cursor)
    (G := fun r => s.proceed rep (r.bind decimalValue)) (advances_number signed) (fun t => ?_) t
  unfold numberRound
  cases hc : t.cursor.peek with
  | none => exact readFrom_number_end signed fun d hd => by simp [hc] at hd
  | some c =>
    have next : (s.inside (.number signed t.value.1 t.value.2)).readFrom rep t.cursor =
        (((s.inside (.number signed t.value.1 t.value.2)).atPlace t.cursor.position).inNumber rep
          signed t.value.1 t.value.2 c).readFrom rep t.cursor.next.2 := readFrom_next hc
    unfold inNumber at next
    dsimp only
    by_cases dot : c = '.'
    · rw [if_pos dot] at next ⊢
      cases point : t.value.1 with
      | true =>
        rw [point, if_pos rfl] at next
        rw [if_pos rfl, next]
        exact readFrom_fail _ _
      | false =>
        rw [point, if_neg Bool.false_ne_true] at next
        rw [if_neg Bool.false_ne_true, next]
        rfl
    rw [if_neg dot] at next ⊢
    by_cases sign : (signed && (c = '-' || c = '+')) = true
    · rw [if_pos sign] at next ⊢
      rw [next]
      exact readFrom_fail _ _
    rw [if_neg sign] at next ⊢
    by_cases digit : c.isDigit = true
    · rw [if_pos digit] at next ⊢
      rw [next]
      rfl
    rw [if_neg digit] at next ⊢
    by_cases separator : (c = '_' || c = ',') = true
    · rw [if_pos separator] at next ⊢
      rw [next]
      rfl
    rw [if_neg separator]
    clear next
    refine readFrom_number_end signed fun d hd s => ?_
    obtain rfl : c = d := Option.some.inj (hc.symm.trans hd)
    show State.inNumber rep _ signed t.value.1 t.value.2 c = _
    rw [inNumber, if_neg dot, if_neg sign, if_neg digit, if_neg separator]
    rfl

/-- A digit without a sign begins a number. -/
theorem readFrom_number_of_digit (t : Taken n Unit) {c : Char} (h : t.cursor.peek = some c)
    (digit : c.isDigit = true) :
    (s.inside (.number false false [c])).readFrom rep t.cursor.next.2 =
      s.proceed rep (readNumber t) := by
  have notDot : c ≠ '.' := ne_of_class digit (by decide)
  have noSign : ¬ (c = '-' ∨ c = '+') :=
    not_or.2 ⟨ne_of_class digit (by decide), ne_of_class digit (by decide)⟩
  unfold readNumber
  rw [h]
  dsimp only
  rw [if_neg noSign, ← readFrom_decimal false (t.put (false, []))]
  refine (readFrom_of_take rep (s.inside (.number false false [c])) h ?_).symm
  show State.inNumber rep _ false false [] c = _
  rw [inNumber, if_neg notDot, if_neg (by simp), if_pos digit]
  rfl

/-- A sign with a digit behind it begins a number. -/
theorem readFrom_number_of_sign (t : Taken n Unit) {c d : Char} (h : t.cursor.peek = some c)
    (sign : c = '-' ∨ c = '+') (hd : t.cursor.next.2.peek = some d) (digit : d.isDigit = true) :
    (s.inside (.sign c)).readFrom rep t.cursor.next.2 = s.proceed rep (readNumber t) := by
  have notDot : d ≠ '.' := ne_of_class digit (by decide)
  have noSign : ¬ (true && (d = '-' || d = '+')) = true := by
    simp [ne_of_class digit (show Char.isDigit '-' = false by decide),
      ne_of_class digit (show Char.isDigit '+' = false by decide)]
  unfold readNumber
  rw [h]
  dsimp only
  rw [if_pos sign, ← readFrom_decimal true (t.pass (false, [c]))]
  have left := readFrom_of_take rep (s := s.inside (.sign c))
    (s.inside (.number true false [d, c])) hd (if_pos digit)
  refine left.trans (readFrom_of_take rep (s.inside (.number true false [d, c])) hd ?_).symm
  show State.inNumber rep _ true false [c] d = _
  rw [inNumber, if_neg notDot, if_neg noSign, if_pos digit]
  rfl

/-- Any other sign begins a symbol, as every other character of symbols does. -/
theorem readFrom_symbol_of_char (t : Taken n Unit) {c : Char} (h : t.cursor.peek = some c)
    (hc : isSymbolChar c = true) :
    (s.inside (.symbol [c])).readFrom rep t.cursor.next.2 =
      (s.finish (readSymbol t).value).readFrom rep (readSymbol t).cursor := by
  rw [← readFrom_symbol]
  exact (readFrom_of_take rep (s := s.inside (.symbol [])) (s.inside (.symbol [c])) h
    (if_pos hc)).symm

theorem readFrom_sign {c : Char} {k : Cursor} (digitless : k.peek.any Char.isDigit = false) :
    (s.inside (.sign c)).readFrom rep k = (s.inside (.symbol [c])).readFrom rep k := by
  cases h : k.peek with
  | none =>
    refine (readFrom_end h).trans (Eq.trans ?_ (readFrom_end h).symm)
    rfl
  | some d =>
    have digitless : d.isDigit = false := by simpa [h] using digitless
    rw [readFrom_next h]
    refine Eq.trans ?_ (readFrom_next h).symm
    show (if d.isDigit then _ else _ : State).readFrom rep _ = _
    rw [if_neg (by simp [digitless])]
    rfl

/-! ### Strings and regular expressions -/

theorem readFrom_digits {missing : Nat} {digits : List Char} (t : Taken n (List Char))
    (some_missing : missing ≠ 0) (four : missing + digits.length = 4) :
    (s.inside (.unicode t.value digits)).readFrom rep t.cursor =
      s.pursue (readDigits missing digits t) fun t =>
        (s.inside (.string t.value)).readFrom rep t.cursor := by
  induction missing generalizing digits t with
  | zero => exact absurd rfl some_missing
  | succ missing ih =>
    rw [readDigits]
    cases hc : t.cursor.peek with
    | none =>
      rw [readFrom_end hc]
      rfl
    | some c =>
      have next : (s.inside (.unicode t.value digits)).readFrom rep t.cursor =
          (((s.inside (.unicode t.value digits)).atPlace t.cursor.position).inUnicode t.value
            digits c).readFrom rep t.cursor.next.2 := readFrom_next hc
      unfold inUnicode at next
      have length : (digits ++ [c]).length = digits.length + 1 := List.length_append
      dsimp only at next ⊢
      by_cases hex : isHexDigit c = true
      · rw [if_pos hex] at next ⊢
        rw [next]
        by_cases more : (digits ++ [c]).length < 4
        · rw [if_pos more]
          exact ih (t.pass t.value) (by omega) (by omega)
        · rw [if_neg more]
          obtain rfl : missing = 0 := by omega
          rw [readDigits]
          split
          · rfl
          · exact (readFrom_fail _ _).trans (congrArg (s.stopped ⟨_, ·⟩) (position_next hc).symm)
      · rw [if_neg hex] at next ⊢
        exact next.trans
          ((readFrom_fail _ _).trans (congrArg (s.stopped ⟨_, ·⟩) (position_next hc).symm))

theorem readFrom_escape (t : Taken n (List Char)) :
    (s.inside (.escape t.value)).readFrom rep t.cursor =
      s.pursue (readEscape t) fun t => (s.inside (.string t.value)).readFrom rep t.cursor := by
  unfold readEscape
  cases hc : t.cursor.peek with
  | none =>
    rw [readFrom_end hc]
    rfl
  | some c =>
    dsimp only
    by_cases unicode : c = 'u'
    · rw [if_pos unicode, ← readFrom_digits (t.pass t.value) (by decide) rfl]
      exact readFrom_of_take rep (s.inside (.unicode t.value [])) hc (if_pos unicode)
    · rw [if_neg unicode]
      exact readFrom_of_take rep (s.inside (.string (escaped c :: t.value))) hc (if_neg unicode)

theorem readFrom_string (t : Taken n Unit) :
    (s.inside (.string [])).readFrom rep t.cursor = s.proceed rep (readString t) := by
  refine (eq_loop (F := fun t : Taken n (List Char) =>
      (s.inside (.string t.value)).readFrom rep t.cursor)
    (G := fun r => s.proceed rep (r.map fun text =>
      text.put (.string (String.ofList text.value.reverse)))) advances_string (fun t => ?_)
    (t.put []))
  unfold stringRound
  cases hc : t.cursor.peek with
  | none =>
    dsimp only
    rw [readFrom_end hc]
    rfl
  | some c =>
    dsimp only
    by_cases quote : c = '"'
    · rw [if_pos quote]
      refine readFrom_of_take rep (s.finish (.string (String.ofList t.value.reverse))) hc ?_
      refine (if_pos quote).trans ?_
      exact finish_atPlace _ _
    rw [if_neg quote]
    by_cases backslash : c = '\\'
    · rw [if_pos backslash]
      have escape := readFrom_of_take rep (s := s.inside (.string t.value))
        (s.inside (.escape t.value)) hc ((if_neg quote).trans (if_pos backslash))
      rw [escape]
      refine (readFrom_escape (t.pass t.value)).trans ?_
      cases readEscape (t.pass t.value) with
      | ok t' => rfl
      | error f => rfl
    · rw [if_neg backslash]
      exact readFrom_of_take rep (s.inside (.string (c :: t.value))) hc
        ((if_neg quote).trans (if_neg backslash))

theorem readFrom_finishRegex (rep : Representation) (s : State) (p : Position)
    (t : Taken n (List Char)) :
    ((s.atPlace p).finishRegex t.value t.cursor.position).readFrom rep t.cursor =
      s.proceed rep (patternValue t) := by
  unfold finishRegex patternValue
  dsimp only
  cases Regex.parse (String.ofList t.value.reverse) with
  | ok _ =>
    dsimp only
    rw [finish_atPlace]
    rfl
  | error r => exact readFrom_fail _ _

theorem readFrom_regex (t : Taken n Unit) :
    (s.inside (.regex [])).readFrom rep t.cursor = s.proceed rep (readRegex t) := by
  refine (eq_loop (F := fun t : Taken n (List Char) =>
      (s.inside (.regex t.value)).readFrom rep t.cursor)
    (G := fun r => s.proceed rep (r.bind patternValue)) advances_regex (fun t => ?_) (t.put []))
  unfold regexRound
  cases hc : t.cursor.peek with
  | none =>
    dsimp only
    rw [readFrom_end hc]
    rfl
  | some c =>
    dsimp only
    by_cases quote : c = '"'
    · have finished := readFrom_finishRegex rep s t.cursor.position (t.pass t.value)
      rw [show (t.pass t.value).cursor.position = _ from position_next hc] at finished
      rw [if_pos quote, readFrom_next hc]
      refine Eq.trans ?_ finished
      exact congrArg (readFrom rep · _) (if_pos quote)
    rw [if_neg quote]
    by_cases backslash : c = '\\'
    · rw [if_pos backslash]
      have escape := readFrom_of_take rep (s := s.inside (.regex t.value))
        (s.inside (.regexEscape t.value)) hc ((if_neg quote).trans (if_pos backslash))
      rw [escape]
      cases hd : (t.pass t.value).cursor.peek with
      | none =>
        refine (readFrom_end hd).trans ?_
        rfl
      | some d => exact readFrom_of_take rep (s.inside (.regex _)) hd rfl
    · rw [if_neg backslash]
      exact readFrom_of_take rep (s.inside (.regex (c :: t.value))) hc
        ((if_neg quote).trans (if_neg backslash))

/-! ### Forms within forms -/

/-- A state in which a form begins at a place. At the top level the place is remembered. -/
def beginAt (s : State) (p : Position) : State :=
  { s with start := if s.pending.isEmpty then p else s.start }

/-- A state in which a form waits for more. -/
def opened (s : State) (p : Pending) : State := { s with pending := p :: s.pending }

omit [Tables] in
theorem beginAt_opened (p : Pending) (q : Position) : (s.opened p).beginAt q = s.opened p := rfl

omit [Tables] in
theorem finish_opened_group (hs : s.token = .none) (d : Delimiter) (vs : List Value) (v : Value) :
    (s.opened (.group d vs)).finish v = s.opened (.group d (v :: vs)) :=
  inside_none (s := s.opened (.group d (v :: vs))) hs

/-- Between forms, and the cursor is at no blank. Only a quote mark takes the end of the text or a
closing bracket for what it waits for. -/
structure Awaits (s : State) (c : Cursor) : Prop where
  fresh : s.token = .none
  notBlank : ∀ x, c.peek = some x → isSeparator x = false ∧ x ≠ ';'
  quoted : (∀ x, c.peek = some x → isClosing x = true) → ∃ rest, s.pending = .quote :: rest

/-- A way to read forms does as the automaton does. -/
def Agrees (rep : Representation) (form : FormReader n) : Prop :=
  ∀ (c : Cursor) (fewer : c.left < n) (s : State), s.Awaits c →
    s.readFrom rep c = (s.beginAt c.position).proceed rep (form c fewer)

theorem readFrom_finishGroup (rep : Representation) (s : State) (p : Position) (d : Delimiter)
    (t : Taken n (List Value)) :
    (finishGroup rep (s.atPlace p) d t.value t.cursor.position).readFrom rep t.cursor =
      s.proceed rep (elementsValue rep d t) := by
  unfold elementsValue
  by_cases odd : d = .map ∧ t.value.length % 2 ≠ 0
  · obtain ⟨rfl, odd⟩ := odd
    rw [if_pos ⟨rfl, odd⟩, finishGroup, if_neg odd]
    exact readFrom_fail _ _
  · have fits : d.Fits t.value.length := by
      intro map
      by_cases even : t.value.length % 2 = 0
      · exact even
      · exact absurd ⟨map, even⟩ odd
    rw [if_neg odd, finishGroup_eq fits, finish_atPlace]
    rfl

/-- The innermost open form begins at a bracket, ends at a bracket, and has elements in between. -/
theorem readFrom_group (d : Delimiter) {form : FormReader n} (agrees : Agrees rep form)
    (hs : s.token = .none) (t : Taken n Unit) :
    (s.opened (.group d [])).readFrom rep t.cursor =
      s.proceed rep (readGroup rep d form t) := by
  refine (eq_loop (F := fun t : Taken n (List Value) =>
      (s.opened (.group d t.value)).readFrom rep t.cursor)
    (G := fun r => s.proceed rep (r.bind (elementsValue rep d))) (advances_group d form)
    (fun t => ?_) (t.put []))
  have blank := readFrom_blank rep
    (s := s.opened (.group d t.value)) hs (t.put ())
  refine blank.trans ?_
  have waiting : (s.opened (.group d t.value)).token = .none := hs
  unfold groupRound
  dsimp only
  cases hc : (skipBlank (t.put ())).cursor.peek with
  | none =>
    dsimp only
    rw [readFrom_end hc]
    simp [opened, outcome, endToken, atPlace, hs, fault?, proceed, pursue, stopped, Except.bind]
  | some c =>
    dsimp only
    by_cases close : c = d.close
    · subst close
      have finished := readFrom_finishGroup rep s (skipBlank (t.put ())).cursor.position d
        ((skipBlank (t.put ())).pass t.value)
      rw [show ((skipBlank (t.put ())).pass t.value).cursor.position = _ from position_next hc]
        at finished
      rw [if_pos rfl, readFrom_fresh waiting hc, fresh_of_isClosing (isClosing_close d)]
      refine Eq.trans ?_ finished
      exact congrArg (readFrom rep · _) (if_pos rfl)
    rw [if_neg close]
    by_cases stray : isClosing c = true
    · rw [if_pos stray, readFrom_fresh waiting hc, fresh_of_isClosing stray]
      show ((if c = d.close then _ else _ : State)).readFrom rep _ = _
      rw [if_neg close]
      rfl
    · rw [if_neg stray]
      have awaits : (s.opened (.group d t.value)).Awaits
          (skipBlank (t.put ())).cursor :=
        ⟨waiting, peek_skipBlank (t.put ()), fun closing => absurd (closing c hc) stray⟩
      rw [agrees _ (skipBlank (t.put ())).fewer _ awaits, beginAt_opened]
      cases form (skipBlank (t.put ())).cursor (skipBlank (t.put ())).fewer with
      | ok element =>
        exact congrArg (readFrom rep · _) (finish_opened_group hs d t.value element.value)
      | error f => rfl

theorem readFrom_quoted {form : FormReader n} (agrees : Agrees rep form) (hs : s.token = .none)
    (t : Taken n Unit) :
    (s.opened .quote).readFrom rep t.cursor =
      s.proceed rep (readQuoted form t) := by
  have blank := readFrom_blank rep
    (s := s.opened .quote) hs t
  have awaits : (s.opened .quote).Awaits (skipBlank t).cursor :=
    ⟨hs, peek_skipBlank t, fun _ => ⟨_, rfl⟩⟩
  rw [blank, agrees _ (skipBlank t).fewer _ awaits, readQuoted]
  cases form (skipBlank t).cursor (skipBlank t).fewer with
  | ok quoted => rfl
  | error f => rfl

/-! ### Forms -/

theorem fresh_of_isDigit (blank : isSeparator x = false ∧ x ≠ ';') (digit : x.isDigit = true) :
    s.fresh rep x = s.begin (.number false false [x]) := by
  have closing := isClosing_of_isSymbolChar (isSymbolChar_of_isDigit digit)
  have notQuote : x ≠ '"' := ne_of_class digit (by decide)
  simp [fresh, blank, closing, notQuote, digit]

theorem fresh_of_isSymbolChar (blank : isSeparator x = false ∧ x ≠ ';')
    (symbol : isSymbolChar x = true) (noDigit : x.isDigit = false)
    (noSign : ¬ (x = '-' ∨ x = '+')) : s.fresh rep x = s.begin (.symbol [x]) := by
  have other (y : Char) (hy : isSymbolChar y = false) : x ≠ y := ne_of_class symbol hy
  have h₁ := other '"' (by decide)
  have h₂ := other ':' (by decide)
  have h₃ := other '\'' (by decide)
  have h₄ := other '(' (by decide)
  have h₅ := other '[' (by decide)
  have h₆ := other '\x7b' (by decide)
  have h₇ := other '#' (by decide)
  simp [fresh, blank, isClosing_of_isSymbolChar symbol, symbol, noDigit, noSign, h₁, h₂, h₃, h₄, h₅,
    h₆, h₇]

omit [Tables] in
theorem open_atPlace (hs : s.token = .none) (p : Position) (q : Pending) :
    (s.atPlace p).open_ q = ((s.beginAt p).opened q).atPlace p := by
  rw [← inside_none (s := (s.beginAt p).opened q) hs]
  rfl

omit [Tables] in
theorem beginAt_of_quoted {rest : List Pending} (h : s.pending = .quote :: rest) (p : Position) :
    s.beginAt p = s := by
  have waits : s.pending.isEmpty = false := by
    rw [h]
    rfl
  rw [beginAt, waits]
  rfl

theorem readFrom_hash {form : FormReader n} (agrees : Agrees rep form) (hs : s.token = .none)
    (start : Position) (t : Taken n Unit) :
    (s.inside (.hash start)).readFrom rep t.cursor =
      s.proceed rep (readHash rep form start t) := by
  unfold readHash
  split
  · next brace =>
    rw [← readFrom_group .set agrees hs, ← inside_none (s := s.opened _) hs]
    exact readFrom_of_take rep _ brace rfl
  · next quote =>
    rw [← readFrom_regex]
    exact readFrom_of_take rep _ quote rfl
  · next other₁ other₂ =>
    cases hc : t.cursor.peek with
    | none =>
      rw [readFrom_end hc]
      rfl
    | some c =>
      have notBrace : c ≠ '\x7b' := fun brace => other₁ (by rw [hc, brace])
      have notQuote : c ≠ '"' := fun quote => other₂ (by rw [hc, quote])
      rw [readFrom_next hc]
      show (if c = '\x7b' then _ else if c = '"' then _ else _ : State).readFrom rep _ = _
      rw [if_neg notBrace, if_neg notQuote]
      exact readFrom_fail _ _

/-- A character that begins no form is a fault. So is a closing bracket that a quote mark takes for
what it waits for. -/
theorem readFrom_stray (h : s.Awaits c) (hx : c.peek = some x) (symbol : isSymbolChar x = false)
    (other : ∀ y ∈ ['"', ':', '\'', '(', '[', '\x7b', '#'], x ≠ y) :
    s.readFrom rep c = (s.beginAt c.position).stopped ⟨.strayCharacter x, c.position⟩ := by
  obtain ⟨hs, notBlank, quoted⟩ := h
  have blank := notBlank x hx
  rw [readFrom_fresh hs hx]
  by_cases closing : isClosing x = true
  · obtain ⟨rest, hp⟩ := quoted fun y hy => by
      rwa [← Option.some.inj (hx.symm.trans hy)]
    have fails : (s.atPlace c.position).closing rep x =
        (s.atPlace c.position).fail (.strayCharacter x) c.position := by
      simp [State.closing, atPlace, hp]
    rw [fresh_of_isClosing closing, fails, beginAt_of_quoted hp]
    exact readFrom_fail _ _
  · have noDigit : x.isDigit = false := by
      cases hd : x.isDigit with
      | false => rfl
      | true => rw [isSymbolChar_of_isDigit hd] at symbol; cases symbol
    have noMinus : x ≠ '-' := by
      rintro rfl
      exact absurd symbol (by decide)
    have noPlus : x ≠ '+' := by
      rintro rfl
      exact absurd symbol (by decide)
    have last : (s.atPlace c.position).fresh rep x =
        ((s.atPlace c.position).begin .none).fail (.strayCharacter x) c.position := by
      simp only [List.forall_mem_cons] at other
      simp [fresh, blank, closing, noDigit, noMinus, noPlus, symbol, other, atPlace]
    rw [last]
    exact readFrom_fail _ _

/-- The first character of a form begins a token. -/
theorem readFrom_begin (hs : s.token = .none) (hx : c.peek = some x) (t : Token)
    (begins : (s.atPlace c.position).fresh rep x = (s.atPlace c.position).begin t) :
    s.readFrom rep c = ((s.beginAt c.position).inside t).readFrom rep c.next.2 :=
  readFrom_of_take rep _ hx ((take_of_none (s := s.atPlace c.position) hs x).trans begins)

/-- The first character of a form opens it. -/
theorem readFrom_open (hs : s.token = .none) (hx : c.peek = some x) (p : Pending)
    (opens : (s.atPlace c.position).fresh rep x = (s.atPlace c.position).open_ p) :
    s.readFrom rep c = ((s.beginAt c.position).opened p).readFrom rep c.next.2 :=
  readFrom_of_take rep _ hx ((take_of_none (s := s.atPlace c.position) hs x).trans
    (opens.trans (open_atPlace hs c.position p)))

/-- Where a number begins. -/
def NumberAhead (c : Cursor) (x : Char) : Prop :=
  x.isDigit ∨ (x = '-' ∨ x = '+') ∧ c.peekAhead.any Char.isDigit

theorem fresh_of_isSign (sign : x = '-' ∨ x = '+') : s.fresh rep x = s.begin (.sign x) := by
  rcases sign with rfl | rfl <;> rfl

theorem readFrom_numeral (h : s.Awaits c) (hx : c.peek = some x) (number : NumberAhead c x)
    (fewer : c.left < n) :
    s.readFrom rep c = (s.beginAt c.position).proceed rep
      (readNumber (⟨(), c, fewer⟩ : Taken n Unit)) := by
  let here : Taken n Unit := ⟨(), c, fewer⟩
  by_cases digit : x.isDigit = true
  · rw [readFrom_begin h.fresh hx _ (fresh_of_isDigit (h.notBlank x hx) digit)]
    exact readFrom_number_of_digit here hx digit
  · obtain ⟨sign, digit⟩ := number.resolve_left digit
    obtain ⟨d, hd, digit⟩ := (Option.any_eq_true ..).1 digit
    rw [readFrom_begin h.fresh hx _ (fresh_of_isSign sign)]
    exact readFrom_number_of_sign here hx sign (by rwa [peek_next]) digit

theorem readFrom_word (h : s.Awaits c) (hx : c.peek = some x) (symbol : isSymbolChar x = true)
    (word : ¬ NumberAhead c x) (fewer : c.left < n) :
    s.readFrom rep c =
      ((s.beginAt c.position).finish (readSymbol (⟨(), c, fewer⟩ : Taken n Unit)).value).readFrom
        rep (readSymbol (⟨(), c, fewer⟩ : Taken n Unit)).cursor := by
  let here : Taken n Unit := ⟨(), c, fewer⟩
  by_cases sign : x = '-' ∨ x = '+'
  · have digitless : c.next.2.peek.any Char.isDigit = false := by
      rw [peek_next]
      simpa using fun digit => word (.inr ⟨sign, digit⟩)
    rw [readFrom_begin h.fresh hx _ (fresh_of_isSign sign), readFrom_sign digitless]
    exact readFrom_symbol_of_char here hx symbol
  · have noDigit : x.isDigit = false := by simpa using fun digit => word (.inl digit)
    rw [readFrom_begin h.fresh hx _
      (fresh_of_isSymbolChar (h.notBlank x hx) symbol noDigit sign)]
    exact readFrom_symbol_of_char here hx symbol

theorem readFrom_formWith {form : FormReader c.left} (agrees : Agrees rep form) (h : s.Awaits c) :
    s.readFrom rep c = (s.beginAt c.position).proceed rep (formWith rep c form) := by
  have hs := h.fresh
  have waiting : (s.beginAt c.position).token = .none := hs
  unfold formWith
  split
  · next none =>
    obtain ⟨rest, hp⟩ := h.quoted (by simp [none])
    rw [readFrom_end none, beginAt_of_quoted hp]
    simp [outcome, endToken, atPlace, hs, fault?, hp, proceed, pursue, stopped]
  · next x hx =>
    let behind : Taken c.left Unit := ⟨(), c.next.2, Cursor.left_next_lt hx⟩
    dsimp only
    split
    · next quote =>
      subst quote
      rw [readFrom_begin hs hx (.string []) rfl]
      exact readFrom_string behind
    split
    · next number =>
      rw [readFrom_numeral h hx number (Nat.lt_succ_self _)]
      exact (pursue_rebound _ _ fun v k => (State.finish _ v).readFrom rep k).symm
    split
    · next colon =>
      subst colon
      rw [readFrom_begin hs hx .colon rfl]
      exact readFrom_keyword behind
    split
    · next quote =>
      subst quote
      rw [readFrom_open hs hx .quote rfl]
      exact readFrom_quoted agrees waiting behind
    split
    · next paren =>
      subst paren
      rw [readFrom_open hs hx (.group .list []) rfl]
      exact readFrom_group .list agrees waiting behind
    split
    · next bracket =>
      subst bracket
      rw [readFrom_open hs hx (.group .vector []) rfl]
      exact readFrom_group .vector agrees waiting behind
    split
    · next brace =>
      subst brace
      rw [readFrom_open hs hx (.group .map []) rfl]
      exact readFrom_group .map agrees waiting behind
    split
    · next hash =>
      subst hash
      rw [readFrom_begin hs hx (.hash c.position) rfl]
      exact readFrom_hash agrees waiting c.position behind
    next notQuote notNumber notColon notMark notParen notBracket notBrace notHash =>
    split
    · next symbol => exact readFrom_word h hx symbol notNumber _
    · next symbol =>
      refine readFrom_stray h hx (by simpa using symbol) ?_
      simp [notQuote, notColon, notMark, notParen, notBracket, notBrace, notHash]

/-- Forms are read by descent as the automaton reads them. -/
theorem agrees_readForm (rep : Representation) (n : Nat) :
    Agrees rep (n := n) fun c _ => readForm rep c := by
  induction n using Nat.strongRecOn with
  | ind n ih =>
    intro c fewer s h
    show _ = (s.beginAt c.position).proceed rep (readForm rep c)
    rw [readForm_eq]
    -- the forms within it are read where fewer characters are left
    exact readFrom_formWith (ih c.left fewer) h

theorem readFrom_form (h : s.Awaits c) :
    s.readFrom rep c = (s.beginAt c.position).proceed rep (readForm rep c) :=
  agrees_readForm rep _ c (Nat.lt_succ_self _) s h

/-! ### Top-level forms -/

/-- What comes of the end of the text, or of a form that begins at a place. -/
def found (rep : Representation) (s : State) : Found n → Reading
  | .ending _ => ⟨s.forms.reverse, none⟩
  | .form start r => { s with start := start }.proceed rep r

/-- At the top level the next form is looked for as the automaton does. -/
theorem readFrom_top (hs : s.token = .none) (hp : s.pending = []) (t : Taken n Unit) :
    s.readFrom rep t.cursor = s.found rep (readNext rep t) := by
  refine eq_loop (F := fun t => s.readFrom rep t.cursor) (G := s.found rep) (advances_next rep)
    (fun t => ?_) t
  refine (readFrom_blank rep hs t).trans ?_
  unfold nextRound
  dsimp only
  cases hc : (skipBlank t).cursor.peek with
  | none =>
    rw [readFrom_end hc]
    simp [outcome, endToken, atPlace, hs, fault?, hp, found]
  | some c =>
    dsimp only
    by_cases stray : isClosing c = true
    · rw [if_pos stray, readFrom_fresh hs hc, fresh_of_isClosing stray]
      have passes : (s.atPlace (skipBlank t).cursor.position).closing rep c =
          s.atPlace (skipBlank t).cursor.position := by
        simp [State.closing, atPlace, hp]
      rw [passes]
      rfl
    · have awaits : s.Awaits (skipBlank t).cursor :=
        ⟨hs, peek_skipBlank t, fun closing => absurd (closing c hc) stray⟩
      have begins : s.beginAt (skipBlank t).cursor.position =
          { s with start := (skipBlank t).cursor.position } := by
        simp [beginAt, hp]
      rw [if_neg stray, readFrom_form awaits, begins]
      exact (pursue_rebound _ _ fun v k => (State.finish _ v).readFrom rep k).symm

end Lisp.Reader.State
