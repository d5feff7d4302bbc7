import Lisp.Proofs.Reader.Run

/-!
# Reading by descent

The reader can be told another way than by an automaton: as procedures that take characters from a
cursor, go round in loops, and call one another for the forms within forms. Nothing but progress
makes such procedures end. A loop may go on only if its round has taken a character, and a form
within another is read where fewer characters are left. What has been read therefore carries a bound
on what is left, and a loop cannot be run without a proof that its rounds advance.

## Main definitions

* `Reader.Taken` — something read, with a cursor that has fewer characters left than a bound
* `Reader.Advances`, `Reader.loop` — rounds that take characters, and the loop over them
* `Reader.skipBlank`, `Reader.readWhile`, `Reader.readString`, `Reader.readRegex`,
  `Reader.readNumber`, `Reader.readGroup` — the procedures with loops, each beside its round
* `Reader.formWith`, `Reader.readForm` — a form, with or without a way to read those within it
* `Reader.readNext`, `Reader.Iter.next` — the next top-level form

## Main results

* `Reader.eq_loop` — what every round keeps, the loop keeps
* `Reader.readSymbol_fewer`, `Reader.readNumber_fewer` — tokens that begin with the right character
  take it
* `Reader.readForm_eq` — forms within a form are read where fewer characters are left
-/

namespace Lisp.Text.Cursor

/-- The number of characters left. -/
def left (c : Cursor) : Nat := c.rest.length

theorem left_next_le (c : Cursor) : c.next.2.left ≤ c.left := by
  unfold next left
  split
  · exact Nat.le_refl _
  · next h => simp [h]

theorem left_next_lt {c : Cursor} {x : Char} (h : c.peek = some x) : c.next.2.left < c.left := by
  unfold next left
  split
  · next empty => simp [peek, empty] at h
  · next rest => simp [rest]

end Lisp.Text.Cursor

namespace Lisp.Reader

open Text (Cursor Position)

/-! ### What has been read -/

/-- Something that has been read, and a cursor with fewer than `n` characters left. -/
structure Taken (n : Nat) (α : Type) where
  value : α
  cursor : Cursor
  fewer : cursor.left < n

namespace Taken

variable {n m : Nat} {α β : Type}

/-- Something else read up to the same place. -/
def put (t : Taken n α) (b : β) : Taken n β := ⟨b, t.cursor, t.fewer⟩

/-- The next character is taken. -/
def pass (t : Taken n α) (b : β) : Taken n β :=
  ⟨b, t.cursor.next.2, Nat.lt_of_le_of_lt t.cursor.left_next_le t.fewer⟩

/-- Another bound on what is left. -/
def bound (t : Taken n α) (h : t.cursor.left < m) : Taken m α := ⟨t.value, t.cursor, h⟩

theorem left_pass_le (t : Taken n α) (b : β) : (t.pass b).cursor.left ≤ t.cursor.left :=
  t.cursor.left_next_le

theorem left_pass_lt {t : Taken n α} {x : Char} (h : t.cursor.peek = some x) (b : β) :
    (t.pass b).cursor.left < t.cursor.left :=
  Cursor.left_next_lt h

end Taken

/-- What may have been read, with another bound on what is left. -/
def rebound {n m : Nat} {α : Type} (r : Except Fault (Taken n α))
    (h : ∀ t, r = .ok t → t.cursor.left < m) : Except Fault (Taken m α) :=
  match r, h with
  | .ok t, h => .ok (t.bound (h t rfl))
  | .error f, _ => .error f

/-- How much is left behind what may have been read. -/
def leftBehind {n : Nat} {α : Type} : Except Fault (Taken n α) → Nat
  | .ok t => t.cursor.left
  | .error _ => 0

theorem leftBehind_lt {n : Nat} {α : Type} (r : Except Fault (Taken n α)) (h : 0 < n) :
    leftBehind r < n := by
  cases r with
  | ok t => exact t.fewer
  | error f => exact h

theorem leftBehind_rebound {n m : Nat} {α : Type} (r : Except Fault (Taken n α))
    (h : ∀ t, r = .ok t → t.cursor.left < m) : leftBehind (rebound r h) = leftBehind r := by
  cases r with
  | ok t => rfl
  | error f => rfl

/-! ### Loops -/

section Loop

variable {n : Nat} {α β : Type}

/-- A round leads to another one only if it takes a character. -/
def Advances (round : Taken n α → Taken n α ⊕ β) : Prop :=
  ∀ t t', round t = .inl t' → t'.cursor.left < t.cursor.left

/-- Goes round for as long as a round leads to another. -/
def loop (round : Taken n α → Taken n α ⊕ β) (advances : Advances round) (t : Taken n α) : β :=
  match h : round t with
  | .inl t' =>
    have : t'.cursor.left < t.cursor.left := advances t t' h
    loop round advances t'
  | .inr b => b
termination_by t.cursor.left

variable {round : Taken n α → Taken n α ⊕ β} {advances : Advances round} {t t' : Taken n α} {b : β}

theorem loop_of_again (h : round t = .inl t') : loop round advances t = loop round advances t' := by
  rw [loop]
  split
  · next t'' h' =>
    cases h.symm.trans h'
    rfl
  · next b h' => cases h.symm.trans h'

theorem loop_of_done (h : round t = .inr b) : loop round advances t = b := by
  rw [loop]
  split
  · next t'' h' => cases h.symm.trans h'
  · next b' h' =>
    cases h.symm.trans h'
    rfl

/-- What holds of every last round, and of a round that leads to another if it holds of that one,
holds of the loop. -/
theorem loop_induction {P : Taken n α → β → Prop} (advances : Advances round)
    (done : ∀ t b, round t = .inr b → P t b)
    (again : ∀ t t' b, round t = .inl t' → P t' b → P t b) (t : Taken n α) :
    P t (loop round advances t) := by
  induction hn : t.cursor.left using Nat.strongRecOn generalizing t with
  | ind k ih =>
    cases h : round t with
    | inl t' =>
      rw [loop_of_again h]
      exact again t t' _ h (ih _ (hn ▸ advances t t' h) t' rfl)
    | inr b =>
      rw [loop_of_done h]
      exact done t b h

/-- What every round keeps, the loop keeps. -/
theorem eq_loop {γ : Type} {F : Taken n α → γ} {G : β → γ} (advances : Advances round)
    (keeps : ∀ t, F t = (round t).elim F G) (t : Taken n α) : F t = G (loop round advances t) := by
  refine loop_induction (P := fun t b => F t = G b) advances (fun t b h => ?_)
    (fun t t' b h hb => ?_) t
  · rw [keeps, h]
    rfl
  · rw [keeps, h]
    exact hb

/-- If no last round leaves more characters than it has found, the loop does not either. -/
theorem left_loop_le (left : β → Nat) (advances : Advances round)
    (done : ∀ t b, round t = .inr b → left b ≤ t.cursor.left) (t : Taken n α) :
    left (loop round advances t) ≤ t.cursor.left :=
  loop_induction (P := fun t b => left b ≤ t.cursor.left) advances done
    (fun t t' _ h le => Nat.le_trans le (Nat.le_of_lt (advances t t' h))) t

/-- If the first round takes a character also where it is the last, the loop takes one. -/
theorem left_loop_lt (left : β → Nat) (advances : Advances round)
    (done : ∀ t b, round t = .inr b → left b ≤ t.cursor.left) {t : Taken n α}
    (first : ∀ b, round t = .inr b → left b < t.cursor.left) :
    left (loop round advances t) < t.cursor.left := by
  cases h : round t with
  | inl t' =>
    rw [loop_of_again h]
    exact Nat.lt_of_le_of_lt (left_loop_le left advances done t') (advances t t' h)
  | inr b =>
    rw [loop_of_done h]
    exact first b h

end Loop

/-! ### Blanks -/

section Blanks

variable {n : Nat}

/-- A round in a comment, which ends behind a newline. -/
def commentRound (t : Taken n Unit) : Taken n Unit ⊕ Taken n Unit :=
  match t.cursor.peek with
  | some c => if c = '\n' then .inr (t.pass ()) else .inl (t.pass ())
  | none => .inr t

theorem advances_comment : Advances (commentRound (n := n)) := by
  intro t t' h
  unfold commentRound at h
  split at h
  · next c hc =>
    split at h <;> cases h
    exact Taken.left_pass_lt hc ()
  · cases h

/-- Takes a comment. -/
def skipComment (t : Taken n Unit) : Taken n Unit := loop commentRound advances_comment t

theorem left_of_commentRound {t b : Taken n Unit} (h : commentRound t = .inr b) :
    b.cursor.left ≤ t.cursor.left ∧ (t.cursor.peek ≠ none → b.cursor.left < t.cursor.left) := by
  unfold commentRound at h
  split at h
  · next c hc =>
    split at h <;> cases h
    exact ⟨t.left_pass_le (), fun _ => Taken.left_pass_lt hc ()⟩
  · next hc =>
    cases h
    exact ⟨Nat.le_refl _, fun something => absurd hc something⟩

/-- A comment is at least the semicolon it begins with. -/
theorem left_skipComment_lt {t : Taken n Unit} {c : Char} (h : t.cursor.peek = some c) :
    (skipComment t).cursor.left < t.cursor.left :=
  left_loop_lt (fun b : Taken n Unit => b.cursor.left) advances_comment
    (fun _ _ hb => (left_of_commentRound hb).1)
    fun _ hb => (left_of_commentRound hb).2 (by simp [h])

/-- A round over separators and comments. -/
def blankRound (t : Taken n Unit) : Taken n Unit ⊕ Taken n Unit :=
  match t.cursor.peek with
  | some c =>
    if isSeparator c then .inl (t.pass ())
    else if c = ';' then .inl (skipComment t)
    else .inr t
  | none => .inr t

theorem advances_blank : Advances (blankRound (n := n)) := by
  intro t t' h
  unfold blankRound at h
  split at h
  · next c hc =>
    split at h
    · cases h
      exact Taken.left_pass_lt hc ()
    · split at h <;> cases h
      exact left_skipComment_lt hc
  · cases h

/-- Takes separators and comments. -/
def skipBlank (t : Taken n Unit) : Taken n Unit := loop blankRound advances_blank t

/-- The last round over blanks finds something else, and leaves it. -/
theorem blankRound_eq_done {t b : Taken n Unit} (h : blankRound t = .inr b) :
    b = t ∧ ∀ c, t.cursor.peek = some c → isSeparator c = false ∧ c ≠ ';' := by
  unfold blankRound at h
  split at h
  · next c hc =>
    split at h
    · cases h
    · next separator =>
      split at h
      · cases h
      · next semicolon =>
        cases h
        refine ⟨rfl, fun d hd => ?_⟩
        obtain rfl : c = d := Option.some.inj (hc.symm.trans hd)
        exact ⟨by simpa using separator, semicolon⟩
  · next hc =>
    cases h
    exact ⟨rfl, fun d hd => by simp [hc] at hd⟩

theorem left_skipBlank_le (t : Taken n Unit) : (skipBlank t).cursor.left ≤ t.cursor.left := by
  refine left_loop_le (fun b : Taken n Unit => b.cursor.left) advances_blank (fun t b h => ?_) t
  obtain ⟨rfl, -⟩ := blankRound_eq_done h
  exact Nat.le_refl _

/-- What follows on blanks is none. -/
theorem peek_skipBlank (t : Taken n Unit) :
    ∀ c, (skipBlank t).cursor.peek = some c → isSeparator c = false ∧ c ≠ ';' := by
  refine loop_induction
    (P := fun _ (b : Taken n Unit) => ∀ c, b.cursor.peek = some c → isSeparator c = false ∧ c ≠ ';')
    advances_blank (fun t b h => ?_) (fun _ _ _ _ hb => hb) t
  obtain ⟨rfl, other⟩ := blankRound_eq_done h
  exact other

end Blanks

/-! ### Words -/

section Words

variable {n : Nat} {p : Char → Bool}

/-- A round over characters of a kind, which are kept in reverse. -/
def whileRound (p : Char → Bool) (t : Taken n (List Char)) :
    Taken n (List Char) ⊕ Taken n (List Char) :=
  match t.cursor.peek with
  | some c => if p c then .inl (t.pass (c :: t.value)) else .inr t
  | none => .inr t

theorem advances_while (p : Char → Bool) : Advances (whileRound (n := n) p) := by
  intro t t' h
  unfold whileRound at h
  split at h
  · next c hc =>
    split at h <;> cases h
    exact Taken.left_pass_lt hc _
  · cases h

/-- Takes characters of a kind. -/
def readWhile (p : Char → Bool) (t : Taken n (List Char)) : Taken n (List Char) :=
  loop (whileRound p) (advances_while p) t

theorem whileRound_eq_done {t b : Taken n (List Char)} (h : whileRound p t = .inr b) :
    b = t ∧ ∀ c, t.cursor.peek = some c → p c = false := by
  unfold whileRound at h
  split at h
  · next c hc =>
    split at h
    · cases h
    · next other =>
      cases h
      refine ⟨rfl, fun d hd => ?_⟩
      obtain rfl : c = d := Option.some.inj (hc.symm.trans hd)
      simpa using other
  · next hc =>
    cases h
    exact ⟨rfl, fun d hd => by simp [hc] at hd⟩

/-- A character of the kind is taken. -/
theorem left_readWhile_lt {t : Taken n (List Char)} {c : Char} (h : t.cursor.peek = some c)
    (hc : p c = true) : (readWhile p t).cursor.left < t.cursor.left := by
  refine left_loop_lt (fun b : Taken n (List Char) => b.cursor.left) (advances_while p)
    (fun t b hb => ?_) fun b hb => ?_
  · obtain ⟨rfl, -⟩ := whileRound_eq_done hb
    exact Nat.le_refl _
  · rw [(whileRound_eq_done hb).2 c h] at hc
    cases hc

/-- Takes a symbol. -/
def readSymbol (t : Taken n Unit) : Taken n Value :=
  let word := readWhile isSymbolChar (t.put [])
  word.put (symbolValue word.value)

/-- A symbol is at least the character it begins with. -/
theorem readSymbol_fewer {t : Taken n Unit} {c : Char} (h : t.cursor.peek = some c)
    (hc : isSymbolChar c = true) : (readSymbol t).cursor.left < t.cursor.left :=
  left_readWhile_lt (t := t.put []) h hc

/-- Takes the name of a keyword, which is not empty. -/
def readName (auto : Bool) (t : Taken n (List Char)) : Except Fault (Taken n Value) :=
  let word := readWhile isSymbolChar t
  if word.value.isEmpty then .error ⟨.emptyKeyword, word.cursor.position⟩
  else .ok (word.put (keywordValue auto word.value))

/-- Takes a keyword, from behind its first colon. -/
def readKeyword (t : Taken n Unit) : Except Fault (Taken n Value) :=
  if t.cursor.peek = some ':' then readName true (t.pass []) else readName false (t.put [])

end Words

/-! ### Strings and regular expressions -/

section Texts

variable {n : Nat}

/-- Takes the digits of a Unicode escape that are still missing. -/
def readDigits : Nat → List Char → Taken n (List Char) → Except Fault (Taken n (List Char))
  | 0, digits, t =>
    if (hexValue digits).isValidChar then .ok (t.put (Char.ofNat (hexValue digits) :: t.value))
    else .error ⟨.invalidUnicodeEscape (String.ofList digits), t.cursor.position⟩
  | missing + 1, digits, t =>
    match t.cursor.peek with
    | some c =>
      if isHexDigit c then readDigits missing (digits ++ [c]) (t.pass t.value)
      else .error ⟨.shortUnicodeEscape, (t.pass t.value).cursor.position⟩
    | none => .error ⟨.shortUnicodeEscape, t.cursor.position⟩

/-- Takes an escape, from behind its backslash. -/
def readEscape (t : Taken n (List Char)) : Except Fault (Taken n (List Char)) :=
  match t.cursor.peek with
  | some c =>
    if c = 'u' then readDigits 4 [] (t.pass t.value) else .ok (t.pass (escaped c :: t.value))
  | none => .error ⟨.unterminatedString, t.cursor.position⟩

theorem left_readDigits_le {missing : Nat} {digits : List Char} {t t' : Taken n (List Char)}
    (h : readDigits missing digits t = .ok t') : t'.cursor.left ≤ t.cursor.left := by
  induction missing generalizing digits t with
  | zero =>
    rw [readDigits] at h
    split at h <;> cases h
    exact Nat.le_refl _
  | succ missing ih =>
    rw [readDigits] at h
    split at h
    · split at h
      · exact Nat.le_trans (ih h) (t.left_pass_le _)
      · cases h
    · cases h

theorem left_readEscape_le {t t' : Taken n (List Char)} (h : readEscape t = .ok t') :
    t'.cursor.left ≤ t.cursor.left := by
  unfold readEscape at h
  split at h
  · split at h
    · exact Nat.le_trans (left_readDigits_le h) (t.left_pass_le _)
    · cases h
      exact t.left_pass_le _
  · cases h

/-- A round in a string. -/
def stringRound (t : Taken n (List Char)) :
    Taken n (List Char) ⊕ Except Fault (Taken n (List Char)) :=
  match t.cursor.peek with
  | some c =>
    if c = '"' then .inr (.ok (t.pass t.value))
    else if c = '\\' then
      match readEscape (t.pass t.value) with
      | .ok t' => .inl t'
      | .error f => .inr (.error f)
    else .inl (t.pass (c :: t.value))
  | none => .inr (.error ⟨.unterminatedString, t.cursor.position⟩)

theorem advances_string : Advances (stringRound (n := n)) := by
  intro t t' h
  unfold stringRound at h
  split at h
  · next c hc =>
    split at h
    · cases h
    · split at h
      · split at h
        · next t'' escape =>
          cases h
          exact Nat.lt_of_le_of_lt (left_readEscape_le escape) (Taken.left_pass_lt hc _)
        · cases h
      · cases h
        exact Taken.left_pass_lt hc _
  · cases h

/-- Takes a string, from behind its first quote. -/
def readString (t : Taken n Unit) : Except Fault (Taken n Value) :=
  (loop stringRound advances_string (t.put [])).map fun text =>
    text.put (.string (String.ofList text.value.reverse))

/-- A round in a regular expression. -/
def regexRound (t : Taken n (List Char)) :
    Taken n (List Char) ⊕ Except Fault (Taken n (List Char)) :=
  match t.cursor.peek with
  | some c =>
    let behind := t.pass t.value
    if c = '"' then .inr (.ok behind)
    else if c = '\\' then
      match behind.cursor.peek with
      | some d => .inl (behind.pass (if d = '"' then d :: t.value else d :: '\\' :: t.value))
      | none => .inr (.error ⟨.unterminatedRegex, behind.cursor.position⟩)
    else .inl (t.pass (c :: t.value))
  | none => .inr (.error ⟨.unterminatedRegex, t.cursor.position⟩)

theorem advances_regex : Advances (regexRound (n := n)) := by
  intro t t' h
  unfold regexRound at h
  split at h
  · next c hc =>
    have behind : (t.pass t.value).cursor.left < t.cursor.left := Taken.left_pass_lt hc _
    dsimp only at h
    split at h
    · cases h
    · split at h
      · split at h <;> cases h
        exact Nat.lt_of_le_of_lt (Taken.left_pass_le _ _) behind
      · cases h
        exact behind
  · cases h

/-- The regular expression that a text is, if it is a pattern. -/
def patternValue (text : Taken n (List Char)) : Except Fault (Taken n Value) :=
  let pattern := String.ofList text.value.reverse
  match Regex.parse pattern with
  | .ok _ => .ok (text.put (.regex pattern))
  | .error r => .error ⟨.invalidRegex (r.report pattern), text.cursor.position⟩

/-- Takes a regular expression, from behind its first quote. -/
def readRegex (t : Taken n Unit) : Except Fault (Taken n Value) :=
  (loop regexRound advances_regex (t.put [])).bind patternValue

end Texts

/-! ### Numbers -/

section Numbers

variable {n : Nat}

/-- A round in a number. What is kept is whether there has been a point, and the characters. -/
def numberRound (signed : Bool) (t : Taken n (Bool × List Char)) :
    Taken n (Bool × List Char) ⊕ Except Fault (Taken n (Bool × List Char)) :=
  match t.cursor.peek with
  | some c =>
    let (point, chars) := t.value
    if c = '.' then
      if point then .inr (.error ⟨.misplaced c, t.cursor.position⟩)
      else .inl (t.pass (true, c :: chars))
    else if signed && (c = '-' || c = '+') then .inr (.error ⟨.misplaced c, t.cursor.position⟩)
    else if c.isDigit then .inl (t.pass (point, c :: chars))
    else if c = '_' || c = ',' then .inl (t.pass t.value)
    else .inr (.ok t)
  | none => .inr (.ok t)

theorem advances_number (signed : Bool) : Advances (numberRound (n := n) signed) := by
  intro t t' h
  unfold numberRound at h
  split at h
  · next c hc =>
    dsimp only at h
    repeat' split at h
    all_goals cases h
    all_goals exact Taken.left_pass_lt hc _
  · cases h

theorem numberRound_eq_done {signed : Bool} {t b : Taken n (Bool × List Char)}
    (h : numberRound signed t = .inr (.ok b)) :
    b = t ∧ ∀ c, t.cursor.peek = some c → c.isDigit = false := by
  unfold numberRound at h
  split at h
  · next c hc =>
    dsimp only at h
    repeat' split at h
    all_goals cases h
    next digit _ =>
      refine ⟨rfl, fun d hd => ?_⟩
      obtain rfl : c = d := Option.some.inj (hc.symm.trans hd)
      simpa using digit
  · next hc =>
    cases h
    exact ⟨rfl, fun d hd => by simp [hc] at hd⟩

/-- The digits and all else of a number behind its sign. -/
def readDecimal (signed : Bool) (t : Taken n (Bool × List Char)) :
    Except Fault (Taken n (Bool × List Char)) :=
  loop (numberRound signed) (advances_number signed) t

/-- The number that a text stands for. -/
def decimalValue (text : Taken n (Bool × List Char)) : Except Fault (Taken n Value) :=
  match Number.parseChars? text.value.2.reverse with
  | some number => .ok (text.put (.number number))
  | none => .error ⟨.invalidNumber (String.ofList text.value.2.reverse), text.cursor.position⟩

/-- Takes a number, from its sign or its first digit. -/
def readNumber (t : Taken n Unit) : Except Fault (Taken n Value) :=
  let text := match t.cursor.peek with
    | some c =>
      if c = '-' ∨ c = '+' then readDecimal true (t.pass (false, [c]))
      else readDecimal false (t.put (false, []))
    | none => readDecimal false (t.put (false, []))
  text.bind decimalValue

theorem leftBehind_numberRound_le {signed : Bool} {t : Taken n (Bool × List Char)}
    {r : Except Fault (Taken n (Bool × List Char))} (h : numberRound signed t = .inr r) :
    leftBehind r ≤ t.cursor.left := by
  cases r with
  | ok b =>
    obtain ⟨rfl, -⟩ := numberRound_eq_done h
    exact Nat.le_refl _
  | error f => exact Nat.zero_le _

theorem leftBehind_readDecimal_le (signed : Bool) (t : Taken n (Bool × List Char)) :
    leftBehind (readDecimal signed t) ≤ t.cursor.left :=
  left_loop_le leftBehind (advances_number signed) (fun _ _ => leftBehind_numberRound_le) t

/-- A digit is taken. -/
theorem leftBehind_readDecimal_lt {signed : Bool} {t : Taken n (Bool × List Char)} {c : Char}
    (h : t.cursor.peek = some c) (hc : c.isDigit = true) :
    leftBehind (readDecimal signed t) < t.cursor.left := by
  refine left_loop_lt leftBehind (advances_number signed) (fun _ _ => leftBehind_numberRound_le)
    fun r hr => ?_
  cases r with
  | ok b =>
    rw [(numberRound_eq_done hr).2 c h] at hc
    cases hc
  | error f => exact Nat.zero_lt_of_lt (Cursor.left_next_lt h)

/-- A number is at least the sign or digit it begins with. -/
theorem readNumber_fewer {t : Taken n Unit} {c : Char} (h : t.cursor.peek = some c)
    (hc : c.isDigit = true ∨ c = '-' ∨ c = '+') {b : Taken n Value} (hb : readNumber t = .ok b) :
    b.cursor.left < t.cursor.left := by
  -- finding the value does not move the cursor
  have value {r : Except Fault (Taken n (Bool × List Char))} (hb : r.bind decimalValue = .ok b) :
      b.cursor.left = leftBehind r := by
    cases r with
    | error f => cases hb
    | ok text =>
      change decimalValue text = .ok b at hb
      unfold decimalValue at hb
      split at hb <;> cases hb
      rfl
  unfold readNumber at hb
  rw [h] at hb
  rw [value hb]
  dsimp only
  split
  · exact Nat.lt_of_le_of_lt (leftBehind_readDecimal_le true _) (Taken.left_pass_lt h _)
  · next noSign =>
    have digit : c.isDigit = true := hc.resolve_right noSign
    exact leftBehind_readDecimal_lt (t := t.put (false, [])) h digit

end Numbers

/-! ### Forms -/

variable [Tables]

section Forms

variable {n : Nat}

/-- A way to read the forms where fewer than `n` characters are left. -/
abbrev FormReader (n : Nat) := ∀ c : Cursor, c.left < n → Except Fault (Taken c.left Value)

/-- A round in a bracketed form, whose elements are kept in reverse. A closing bracket of another
kind is passed over. -/
def groupRound (d : Delimiter) (form : FormReader n) (t : Taken n (List Value)) :
    Taken n (List Value) ⊕ Except Fault (Taken n (List Value)) :=
  let here := skipBlank (t.put ())
  match here.cursor.peek with
  | none => .inr (.error ⟨.unterminated d, here.cursor.position⟩)
  | some c =>
    if c = d.close then .inr (.ok (here.pass t.value))
    else if isClosing c then .inl (here.pass t.value)
    else
      match form here.cursor here.fewer with
      | .ok element =>
        .inl ⟨element.value :: t.value, element.cursor, Nat.lt_trans element.fewer here.fewer⟩
      | .error f => .inr (.error f)

omit [Tables] in
theorem advances_group (d : Delimiter) (form : FormReader n) : Advances (groupRound d form) := by
  intro t t' h
  have blank : (skipBlank (t.put ())).cursor.left ≤ t.cursor.left := left_skipBlank_le (t.put ())
  unfold groupRound at h
  dsimp only at h
  split at h
  · cases h
  · next c hc =>
    split at h
    · cases h
    · split at h
      · cases h
        exact Nat.lt_of_lt_of_le (Taken.left_pass_lt hc _) blank
      · split at h
        · next element _ =>
          cases h
          exact Nat.lt_of_lt_of_le element.fewer blank
        · cases h

/-- The bracketed form of some elements. The keys of a map need values. -/
def elementsValue (rep : Representation) (d : Delimiter) (elements : Taken n (List Value)) :
    Except Fault (Taken n Value) :=
  if d = .map ∧ elements.value.length % 2 ≠ 0 then .error ⟨.oddMap, elements.cursor.position⟩
  else .ok (elements.put (groupValue rep d elements.value.reverse))

/-- Takes a bracketed form, from behind its opening bracket. -/
def readGroup (rep : Representation) (d : Delimiter) (form : FormReader n) (t : Taken n Unit) :
    Except Fault (Taken n Value) :=
  (loop (groupRound d form) (advances_group d form) (t.put [])).bind (elementsValue rep d)

/-- Takes the form of a quote mark, from behind the mark. -/
def readQuoted (form : FormReader n) (t : Taken n Unit) : Except Fault (Taken n Value) :=
  let here := skipBlank t
  (form here.cursor here.fewer).map fun quoted =>
    ⟨.quoted quoted.value, quoted.cursor, Nat.lt_trans quoted.fewer here.fewer⟩

/-- Takes a set or a regular expression, from behind the hash sign at a place. -/
def readHash (rep : Representation) (form : FormReader n) (start : Position) (t : Taken n Unit) :
    Except Fault (Taken n Value) :=
  match t.cursor.peek with
  | some '\x7b' => readGroup rep .set form (t.pass ())
  | some '"' => readRegex (t.pass ())
  | _ => .error ⟨.strayCharacter '#', start⟩

/-- Takes a form, which begins with the next character. The forms within it are read by `form`,
which is given only cursors with fewer characters left. -/
def formWith (rep : Representation) (c : Cursor) (form : FormReader c.left) :
    Except Fault (Taken c.left Value) :=
  match h : c.peek with
  | none => .error ⟨.endOfInput, c.position⟩
  | some x =>
    let here : Taken (c.left + 1) Unit := ⟨(), c, Nat.lt_succ_self _⟩
    let behind : Taken c.left Unit := ⟨(), c.next.2, Cursor.left_next_lt h⟩
    if x = '"' then readString behind
    else if number : x.isDigit ∨ (x = '-' ∨ x = '+') ∧ c.peekAhead.any Char.isDigit then
      rebound (readNumber here) fun _ => readNumber_fewer (t := here) h (number.imp_right And.left)
    else if x = ':' then readKeyword behind
    else if x = '\'' then readQuoted form behind
    else if x = '(' then readGroup rep .list form behind
    else if x = '[' then readGroup rep .vector form behind
    else if x = '\x7b' then readGroup rep .map form behind
    else if x = '#' then readHash rep form c.position behind
    else if symbol : isSymbolChar x then
      .ok ((readSymbol here).bound (readSymbol_fewer (t := here) h symbol))
    else .error ⟨.strayCharacter x, c.position⟩

/-- Takes a form. -/
def readForm (rep : Representation) (c : Cursor) : Except Fault (Taken c.left Value) :=
  formWith rep c fun d _ => readForm rep d
termination_by c.left

/-- The forms within a form are read where fewer characters are left. -/
theorem readForm_eq (rep : Representation) (c : Cursor) :
    readForm rep c = formWith rep c fun d _ => readForm rep d := by
  rw [readForm]

end Forms

/-! ### A whole text -/

/-- What a search for the next top-level form ends with: the end of the text, or the place of a form
and what comes of reading it. -/
inductive Found (n : Nat) where
  | ending (t : Taken n Unit)
  | form (start : Position) (r : Except Fault (Taken n Value))

section Texts

variable {n : Nat}

/-- A round between top-level forms. A closing bracket that closes nothing is passed over. -/
def nextRound (rep : Representation) (t : Taken n Unit) : Taken n Unit ⊕ Found n :=
  let here := skipBlank t
  match here.cursor.peek with
  | none => .inr (.ending here)
  | some c =>
    if isClosing c then .inl (here.pass ())
    else .inr (.form here.cursor.position (rebound (readForm rep here.cursor) fun form _ =>
      Nat.lt_trans form.fewer here.fewer))

theorem advances_next (rep : Representation) : Advances (nextRound (n := n) rep) := by
  intro t t' h
  unfold nextRound at h
  dsimp only at h
  split at h
  · cases h
  · next c hc =>
    split at h <;> cases h
    exact Nat.lt_of_lt_of_le (Taken.left_pass_lt hc _) (left_skipBlank_le t)

/-- Takes the next top-level form, if there is one. -/
def readNext (rep : Representation) (t : Taken n Unit) : Found n :=
  loop (nextRound rep) (advances_next rep) t

end Texts

/-- A reader that is asked for one top-level form after another. -/
structure Iter where
  cursor : Cursor
  /-- Where the latest top-level form begins. -/
  location : Position := {}
  /-- Whether there has been a fault. -/
  failed : Bool := false

/-- The next top-level form, or a fault, or nothing at the end of the text and behind a fault. -/
def Iter.next (rep : Representation) (i : Iter) : Option (Except Fault Value) × Iter :=
  if i.failed then (none, i)
  else
    match readNext rep (⟨(), i.cursor, Nat.lt_succ_self _⟩ : Taken (i.cursor.left + 1) Unit) with
    | .ending t => (none, { i with cursor := t.cursor })
    | .form start (.ok t) => (some (.ok t.value), { i with cursor := t.cursor, location := start })
    | .form start (.error f) => (some (.error f), { i with location := start, failed := true })

end Lisp.Reader
