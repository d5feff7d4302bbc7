import Lisp.Proofs.Reader.Readable
import Lisp.Text.Quoted

/-!
# Texts that deliver forms

A text delivers forms if the reader, starting between two forms, comes out of it having delivered
them, up to a last token that anything which may follow ends: the end of the text, a space, a comma
with a space, or a closing bracket. A number swallows the comma and ends at the space. Such texts
can be put side by side and between brackets.

## Main definitions

* `Reader.State.Rests` — a state whose token, when ended, leaves a given view
* `Reader.Delivers` — a text that delivers forms

## Main results

* `Reader.delivers_intercalate` — texts that deliver can be joined
* `Reader.delivers_group`, `Reader.delivers_quote` — brackets and quote marks around them
* `Reader.delivers_symbol`, `Reader.delivers_keyword`, `Reader.delivers_string`,
  `Reader.delivers_number` — the tokens
-/

namespace Lisp.Reader

variable {rep : Representation}

variable [Tables]

namespace State

variable {s : State} {c : Char} {w : List Pending × List Value}

/-! ### Ends of tokens -/

/-- A closing bracket ends a token as the end of the text would, and is then taken. -/
theorem take_closing (ht : s.token.endsAtBlank = true) (hc : isClosing c = true) :
    s.take rep c = s.endToken.resume rep c :=
  take_ending ht (isSymbolChar_of_isClosing hc) (ne_of_class hc (by decide))
    (ne_of_class hc (by decide)) (ne_of_class hc (by decide))
    (fun _ _ _ _ => ne_of_class hc (by decide))

/-- A comma ends a token as a blank would, except that a number goes on. -/
theorem take_comma (rep : Representation) (ht : s.token.endsAtBlank = true) :
    s.take rep ',' = s.endToken ∨ s.take rep ',' = s := by
  by_cases h : ∃ signed point chars, s.token = .number signed point chars
  · obtain ⟨signed, point, chars, h⟩ := h
    have hne : ',' ≠ '.' ∧ ',' ≠ '-' ∧ ',' ≠ '+' ∧ ','.isDigit = false := by decide
    exact .inr (by simp [take, h, inNumber, hne])
  · rw [take_ending ht (by decide) (by decide) (by decide) (by decide)
      (fun signed point chars hnumber => absurd ⟨signed, point, chars, hnumber⟩ h)]
    exact .inl (resume_separator (by decide))

/-- A state whose token, when ended, leaves a view. -/
structure Rests (s : State) (w : List Pending × List Value) : Prop where
  ends : s.token.endsAtBlank = true
  token : s.endToken.token = .none
  view : s.endToken.view = w

omit [Tables] in
theorem rests_of_none (h : s.token = .none) : s.Rests s.view := by
  have hend : s.endToken = s := by simp [endToken, h]
  exact ⟨by simp [h, Token.endsAtBlank], by rw [hend, h], by rw [hend]⟩

theorem Rests.space (h : s.Rests w) :
    (s.step rep ' ').token = .none ∧ (s.step rep ' ').view = w := by
  have htake : s.take rep ' ' = s.endToken := take_blank h.ends rfl
  unfold step
  rw [htake]
  exact ⟨h.token, h.view⟩

omit [Tables] in
/-- Where a token ends does not matter for what it leaves. -/
theorem Rests.position (h : s.Rests w) (p : Text.Position) :
    ({ s with position := p } : State).Rests w := by
  obtain ⟨ends, htoken, hview⟩ := h
  -- a position goes into faults only, and there is none
  suffices ended : ({ s with position := p } : State).endToken.token = .none ∧
      ({ s with position := p } : State).endToken.view = w from ⟨ends, ended.1, ended.2⟩
  obtain ⟨position, token, pending, start, forms⟩ := s
  cases token with
  | none => exact ⟨htoken, hview⟩
  | sign c | symbol chars =>
    simp only [endToken, view_finish] at hview ⊢
    exact ⟨finish_token, hview⟩
  | number signed point chars =>
    simp only [endToken, finishNumber] at htoken hview ⊢
    split at htoken
    · next n hn =>
      simp only [hn, view_finish] at hview ⊢
      exact ⟨finish_token, hview⟩
    · cases htoken
  | keyword auto chars =>
    simp only [endToken, finishKeyword] at htoken hview ⊢
    split at htoken
    · cases htoken
    · next hne =>
      simp only [hne, Bool.false_eq_true, if_false, view_finish] at hview ⊢
      exact ⟨finish_token, hview⟩
  | colon | hash _ | failed _ => cases htoken
  | comment | string _ | escape _ | unicode _ _ | regex _ | regexEscape _ => cases ends

theorem Rests.comma (h : s.Rests w) :
    (s.run rep [',', ' ']).token = .none ∧ (s.run rep [',', ' ']).view = w := by
  have rests : (s.step rep ',').Rests w := by
    unfold step
    rcases take_comma rep h.ends with hcomma | hcomma
    · rw [hcomma]
      have := rests_of_none (s := { s.endToken with position := s.position.advance ',' }) h.token
      rwa [view_position, h.view] at this
    · rw [hcomma]
      exact h.position _
  exact rests.space

theorem Rests.close (rep : Representation) {d : Delimiter} {items : List Value}
    {rest : List Pending} {forms : List Value}
    (h : s.Rests (.group d items :: rest, forms)) (fits : d.Fits items.length) :
    (s.step rep d.close).token = .none ∧
      (s.step rep d.close).view = deliver (rest, forms) (groupValue rep d items.reverse) := by
  have htake : s.take rep d.close = s.endToken.take rep d.close := by
    rw [take_closing h.ends (isClosing_close d)]
    simp [take, resume, h.token]
  obtain ⟨htoken, hview⟩ := view_step_close rep h.token h.view fits
  unfold step at htoken hview ⊢
  rw [htake]
  exact ⟨htoken, hview⟩

end State

/-! ### Texts side by side -/

/-- A text that delivers forms wherever no token is being read. -/
def Delivers (rep : Representation) (cs : List Char) (vs : List Value) : Prop :=
  ∀ s : State, s.token = .none → (s.run rep cs).Rests (vs.foldl deliver s.view)

/-- What may stand between two forms. -/
def IsGap (gap : List Char) : Prop := gap = [' '] ∨ gap = [',', ' ']

theorem delivers_nil : Delivers rep [] [] :=
  fun _ h => State.rests_of_none h

theorem Delivers.append {cs ds gap : List Char} {vs ws : List Value} (hgap : IsGap gap)
    (h : Delivers rep cs vs) (h' : Delivers rep ds ws) :
    Delivers rep (cs ++ gap ++ ds) (vs ++ ws) := by
  intro s hs
  have between : ((s.run rep cs).run rep gap).token = .none ∧
      ((s.run rep cs).run rep gap).view = vs.foldl deliver s.view := by
    rcases hgap with rfl | rfl
    · exact (h s hs).space
    · exact (h s hs).comma
  rw [State.run_append, State.run_append, List.foldl_append, ← between.2]
  exact h' _ between.1

/-- Texts that deliver forms, joined. -/
theorem delivers_intercalate {gap : List Char} (hgap : IsGap gap) {texts : List (List Char)}
    {vss : List (List Value)} (h : List.Forall₂ (Delivers rep) texts vss) :
    Delivers rep (gap.intercalate texts) vss.flatten := by
  induction h with
  | nil => exact delivers_nil
  | @cons cs vs texts vss hcs rest ih =>
    cases rest with
    | nil => simpa using hcs
    | cons hds rest =>
      rw [List.intercalate_cons_cons, List.flatten_cons]
      exact hcs.append hgap ih

theorem delivers_group {cs : List Char} {vs : List Value} (d : Delimiter)
    (h : Delivers rep cs vs) (fits : d.Fits vs.length) :
    Delivers rep (d.opening ++ cs ++ [d.close]) [groupValue rep d vs] := by
  intro s hs
  obtain ⟨htoken, hview⟩ := State.run_opening rep d hs
  have inside := h _ htoken
  rw [hview, foldl_deliver_group, List.append_nil] at inside
  obtain ⟨htoken', hview'⟩ := inside.close rep (by simpa using fits)
  rw [List.reverse_reverse] at hview'
  rw [State.run_append, State.run_append, List.foldl_cons, List.foldl_nil]
  exact hview' ▸ State.rests_of_none htoken'

theorem delivers_quote {cs : List Char} {v : Value} (h : Delivers rep cs [v]) :
    Delivers rep ('\'' :: cs) [.quoted v] := by
  intro s hs
  have hstep : s.step rep '\'' = { s.open_ .quote with position := s.position.advance '\'' } := by
    rw [State.step_of_none hs]
    rfl
  have inside := h (s.step rep '\'') (by rw [hstep]; rfl)
  rw [hstep] at inside
  rwa [State.run_cons, hstep]

/-! ### Symbols and keywords -/

namespace State

variable {s : State} {c : Char} {cs : List Char}

/-- A character that does nothing but change the token. -/
theorem step_of_take {t : Token} (h : s.take rep c = { s with token := t }) :
    (s.step rep c).token = t ∧ (s.step rep c).view = s.view := by
  unfold step
  rw [h]
  exact ⟨rfl, rfl⟩

/-- A token that grows by characters of some kind grows by a row of them. -/
theorem run_of_grows {token : List Char → Token} {kind : Char → Bool} {chars : List Char}
    (grows : ∀ (s : State) (chars : List Char) (c : Char), s.token = token chars →
      kind c = true → s.take rep c = { s with token := token (c :: chars) })
    (h : s.token = token chars) (hcs : ∀ c ∈ cs, kind c = true) :
    (s.run rep cs).token = token (cs.reverse ++ chars) ∧ (s.run rep cs).view = s.view := by
  induction cs generalizing s chars with
  | nil => exact ⟨h, rfl⟩
  | cons c cs ih =>
    rw [List.forall_mem_cons] at hcs
    obtain ⟨htoken, hview⟩ := step_of_take (grows s chars c h hcs.1)
    obtain ⟨htoken', hview'⟩ := ih htoken hcs.2
    exact ⟨by simpa using htoken', hview'.trans hview⟩

theorem run_symbol (rep : Representation) {chars : List Char} (h : s.token = .symbol chars)
    (hcs : ∀ c ∈ cs, isSymbolChar c = true) :
    (s.run rep cs).token = .symbol (cs.reverse ++ chars) ∧ (s.run rep cs).view = s.view :=
  run_of_grows (fun s chars c h hc => by simp [take, h, inSymbol, hc]) h hcs

theorem run_keyword (rep : Representation) {auto : Bool} {chars : List Char}
    (h : s.token = .keyword auto chars) (hcs : ∀ c ∈ cs, isSymbolChar c = true) :
    (s.run rep cs).token = .keyword auto (cs.reverse ++ chars) ∧ (s.run rep cs).view = s.view :=
  run_of_grows (fun s chars c h hc => by simp [take, h, inKeyword, hc]) h hcs

theorem run_digits (rep : Representation) {signed point : Bool} {chars : List Char}
    (h : s.token = .number signed point chars) (hcs : ∀ c ∈ cs, c.isDigit = true) :
    (s.run rep cs).token = .number signed point (cs.reverse ++ chars) ∧
      (s.run rep cs).view = s.view := by
  refine run_of_grows (fun s chars c h hc => ?_) h hcs
  have h₁ : c ≠ '.' := ne_of_class hc (by decide)
  have h₂ : c ≠ '-' := ne_of_class hc (by decide)
  have h₃ : c ≠ '+' := ne_of_class hc (by decide)
  simp [take, h, inNumber, h₁, h₂, h₃, hc]

omit [Tables] in
theorem rests_symbol {chars : List Char} (h : s.token = .symbol chars) :
    s.Rests (deliver s.view (symbolValue chars)) := by
  have hend : s.endToken = s.finish (symbolValue chars) := by simp [endToken, h]
  exact ⟨by simp [h, Token.endsAtBlank], by rw [hend, finish_token], by rw [hend, view_finish]⟩

omit [Tables] in
theorem rests_sign (h : s.token = .sign c) : s.Rests (deliver s.view (symbolValue [c])) := by
  have hend : s.endToken = s.finish (symbolValue [c]) := by simp [endToken, h]
  exact ⟨by simp [h, Token.endsAtBlank], by rw [hend, finish_token], by rw [hend, view_finish]⟩

omit [Tables] in
theorem rests_keyword {auto : Bool} {chars : List Char} (h : s.token = .keyword auto chars)
    (hne : chars ≠ []) : s.Rests (deliver s.view (keywordValue auto chars)) := by
  have hend : s.endToken = s.finish (keywordValue auto chars) := by
    simp [endToken, h, finishKeyword, hne]
  exact ⟨by simp [h, Token.endsAtBlank], by rw [hend, finish_token], by rw [hend, view_finish]⟩

omit [Tables] in
theorem rests_number {signed point : Bool} {chars : List Char} {n : Number}
    (h : s.token = .number signed point chars)
    (hn : Number.parseChars? chars.reverse = some n) : s.Rests (deliver s.view (.number n)) := by
  have hend : s.endToken = s.finish (.number n) := by simp [endToken, h, finishNumber, hn]
  exact ⟨by simp [h, Token.endsAtBlank], by rw [hend, finish_token], by rw [hend, view_finish]⟩

/-- A character begins a token where none is being read. -/
theorem step_of_begin {t : Token} (h : s.token = .none) (hc : s.fresh rep c = s.begin t) :
    (s.step rep c).token = t ∧ (s.step rep c).view = s.view := by
  rw [step_of_none h, hc]
  exact ⟨rfl, rfl⟩

theorem fresh_symbol (rep : Representation) (h : isSymbolChar c = true)
    (hd : c.isDigit = false) (hs : ¬ (c = '-' ∨ c = '+')) :
    s.fresh rep c = s.begin (.symbol [c]) := by
  have h₁ : c ≠ ';' := ne_of_class h (by decide)
  have h₂ : c ≠ '"' := ne_of_class h (by decide)
  have h₃ : c ≠ ':' := ne_of_class h (by decide)
  have h₄ : c ≠ '\'' := ne_of_class h (by decide)
  have h₅ : c ≠ '(' := ne_of_class h (by decide)
  have h₆ : c ≠ '[' := ne_of_class h (by decide)
  have h₇ : c ≠ '\x7b' := ne_of_class h (by decide)
  have h₈ : c ≠ '#' := ne_of_class h (by decide)
  simp [fresh, isSeparator_of_isSymbolChar h, isClosing_of_isSymbolChar h, h₁, h₂, h₃, h₄, h₅, h₆,
    h₇, h₈, h, hd, hs]

theorem fresh_sign (rep : Representation) (h : c = '-' ∨ c = '+') :
    s.fresh rep c = s.begin (.sign c) := by
  rcases h with rfl | rfl <;> rfl

theorem fresh_digit (rep : Representation) (h : c.isDigit = true) :
    s.fresh rep c = s.begin (.number false false [c]) := by
  have hsymbol := isSymbolChar_of_isDigit h
  have h₁ : c ≠ ';' := ne_of_class h (by decide)
  have h₂ : c ≠ '"' := ne_of_class h (by decide)
  simp [fresh, isSeparator_of_isSymbolChar hsymbol, isClosing_of_isSymbolChar hsymbol, h₁, h₂, h]

end State

/-- The text of a symbol delivers it. -/
theorem delivers_symbol {cs : List Char} (h : SymbolText cs) :
    Delivers rep cs [symbolValue cs.reverse] := by
  obtain ⟨hne, hchars, hnumber⟩ := h
  intro s hs
  cases cs with
  | nil => exact absurd rfl hne
  | cons c cs =>
    rw [List.forall_mem_cons] at hchars
    simp only [startsNumber, Bool.or_eq_false_iff, Bool.and_eq_false_iff] at hnumber
    -- behind a sign the reader cannot tell yet whether a number or a symbol follows
    by_cases hsign : c = '-' ∨ c = '+'
    · obtain ⟨htoken, hview⟩ := State.step_of_begin hs (State.fresh_sign rep hsign)
      cases cs with
      | nil => exact hview ▸ State.rests_sign htoken
      | cons d ds =>
        have hdigit : d.isDigit = false := by
          rcases hsign with rfl | rfl <;> simpa using hnumber.2
        rw [List.forall_mem_cons] at hchars
        have htake : (s.step rep c).take rep d =
            { s.step rep c with token := .symbol [d, c] } := by
          simp [State.take, htoken, hdigit, State.inSymbol, hchars.2.1]
        obtain ⟨htoken₁, hview₁⟩ := State.step_of_take htake
        obtain ⟨htoken₂, hview₂⟩ := State.run_symbol rep htoken₁ hchars.2.2
        have rests := State.rests_symbol htoken₂
        rw [hview₂, hview₁, hview] at rests
        simpa using rests
    · obtain ⟨htoken, hview⟩ :=
        State.step_of_begin hs (State.fresh_symbol rep hchars.1 hnumber.1 hsign)
      obtain ⟨htoken', hview'⟩ := State.run_symbol rep htoken hchars.2
      have rests := State.rests_symbol htoken'
      rw [hview', hview] at rests
      simpa using rests

/-- The text of a keyword delivers it. -/
theorem delivers_keyword {auto : Bool} {cs : List Char} (hne : cs ≠ [])
    (h : ∀ c ∈ cs, isSymbolChar c = true) :
    Delivers rep (':' :: if auto then ':' :: cs else cs) [keywordValue auto cs.reverse] := by
  intro s hs
  obtain ⟨htoken, hview⟩ : (s.step rep ':').token = .colon ∧ (s.step rep ':').view = s.view :=
    State.step_of_begin hs rfl
  cases auto with
  | true =>
    have htake : (s.step rep ':').take rep ':' =
        { s.step rep ':' with token := .keyword true [] } := by
      simp [State.take, htoken]
    obtain ⟨htoken₁, hview₁⟩ := State.step_of_take htake
    obtain ⟨htoken₂, hview₂⟩ := State.run_keyword rep htoken₁ h
    have rests := State.rests_keyword htoken₂ (by simpa using hne)
    rw [hview₂, hview₁, hview] at rests
    simpa using rests
  | false =>
    -- the first character is no second colon, as colons do not belong to symbols
    obtain ⟨c, cs, rfl⟩ := List.exists_cons_of_ne_nil hne
    rw [List.forall_mem_cons] at h
    have hcolon : c ≠ ':' := ne_of_class h.1 (by decide)
    have htake : (s.step rep ':').take rep c =
        { s.step rep ':' with token := .keyword false [c] } := by
      simp [State.take, htoken, hcolon, State.inKeyword, h.1]
    obtain ⟨htoken₁, hview₁⟩ := State.step_of_take htake
    obtain ⟨htoken₂, hview₂⟩ := State.run_keyword rep htoken₁ h.2
    have rests := State.rests_keyword htoken₂ (by simp)
    rw [hview₂, hview₁, hview] at rests
    simpa using rests

/-! ### Strings -/

/-- The written form of a character stands for the character. -/
theorem State.run_escapeChar (rep : Representation) {s : State} {chars : List Char}
    (h : s.token = .string chars) (c : Char) :
    (s.run rep (Text.escapeChar c)).token = .string (c :: chars) ∧
      (s.run rep (Text.escapeChar c)).view = s.view := by
  have behind : ∀ d, d ≠ 'u' → escaped d = c →
      (s.run rep ['\\', d]).token = .string (c :: chars) ∧ (s.run rep ['\\', d]).view = s.view := by
    intro d hd hc
    have hslash : s.take rep '\\' = { s with token := .escape chars } := by
      simp [State.take, h]
    obtain ⟨htoken, hview⟩ := State.step_of_take hslash
    have hletter : (s.step rep '\\').take rep d =
        { s.step rep '\\' with token := .string (c :: chars) } := by
      simp [State.take, htoken, hd, hc]
    obtain ⟨htoken', hview'⟩ := State.step_of_take hletter
    exact ⟨htoken', hview'.trans hview⟩
  -- eight characters are written with a backslash and all others as they are
  unfold Text.escapeChar
  split_ifs with h₁ h₂ h₃ h₄ h₅ h₆ h₇ h₈
  · exact behind 'n' (by decide) h₁.symm
  · exact behind 't' (by decide) h₂.symm
  · exact behind 'r' (by decide) h₃.symm
  · exact behind 'v' (by decide) h₄.symm
  · exact behind 'b' (by decide) h₅.symm
  · exact behind 'f' (by decide) h₆.symm
  · exact behind '\\' (by decide) h₇.symm
  · exact behind '"' (by decide) h₈.symm
  · exact State.step_of_take (by simp [State.take, h, h₇, h₈])

theorem State.run_escape (rep : Representation) {s : State} {chars : List Char}
    (h : s.token = .string chars) (cs : List Char) :
    (s.run rep (Text.escape cs)).token = .string (cs.reverse ++ chars) ∧
      (s.run rep (Text.escape cs)).view = s.view := by
  induction cs generalizing s chars with
  | nil => exact ⟨h, rfl⟩
  | cons c cs ih =>
    obtain ⟨htoken, hview⟩ := State.run_escapeChar rep h c
    obtain ⟨htoken', hview'⟩ := ih htoken
    rw [show Text.escape (c :: cs) = Text.escapeChar c ++ Text.escape cs from List.flatMap_cons,
      State.run_append]
    exact ⟨by simpa using htoken', hview'.trans hview⟩

/-- A string in double quotes delivers it. -/
theorem delivers_string (text : String) : Delivers rep (Text.quote text).toList [.string text] := by
  intro s hs
  obtain ⟨htoken, hview⟩ : (s.step rep '"').token = .string [] ∧ (s.step rep '"').view = s.view :=
    State.step_of_begin hs rfl
  obtain ⟨htoken₁, hview₁⟩ := State.run_escape rep htoken text.toList
  have hquote : (Text.quote text).toList = '"' :: Text.escape text.toList ++ ['"'] := by
    simp [Text.quote]
  -- the state in front of the closing quote
  obtain ⟨t, ht⟩ : ∃ t, t = (s.step rep '"').run rep (Text.escape text.toList) := ⟨_, rfl⟩
  rw [← ht] at htoken₁ hview₁
  have htake : t.take rep '"' = t.finish (.string text) := by
    simp [State.take, htoken₁]
  have hclosed : (t.step rep '"').token = .none ∧
      (t.step rep '"').view = deliver s.view (.string text) := by
    unfold State.step
    rw [htake, State.view_position, State.view_finish, hview₁, hview]
    exact ⟨State.finish_token, rfl⟩
  have hrun : s.run rep (Text.quote text).toList = t.step rep '"' := by
    rw [hquote, ht, State.run_append]
    rfl
  have rests := State.rests_of_none hclosed.1
  rwa [hclosed.2, ← hrun] at rests

/-! ### Numbers -/

/-- A sign and the first digit begin a number. -/
theorem State.run_signed {s : State} (minus : Bool) {c : Char} (h : s.token = .none)
    (hc : c.isDigit = true) :
    (s.run rep (Number.signed minus [c])).token =
        .number minus false (Number.signed minus [c]).reverse ∧
      (s.run rep (Number.signed minus [c])).view = s.view := by
  cases minus with
  | false => exact State.step_of_begin h (State.fresh_digit rep hc)
  | true =>
    obtain ⟨htoken, hview⟩ := State.step_of_begin h (State.fresh_sign rep (.inl rfl))
    have htake : (s.step rep '-').take rep c =
        { s.step rep '-' with token := .number true false [c, '-'] } := by
      simp [State.take, htoken, hc]
    obtain ⟨htoken', hview'⟩ := State.step_of_take htake
    exact ⟨htoken', hview'.trans hview⟩

/-- The digits before and behind the point go to the number. -/
theorem State.run_numeral {s : State} (minus : Bool) (t : Number.Numeral) (h : s.token = .none) :
    ∃ point, (s.run rep (Number.signed minus t.chars)).token =
        .number minus point (Number.signed minus t.chars).reverse ∧
      (s.run rep (Number.signed minus t.chars)).view = s.view := by
  obtain ⟨whole, fraction, hne, hwhole, hfraction⟩ := t
  obtain ⟨c, cs, rfl⟩ := List.exists_cons_of_ne_nil hne
  rw [List.forall_mem_cons] at hwhole
  obtain ⟨htoken, hview⟩ := State.run_signed minus h hwhole.1
  obtain ⟨htoken₁, hview₁⟩ := State.run_digits rep htoken hwhole.2
  have signed_append : ∀ ds, Number.signed minus (c :: ds) = Number.signed minus [c] ++ ds := by
    intro ds
    cases minus <;> rfl
  cases fraction with
  | nil =>
    refine ⟨false, ?_⟩
    simp only [Number.Numeral.chars, List.isEmpty_nil, if_true, List.append_nil]
    rw [signed_append, State.run_append, List.reverse_append]
    exact ⟨htoken₁, hview₁.trans hview⟩
  | cons d ds =>
    refine ⟨true, ?_⟩
    have hpoint : ∀ u : State, ∀ chars, u.token = .number minus false chars →
        u.take rep '.' = { u with token := .number minus true ('.' :: chars) } := by
      intro u chars hu
      simp [State.take, hu, State.inNumber]
    obtain ⟨htoken₂, hview₂⟩ := State.step_of_take (hpoint _ _ htoken₁)
    obtain ⟨htoken₃, hview₃⟩ := State.run_digits rep htoken₂ hfraction
    simp only [Number.Numeral.chars, List.isEmpty_cons, Bool.false_eq_true, if_false,
      List.cons_append]
    rw [signed_append, State.run_append, State.run_append, State.run_cons]
    refine ⟨?_, hview₃.trans (hview₂.trans (hview₁.trans hview))⟩
    rw [htoken₃]
    simp

/-- A numeral with or without a minus sign delivers its number. -/
theorem delivers_number (minus : Bool) (t : Number.Numeral) :
    Delivers rep (Number.signed minus t.chars) [.number (t.decimal.toNumber minus)] := by
  intro s hs
  obtain ⟨point, htoken, hview⟩ := State.run_numeral minus t hs
  have rests := State.rests_number htoken (n := t.decimal.toNumber minus)
    (by rw [List.reverse_reverse, t.parseChars?_signed])
  rwa [hview] at rests

end Lisp.Reader
