import Lisp.Proofs.Reader.Run

/-!
# What one character can do

All that a character can do to the state of the reader, told once and with what is known in each
case: it is passed over, it goes on with the token being read, it completes that token, or it ends
the token and is then taken where no token is being read. A token may also end badly, and some
refuse a character. Whatever the reader keeps true at every character is proved by going through
these cases, and so it is at the end of the text.

## Main definitions

* `Reader.Token.Becomes` — the tokens that a character leads to from within a token
* `Reader.Token.Means` — the value that a token stands for once it has ended
* `Reader.Token.EndsBadly`, `Reader.Token.Refuses`, `Reader.Token.IsCut` — the faults of tokens
* `Reader.State.Closes`, `Reader.State.Takes`, `Reader.State.Ends` — what can become of a state

## Main results

* `Reader.State.closes_closing` — all that a closing bracket can do
* `Reader.State.takes_take` — all that a character can do
* `Reader.State.ends_endToken` — all that the end of the text can do
-/

namespace Lisp.Reader

open Text (Position)

/-! ### Tokens -/

namespace Token

/-- A character goes on with a token, or ends a comment. -/
inductive Becomes (c : Char) : Token → Token → Prop where
  | newline (h : c = '\n') : Becomes c .comment .none
  | signed {sign : Char} (h : c.isDigit = true) :
    Becomes c (.sign sign) (.number true false [c, sign])
  | signSymbol {sign : Char} (h : isSymbolChar c = true) (hd : c.isDigit = false) :
    Becomes c (.sign sign) (.symbol [c, sign])
  | point {signed : Bool} {chars : List Char} (h : c = '.') :
    Becomes c (.number signed false chars) (.number signed true (c :: chars))
  | digit {signed point : Bool} {chars : List Char} (h : c.isDigit = true) :
    Becomes c (.number signed point chars) (.number signed point (c :: chars))
  | symbol {chars : List Char} (h : isSymbolChar c = true) :
    Becomes c (.symbol chars) (.symbol (c :: chars))
  | secondColon (h : c = ':') : Becomes c .colon (.keyword true [])
  | firstOfName (h : isSymbolChar c = true) : Becomes c .colon (.keyword false [c])
  | keyword {auto : Bool} {chars : List Char} (h : isSymbolChar c = true) :
    Becomes c (.keyword auto chars) (.keyword auto (c :: chars))
  | hashQuote {start : Position} (h : c = '"') : Becomes c (.hash start) (.regex [])
  | string {chars : List Char} : Becomes c (.string chars) (.string (c :: chars))
  | backslash {chars : List Char} : Becomes c (.string chars) (.escape chars)
  | escapedU {chars : List Char} : Becomes c (.escape chars) (.unicode chars [])
  | escaped {chars : List Char} : Becomes c (.escape chars) (.string (escaped c :: chars))
  | hexDigit {chars digits : List Char} :
    Becomes c (.unicode chars digits) (.unicode chars (digits ++ [c]))
  | lastHexDigit {chars digits : List Char} :
    Becomes c (.unicode chars digits) (.string (Char.ofNat (hexValue (digits ++ [c])) :: chars))
  | regex {chars : List Char} (hquote : c ≠ '"') (hslash : c ≠ '\\') :
    Becomes c (.regex chars) (.regex (c :: chars))
  | regexBackslash {chars : List Char} : Becomes c (.regex chars) (.regexEscape chars)
  | regexQuote {chars : List Char} (h : c = '"') :
    Becomes c (.regexEscape chars) (.regex (c :: chars))
  | regexEscaped {chars : List Char} (h : c ≠ '"') :
    Becomes c (.regexEscape chars) (.regex (c :: '\\' :: chars))

/-- The value that a token stands for once it has ended. -/
inductive Means : Token → Value → Prop where
  | sign {c : Char} : Means (.sign c) (symbolValue [c])
  | symbol {chars : List Char} : Means (.symbol chars) (symbolValue chars)
  | number {signed point : Bool} {chars : List Char} {n : Number}
    (h : Number.parseChars? chars.reverse = some n) : Means (.number signed point chars) (.number n)
  | keyword {auto : Bool} {chars : List Char} (h : chars ≠ []) :
    Means (.keyword auto chars) (keywordValue auto chars)
  | string {chars : List Char} : Means (.string chars) (.string (String.ofList chars.reverse))
  | regex {chars : List Char} {pattern : Regex.Pattern}
    (h : Regex.parse (String.ofList chars.reverse) = .ok pattern) :
    Means (.regex chars) (.regex (String.ofList chars.reverse))

/-- The fault of a token that may not end where it does. `here` is the place behind it. -/
inductive EndsBadly (here : Position) : Token → Fault → Prop where
  | number {signed point : Bool} {chars : List Char}
    (h : Number.parseChars? chars.reverse = Option.none) :
    EndsBadly here (.number signed point chars)
      ⟨.invalidNumber (String.ofList chars.reverse), here⟩
  | colon : EndsBadly here .colon ⟨.emptyKeyword, here⟩
  | keyword {auto : Bool} : EndsBadly here (.keyword auto []) ⟨.emptyKeyword, here⟩
  | hash {start : Position} : EndsBadly here (.hash start) ⟨.strayCharacter '#', start⟩

/-- The fault of a character that a token cannot go on with, nor end at. The place is the one before
the character or the one behind it. -/
inductive Refuses (c : Char) (before behind : Position) : Token → Fault → Prop where
  | number {signed point : Bool} {chars : List Char} :
    Refuses c before behind (.number signed point chars) ⟨.misplaced c, before⟩
  | shortUnicode {chars digits : List Char} :
    Refuses c before behind (.unicode chars digits) ⟨.shortUnicodeEscape, behind⟩
  | invalidUnicode {chars digits : List Char} :
    Refuses c before behind (.unicode chars digits)
      ⟨.invalidUnicodeEscape (String.ofList (digits ++ [c])), behind⟩
  | regex {chars : List Char} {report : String} :
    Refuses c before behind (.regex chars) ⟨.invalidRegex report, behind⟩

/-- The fault of a token that the end of the text cuts off. -/
inductive IsCut (here : Position) : Token → Fault → Prop where
  | string {chars : List Char} : IsCut here (.string chars) ⟨.unterminatedString, here⟩
  | escape {chars : List Char} : IsCut here (.escape chars) ⟨.unterminatedString, here⟩
  | unicode {chars digits : List Char} :
    IsCut here (.unicode chars digits) ⟨.shortUnicodeEscape, here⟩
  | regex {chars : List Char} : IsCut here (.regex chars) ⟨.unterminatedRegex, here⟩
  | regexEscape {chars : List Char} : IsCut here (.regexEscape chars) ⟨.unterminatedRegex, here⟩

end Token

variable [Tables]

namespace State

variable {rep : Representation} {s : State} {c : Char}

/-! ### Closing brackets -/

/-- What a closing bracket can do. -/
inductive Closes (rep : Representation) (s : State) (c : Char) : State → Prop where
  | stray : Closes rep s c s
  | quote {rest : List Pending} (hp : s.pending = .quote :: rest) :
    Closes rep s c (s.fail (.strayCharacter c) s.position)
  | group {d : Delimiter} {items : List Value} {rest : List Pending}
    (hp : s.pending = .group d items :: rest) :
    Closes rep s c ({ s with pending := rest }.finish (groupValue rep d items.reverse))
  | oddMap {items : List Value} {rest : List Pending} (hp : s.pending = .group .map items :: rest) :
    Closes rep s c ({ s with pending := rest }.fail .oddMap (s.position.advance c))

theorem closes_closing (rep : Representation) (s : State) (c : Char) :
    Closes rep s c (s.closing rep c) := by
  unfold closing
  split
  · exact .stray
  · next hp => exact .quote hp
  · next d items rest hp =>
    split
    · by_cases fits : d.Fits items.length
      · rw [finishGroup_eq fits]
        exact .group hp
      · -- only a map can be at odds with its items
        obtain ⟨rfl, hodd⟩ : d = .map ∧ ¬ items.length % 2 = 0 := by
          simpa [Delimiter.Fits] using fits
        simp only [finishGroup, hodd, if_false]
        exact .oddMap hp
    · exact .stray

/-! ### Characters -/

/-- What a character can do. -/
inductive Takes (rep : Representation) (s : State) (c : Char) : State → Prop where
  | passes : Takes rep s c s
  | fresh (h : s.token = .none) : Takes rep s c (s.fresh rep c)
  | becomes {t : Token} (h : s.token.Becomes c t) : Takes rep s c { s with token := t }
  | opensSet {start : Position} (h : s.token = .hash start) :
    Takes rep s c { s with token := .none, pending := .group .set [] :: s.pending }
  | completes {v : Value} (h : s.token.Means v) : Takes rep s c (s.finish v)
  | ends {v : Value} (h : s.token.Means v) : Takes rep s c ((s.finish v).fresh rep c)
  | endsBadly {f : Fault} (h : s.token.EndsBadly s.position f) :
    Takes rep s c { s with token := .failed f }
  | refuses {f : Fault} (h : s.token.Refuses c s.position (s.position.advance c) f) :
    Takes rep s c { s with token := .failed f }

theorem resume_finish (rep : Representation) (s : State) (v : Value) (c : Char) :
    (s.finish v).resume rep c = (s.finish v).fresh rep c := by
  simp only [resume, finish_token]

theorem takes_inSymbol {chars : List Char} (means : s.token.Means (symbolValue chars))
    (becomes : isSymbolChar c = true → s.token.Becomes c (.symbol (c :: chars))) :
    Takes rep s c (s.inSymbol rep chars c) := by
  unfold inSymbol
  split
  · next hc => exact .becomes (becomes hc)
  · rw [resume_finish]
    exact .ends means

theorem takes_finishKeyword {auto : Bool} {chars : List Char} (h : s.token = .keyword auto chars) :
    Takes rep s c ((s.finishKeyword auto chars).resume rep c) := by
  unfold finishKeyword
  split
  · next hempty =>
    obtain rfl := List.isEmpty_iff.1 hempty
    exact .endsBadly (h ▸ .keyword)
  · next hne =>
    rw [resume_finish]
    exact .ends (h ▸ .keyword (by simpa using hne))

theorem takes_finishNumber {signed point : Bool} {chars : List Char}
    (h : s.token = .number signed point chars) :
    Takes rep s c ((s.finishNumber chars).resume rep c) := by
  unfold finishNumber
  split
  · next n hn =>
    rw [resume_finish]
    exact .ends (h ▸ .number hn)
  · next hn => exact .endsBadly (h ▸ .number hn)

theorem takes_inNumber {signed point : Bool} {chars : List Char}
    (h : s.token = .number signed point chars) :
    Takes rep s c (s.inNumber rep signed point chars c) := by
  unfold inNumber
  split
  · next hc =>
    cases point with
    | true => exact .refuses (h ▸ .number)
    | false => exact .becomes (h ▸ .point hc)
  split
  · exact .refuses (h ▸ .number)
  split
  · next hc => exact .becomes (h ▸ .digit hc)
  split
  · exact .passes
  · exact takes_finishNumber h

theorem takes_inUnicode {chars digits : List Char} (h : s.token = .unicode chars digits) :
    Takes rep s c (s.inUnicode chars digits c) := by
  unfold inUnicode
  dsimp only
  split
  · split
    · exact .becomes (h ▸ .hexDigit)
    split
    · exact .becomes (h ▸ .lastHexDigit)
    · exact .refuses (h ▸ .invalidUnicode)
  · exact .refuses (h ▸ .shortUnicode)

theorem takes_finishRegex {chars : List Char} (h : s.token = .regex chars) :
    Takes rep s c (s.finishRegex chars (s.position.advance c)) := by
  unfold finishRegex
  dsimp only
  split
  · next pattern hpattern => exact .completes (h ▸ .regex hpattern)
  · exact .refuses (h ▸ .regex)

/-- All that a character can do. -/
theorem takes_take (rep : Representation) (s : State) (c : Char) :
    Takes rep s c (s.take rep c) := by
  unfold take
  cases h : s.token with
  | failed f => exact .passes
  | none => exact .fresh h
  | comment =>
    dsimp only
    split
    · next hc => exact .becomes (h ▸ .newline hc)
    · exact .passes
  | sign sign =>
    dsimp only
    split
    · next hc => exact .becomes (h ▸ .signed hc)
    · next hd =>
      exact takes_inSymbol (h ▸ .sign) fun hc => h ▸ .signSymbol hc (by simpa using hd)
  | number signed point chars => exact takes_inNumber h
  | symbol chars => exact takes_inSymbol (h ▸ .symbol) fun hc => h ▸ .symbol hc
  | colon =>
    dsimp only
    split
    · next hc => exact .becomes (h ▸ .secondColon hc)
    · unfold inKeyword
      split
      · next hc => exact .becomes (h ▸ .firstOfName hc)
      · exact .endsBadly (h ▸ .colon)
  | keyword auto chars =>
    dsimp only [inKeyword]
    split
    · next hc => exact .becomes (h ▸ .keyword hc)
    · exact takes_finishKeyword h
  | hash start =>
    dsimp only
    split
    · exact .opensSet h
    split
    · next hc => exact .becomes (h ▸ .hashQuote hc)
    · exact .endsBadly (h ▸ .hash)
  | string chars =>
    dsimp only
    split
    · exact .completes (h ▸ .string)
    split
    · exact .becomes (h ▸ .backslash)
    · exact .becomes (h ▸ .string)
  | escape chars =>
    dsimp only
    split
    · exact .becomes (h ▸ .escapedU)
    · exact .becomes (h ▸ .escaped)
  | unicode chars digits => exact takes_inUnicode h
  | regex chars =>
    dsimp only
    split
    · exact takes_finishRegex h
    next hquote =>
    split
    · exact .becomes (h ▸ .regexBackslash)
    · next hslash => exact .becomes (h ▸ .regex hquote hslash)
  | regexEscape chars =>
    dsimp only
    split
    · next hc => exact .becomes (h ▸ .regexQuote hc)
    · next hc => exact .becomes (h ▸ .regexEscaped hc)

/-! ### The end of the text -/

/-- What the end of the text can do. -/
inductive Ends (s : State) : State → Prop where
  | stays : Ends s s
  | means {v : Value} (h : s.token.Means v) : Ends s (s.finish v)
  | endsBadly {f : Fault} (h : s.token.EndsBadly s.position f) :
    Ends s { s with token := .failed f }
  | isCut {f : Fault} (h : s.token.IsCut s.position f) : Ends s { s with token := .failed f }

omit [Tables] in
/-- All that the end of the text can do. -/
theorem ends_endToken (s : State) : s.Ends s.endToken := by
  unfold endToken
  cases h : s.token with
  | none | comment | failed _ => exact .stays
  | sign c => exact .means (h ▸ .sign)
  | symbol chars => exact .means (h ▸ .symbol)
  | number signed point chars =>
    dsimp only [finishNumber]
    split
    · next n hn => exact .means (h ▸ .number hn)
    · next hn => exact .endsBadly (h ▸ .number hn)
  | keyword auto chars =>
    dsimp only [finishKeyword]
    split
    · next hempty =>
      obtain rfl := List.isEmpty_iff.1 hempty
      exact .endsBadly (h ▸ .keyword)
    · next hne => exact .means (h ▸ .keyword (by simpa using hne))
  | colon => exact .endsBadly (h ▸ .colon)
  | hash start => exact .endsBadly (h ▸ .hash)
  | string chars => exact .isCut (h ▸ .string)
  | escape chars => exact .isCut (h ▸ .escape)
  | unicode chars digits => exact .isCut (h ▸ .unicode)
  | regex chars => exact .isCut (h ▸ .regex)
  | regexEscape chars => exact .isCut (h ▸ .regexEscape)

end State

end Lisp.Reader
