import Lisp.Text.Grapheme.Table

/-!
# Graphemes

Texts are counted and split by extended grapheme clusters: what a reader takes for one character.

## Main definitions

* `Text.Grapheme.Break` — how a character behaves at a grapheme boundary
* `Text.Grapheme.Context` — what the characters so far say about the next boundary
* `Text.graphemes` — the graphemes of a text, in order
-/

namespace Lisp.Text

namespace Grapheme

/-- How a character behaves at a grapheme boundary. -/
inductive Break where
  | carriageReturn | lineFeed | control | extend | joiner | flag | prepended | spacingMark
  | leading | vowel | trailing | syllable | closedSyllable | pictograph | consonant | other
deriving DecidableEq

/-- The boundary behaviour of a character. -/
def Break.ofChar (c : Char) : Break :=
  let n := c.toNat
  if c = '\r' then .carriageReturn
  else if c = '\n' then .lineFeed
  else if n < 0x20 then .control
  else if n < 0x7F then .other
  else if n = 0x200D then .joiner
  else if controlRanges.contains n then .control
  else if extendRanges.contains n then .extend
  else if 0x1F1E6 ≤ n && n ≤ 0x1F1FF then .flag
  else if prependRanges.contains n then .prepended
  else if spacingMarkRanges.contains n then .spacingMark
  else if (0x1100 ≤ n && n ≤ 0x115F) || (0xA960 ≤ n && n ≤ 0xA97C) then .leading
  else if (0x1160 ≤ n && n ≤ 0x11A7) || (0xD7B0 ≤ n && n ≤ 0xD7C6) || n = 0x16D63 ||
      (0x16D67 ≤ n && n ≤ 0x16D6A) then .vowel
  else if (0x11A8 ≤ n && n ≤ 0x11FF) || (0xD7CB ≤ n && n ≤ 0xD7FB) then .trailing
  else if 0xAC00 ≤ n && n ≤ 0xD7A3 then
    if (n - 0xAC00) % 28 = 0 then .syllable else .closedSyllable
  else if pictographRanges.contains n then .pictograph
  else if consonantRanges.contains n then .consonant
  else .other

/-- Whether a character links two consonants into a conjunct. -/
def isLinker (c : Char) : Bool := linkerRanges.containsChar c

/-- How far a conjunct of consonants has come. -/
inductive Conjunct where
  /-- No consonant is waiting. -/
  | none
  /-- A consonant, not linked yet. -/
  | waiting
  /-- A consonant with a linker behind it. -/
  | linked
deriving DecidableEq

/-- What the characters of the current grapheme say about the boundary behind them. -/
structure Context where
  /-- The behaviour of the last character. -/
  last : Break
  /-- A pictograph and nothing but extending characters behind it. -/
  pictograph : Bool
  /-- The same, with a joiner at the very end. -/
  joined : Bool
  /-- An odd number of flag letters at the end. -/
  oddFlags : Bool
  /-- The state of a conjunct. -/
  conjunct : Conjunct

/-- The context behind a character, given the context before it. -/
def Context.push (before : Option Context) (c : Char) : Context :=
  let b := Break.ofChar c
  { last := b
    pictograph := b = .pictograph || (b = .extend && before.any (·.pictograph))
    joined := b = .joiner && before.any (·.pictograph)
    oddFlags := b = .flag && !before.any (·.oddFlags)
    conjunct :=
      if b = .consonant then .waiting
      else match before with
        | some k =>
          if k.conjunct = .none then .none
          else if isLinker c then .linked
          else if (b = .extend && c.toNat != 0x200C) || b = .joiner then k.conjunct
          else .none
        | none => .none }

/-- Whether a grapheme ends between a context and the character after it. -/
def Context.endsBefore (k : Context) (c : Char) : Bool :=
  let b := Break.ofChar c
  if k.last = .carriageReturn && b = .lineFeed then false
  else if k.last matches .carriageReturn | .lineFeed | .control then true
  else if b matches .carriageReturn | .lineFeed | .control then true
  else if b matches .extend | .joiner | .spacingMark then false
  else if k.last = .prepended then false
  else
    match k.last, b with
    | .leading, .leading | .leading, .vowel | .leading, .syllable | .leading, .closedSyllable
    | .syllable, .vowel | .syllable, .trailing | .vowel, .vowel | .vowel, .trailing
    | .closedSyllable, .trailing | .trailing, .trailing => false
    | _, .consonant => k.conjunct != .linked
    | .joiner, .pictograph => !k.joined
    | .flag, .flag => !k.oddFlags
    | _, _ => true

/-- The graphemes of the rest of a text, after a grapheme so far (in reverse) and its context. -/
def split : List Char → Option (List Char × Context) → List (List Char)
  | [], none => []
  | [], some (acc, _) => [acc.reverse]
  | c :: rest, none => split rest (some ([c], Context.push none c))
  | c :: rest, some (acc, k) =>
    if k.endsBefore c then acc.reverse :: split rest (some ([c], Context.push none c))
    else split rest (some (c :: acc, Context.push (some k) c))

end Grapheme

/-- The graphemes of a text, in order. -/
def graphemes (s : String) : List String :=
  (Grapheme.split s.toList none).map String.ofList

end Lisp.Text
