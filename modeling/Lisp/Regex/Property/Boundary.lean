import Lisp.Regex.Property.Binary
import Lisp.Text.Script.Table

/-!
# How characters behave at boundaries

Graphemes, words and sentences end between characters of certain kinds. The kinds partition the
characters that matter for each sort of boundary.

## Main definitions

* `Property.graphemeBreak?`, `Property.wordBreak?`, `Property.sentenceBreak?` — the characters of a
  kind, by its name
-/

namespace Lisp.Regex.Property

open Text.Category Text.Property

/-- Looks a set up by one of its names. -/
def lookUp (table : List (List String × CharSet)) (name : String) : Option CharSet :=
  (table.find? fun e => e.1.contains name).map (·.2)

/-- A carriage return. -/
def carriageReturn : CharSet := .singleton '\r'

/-- A newline. -/
def lineFeed : CharSet := .singleton '\n'

/-- The joiner of pictographs. -/
def joiner : CharSet := .range 0x200D 0x200D

/-- Syllables without a final consonant: every 28th of the Hangul syllables. -/
def openSyllables : CharSet :=
  ⟨(List.range 399).map fun i => (0xAC00 + 28 * i, 0xAC00 + 28 * i)⟩

/-- Characters that stay with the grapheme behind them. -/
def prepended : CharSet :=
  (ofAll [prependedConcatenationMark]).union
    ⟨[(0xD4E, 0xD4E), (0x111C2, 0x111C3), (0x113D1, 0x113D1), (0x1193F, 0x1193F),
      (0x11941, 0x11941), (0x11A3A, 0x11A3A), (0x11A84, 0x11A89), (0x11D46, 0x11D46),
      (0x11F02, 0x11F02)]⟩

/-- Characters that extend a grapheme, skin tones of emoji among them. -/
def extending : CharSet := (graphemeExtend.union (ofAll [emojiModifier])).diff joiner

/-- Spacing marks that do not stay with the grapheme before them. -/
def looseMarks : CharSet :=
  ⟨[(0x102B, 0x102C), (0x1038, 0x1038), (0x1062, 0x1064), (0x1067, 0x106D), (0x1083, 0x1083),
    (0x1087, 0x108C), (0x108F, 0x108F), (0x109A, 0x109C), (0x1A61, 0x1A61), (0x1A63, 0x1A64),
    (0xAA7B, 0xAA7B), (0xAA7D, 0xAA7D), (0x11720, 0x11721)]⟩

/-- Controls and formats, and code points set aside for some. -/
def controls : CharSet :=
  (ofAll [lineSeparator, paragraphSeparator, control, format]).union
      ((CharSet.ofRanges defaultIgnorable).diff (.ofRanges assigned))
    |>.diff ((((carriageReturn.union lineFeed).union joiner).union extending).union prepended)

/-- The kinds of characters at the boundaries of graphemes. -/
def graphemeBreaks : List (List String × CharSet) :=
  [(["cr"], carriageReturn), (["lf"], lineFeed), (["control", "cn"], controls),
    (["extend", "ex"], extending), (["zwj"], joiner),
    (["regionalindicator", "ri"], ofAll [regionalIndicator]), (["prepend", "pp"], prepended),
    (["spacingmark", "sm"],
      ((ofAll [spacingMark]).union ⟨[(0xE33, 0xE33), (0xEB3, 0xEB3)]⟩).diff
        (extending.union looseMarks)),
    (["l"], ⟨[(0x1100, 0x115F), (0xA960, 0xA97C)]⟩),
    (["v"], ⟨[(0x1160, 0x11A7), (0xD7B0, 0xD7C6), (0x16D63, 0x16D63), (0x16D67, 0x16D6A)]⟩),
    (["t"], ⟨[(0x11A8, 0x11FF), (0xD7CB, 0xD7FB)]⟩), (["lv"], openSyllables),
    (["lvt"], (CharSet.range 0xAC00 0xD7A3).diff openSyllables)]

/-- The characters of a kind at the boundaries of graphemes. -/
def graphemeBreak? : String → Option CharSet := lookUp graphemeBreaks

/-- The characters of a script. -/
def script (name : String) : CharSet :=
  ((Text.Script.all.find? fun s => s.1 = name).map fun s => CharSet.ofRanges s.2.2).getD .empty

/-- Digits of all scripts, and what stands among them. -/
def numeric : CharSet :=
  (ofAll [decimalNumber, prependedConcatenationMark]).union (.range 0x66B 0x66B)
    |>.diff (.range 0x70F 0x70F)

/-- Characters of words in Katakana. -/
def katakana : CharSet :=
  (script "katakana").union
    ⟨[(0x3031, 0x3035), (0x309B, 0x309C), (0x30A0, 0x30A0), (0x30FC, 0x30FC), (0xFF70, 0xFF70)]⟩

/-- Letters of the Hebrew script. -/
def hebrewLetter : CharSet := (script "hebrew").inter (ofAll [otherLetter])

/-- Characters that stand like letters in words without being alphabetic. -/
def wordLike : CharSet :=
  ⟨[(0x2C2, 0x2C5), (0x2D2, 0x2D7), (0x2DE, 0x2DF), (0x2E5, 0x2EB), (0x2ED, 0x2ED), (0x2EF, 0x2FF),
    (0x55A, 0x55C), (0x55E, 0x55E), (0x58A, 0x58A), (0x5F3, 0x5F3), (0x70F, 0x70F),
    (0xA708, 0xA716), (0xA720, 0xA721), (0xA789, 0xA78A), (0xAB5B, 0xAB5B)]⟩

/-- Characters that extend what stands before them in a word. -/
def wordExtend : CharSet := extending.union (ofAll [spacingMark])

/-- Letters of scripts that divide words by spaces. -/
def wordLetter : CharSet :=
  (alphabetic.union wordLike).diff
    (((((ofAll [ideographic, complexContext]).union katakana).union (script "hiragana")).union
      wordExtend).union hebrewLetter)

/-- The kinds of characters at the boundaries of words. -/
def wordBreaks : List (List String × CharSet) :=
  [(["cr"], carriageReturn), (["lf"], lineFeed),
    (["newline", "nl"], ⟨[(0xB, 0xC), (0x85, 0x85), (0x2028, 0x2029)]⟩),
    (["extend"], wordExtend), (["zwj"], joiner),
    (["regionalindicator", "ri"], ofAll [regionalIndicator]),
    (["format", "fo"],
      (ofAll [format]).diff ((ofAll [prependedConcatenationMark]).union
        ⟨[(0x200B, 0x200D), (0xE0020, 0xE007F)]⟩)),
    (["katakana", "ka"], katakana), (["hebrewletter", "hl"], hebrewLetter),
    (["aletter", "le"], wordLetter), (["singlequote", "sq"], .singleton '\''),
    (["doublequote", "dq"], .singleton '"'),
    (["midnumlet", "mb"],
      ⟨[(0x2E, 0x2E), (0x2018, 0x2019), (0x2024, 0x2024), (0xFE52, 0xFE52), (0xFF07, 0xFF07),
        (0xFF0E, 0xFF0E)]⟩),
    (["midletter", "ml"],
      ⟨[(0x3A, 0x3A), (0xB7, 0xB7), (0x387, 0x387), (0x55F, 0x55F), (0x5F4, 0x5F4),
        (0x2027, 0x2027), (0xFE13, 0xFE13), (0xFE55, 0xFE55), (0xFF1A, 0xFF1A)]⟩),
    (["midnum", "mn"],
      ⟨[(0x2C, 0x2C), (0x3B, 0x3B), (0x37E, 0x37E), (0x589, 0x589), (0x60C, 0x60D),
        (0x66C, 0x66C), (0x7F8, 0x7F8), (0x2044, 0x2044), (0xFE10, 0xFE10), (0xFE14, 0xFE14),
        (0xFE50, 0xFE50), (0xFE54, 0xFE54), (0xFF0C, 0xFF0C), (0xFF1B, 0xFF1B)]⟩),
    (["numeric", "nu"], numeric),
    (["extendnumlet", "ex"], (ofAll [connectorPunctuation]).union (.range 0x202F 0x202F)),
    (["wsegspace"],
      (ofAll [spaceSeparator]).diff ⟨[(0xA0, 0xA0), (0x2007, 0x2007), (0x202F, 0x202F)]⟩)]

/-- The characters of a kind at the boundaries of words. -/
def wordBreak? : String → Option CharSet := lookUp wordBreaks

/-- Characters that divide paragraphs, and are neither a newline nor a carriage return. -/
def paragraphEnds : CharSet := ⟨[(0x85, 0x85), (0x2028, 0x2029)]⟩

/-- Lower-case letters of scripts whose capitals start sentences. -/
def sentenceLower : CharSet :=
  lowercase.diff (graphemeExtend.union ⟨[(0x10D0, 0x10FA), (0x10FD, 0x10FF)]⟩)

/-- Letters that can start a sentence as capitals. -/
def sentenceUpper : CharSet :=
  (uppercase.union (ofAll [titlecaseLetter])).diff ⟨[(0x1C90, 0x1CBA), (0x1CBD, 0x1CBF)]⟩

/-- Characters that extend what stands before them in a sentence. -/
def sentenceExtend : CharSet := (graphemeExtend.union (ofAll [spacingMark])).union joiner

/-- Full stops, which may also stand in abbreviations. -/
def fullStop : CharSet :=
  ⟨[(0x2E, 0x2E), (0x2024, 0x2024), (0xFE52, 0xFE52), (0xFF0E, 0xFF0E)]⟩

/-- Marks that end a sentence and nothing else. -/
def sentenceEnd : CharSet := (ofAll [sentenceTerminal]).diff fullStop

/-- Quotation marks without a direction. -/
def plainQuotes : CharSet :=
  ⟨[(0x22, 0x22), (0x27, 0x27), (0x275B, 0x2760), (0x2E00, 0x2E01), (0x2E06, 0x2E08),
    (0x2E0B, 0x2E0B), (0x1F676, 0x1F678)]⟩

/-- The kinds of characters at the boundaries of sentences. -/
def sentenceBreaks : List (List String × CharSet) :=
  [(["cr"], carriageReturn), (["lf"], lineFeed), (["sep", "se"], paragraphEnds),
    (["extend", "ex"], sentenceExtend),
    (["format", "fo"],
      (ofAll [format]).diff (numeric.union ⟨[(0x200C, 0x200D), (0xE0020, 0xE007F)]⟩)),
    (["sp"], CharSet.blank.diff ((carriageReturn.union lineFeed).union paragraphEnds)),
    (["lower", "lo"], sentenceLower), (["upper", "up"], sentenceUpper),
    (["oletter", "le"],
      (alphabetic.union (.range 0x5F3 0x5F3)).diff
        ((sentenceLower.union sentenceUpper).union sentenceExtend)),
    (["numeric", "nu"], numeric.union (.range 0x66C 0x66C)), (["aterm", "at"], fullStop),
    (["scontinue", "sc"],
      ⟨[(0x2C, 0x2D), (0x3A, 0x3B), (0x37E, 0x37E), (0x55D, 0x55D), (0x60C, 0x60D), (0x7F8, 0x7F8),
        (0x1802, 0x1802), (0x1808, 0x1808), (0x2013, 0x2014), (0x3001, 0x3001), (0xFE10, 0xFE11),
        (0xFE13, 0xFE14), (0xFE31, 0xFE32), (0xFE50, 0xFE51), (0xFE54, 0xFE55), (0xFE58, 0xFE58),
        (0xFE63, 0xFE63), (0xFF0C, 0xFF0D), (0xFF1A, 0xFF1B), (0xFF64, 0xFF64)]⟩),
    (["sterm", "st"], sentenceEnd),
    (["close", "cl"],
      ((ofAll [openPunctuation, closePunctuation, initialPunctuation, finalPunctuation]).union
        plainQuotes).diff (fullStop.union sentenceEnd))]

/-- The characters of a kind at the boundaries of sentences. -/
def sentenceBreak? : String → Option CharSet := lookUp sentenceBreaks

end Lisp.Regex.Property
