import Lisp.Regex.CharSet
import Lisp.Text.Category
import Lisp.Text.Property.Table

/-!
# Properties that a character has or lacks

Most of these properties follow from the general category and a list of exceptions; the others are
listed as they are.

## Main definitions

* `Property.binary?` — the characters with a property, by its name
-/

namespace Lisp.Regex.Property

open Text.Category Text.Property

/-- The characters of some categories or lists. -/
def ofAll (tables : List Text.Ranges) : CharSet := .ofRanges tables.flatten

/-- Letters of all kinds. -/
def letters : CharSet :=
  ofAll [uppercaseLetter, lowercaseLetter, titlecaseLetter, modifierLetter, otherLetter]

/-- Lower-case letters, and what counts as one. -/
def lowercase : CharSet := ofAll [lowercaseLetter, otherLowercase]

/-- Upper-case letters, and what counts as one. -/
def uppercase : CharSet := ofAll [uppercaseLetter, otherUppercase]

/-- Letters and letter numbers, and what counts as one. -/
def alphabetic : CharSet :=
  letters.union (ofAll [letterNumber, otherLowercase, otherUppercase, otherAlphabetic])

/-- Characters that have a case. -/
def cased : CharSet := (lowercase.union uppercase).union (ofAll [titlecaseLetter])

/-- Punctuation that stands inside words, and no quotation mark. -/
def midWord : CharSet :=
  ⟨[(0x27, 0x27), (0x2E, 0x2E), (0x3A, 0x3A), (0xB7, 0xB7), (0x387, 0x387), (0x55F, 0x55F),
    (0x5F4, 0x5F4), (0x2018, 0x2019), (0x2024, 0x2024), (0x2027, 0x2027), (0xFE13, 0xFE13),
    (0xFE52, 0xFE52), (0xFE55, 0xFE55), (0xFF07, 0xFF07), (0xFF0E, 0xFF0E), (0xFF1A, 0xFF1A)]⟩

/-- Characters that are passed over when looking for a cased neighbour. -/
def caseIgnorable : CharSet :=
  midWord.union (ofAll [nonspacingMark, enclosingMark, format, modifierLetter, modifierSymbol])

/-- Characters that extend a grapheme. -/
def graphemeExtend : CharSet := ofAll [nonspacingMark, enclosingMark, otherGraphemeExtend]

/-- Characters that a grapheme can be built upon. -/
def graphemeBase : CharSet :=
  (ofAll [control, format, privateUse, lineSeparator, paragraphSeparator]).union graphemeExtend
    |>.union (CharSet.ofRanges assigned).compl |>.compl

/-- Characters that patterns over texts reserve for themselves. -/
def reserved : CharSet := ofAll [patternSyntax, patternWhiteSpace]

/-- Characters that may start an identifier. -/
def identifierStart : CharSet :=
  (letters.union (ofAll [letterNumber, otherIdentifierStart])).diff reserved

/-- Characters that may stand in an identifier behind its start. -/
def identifierContinue : CharSet :=
  (identifierStart.union (ofAll [nonspacingMark, spacingMark, decimalNumber, connectorPunctuation,
    otherIdentifierContinue])).diff reserved

/-- Characters of identifiers that would not stay one under compatibility normalization. -/
def unstableContinue : CharSet :=
  ⟨[(0x37A, 0x37A), (0x309B, 0x309C), (0xFC5E, 0xFC63), (0xFDFA, 0xFDFB), (0xFE70, 0xFE70),
    (0xFE72, 0xFE72), (0xFE74, 0xFE74), (0xFE76, 0xFE76), (0xFE78, 0xFE78), (0xFE7A, 0xFE7A),
    (0xFE7C, 0xFE7C), (0xFE7E, 0xFE7E)]⟩

/-- Characters that may start an identifier, but not under compatibility normalization. -/
def unstableStart : CharSet :=
  unstableContinue.union ⟨[(0xE33, 0xE33), (0xEB3, 0xEB3), (0xFF9E, 0xFF9F)]⟩

/-- The characters of some runs. -/
def ofRuns (runs : List Text.Case.Run) : CharSet :=
  .ofRanges (runs.flatMap fun r => r.members.map fun n => (n, n))

/-- The characters of some case mappings that Unicode 16 has as well. -/
def mapped (runs : List Text.Case.Run) (sequences : List (Nat × List Nat)) : CharSet :=
  (ofRuns runs).union (.ofRanges (sequences.map fun (n, _) => (n, n))) |>.diff
    ((CharSet.ofRanges recent).union ⟨[(0xA7D3, 0xA7D3), (0xA7D5, 0xA7D5)]⟩)

/-- Characters with a lower case other than themselves. -/
def changesLowercased : CharSet := mapped Text.Case.lowerRuns Text.Case.lowerSequences

/-- Characters with an upper case other than themselves. -/
def changesUppercased : CharSet := mapped Text.Case.upperRuns Text.Case.upperSequences

/-- Characters with a title case other than themselves: digraphs have one of their own, Georgian
letters have none. -/
def changesTitlecased : CharSet :=
  changesUppercased.union ⟨[(0x1C4, 0x1C4), (0x1C7, 0x1C7), (0x1CA, 0x1CA), (0x1F1, 0x1F1)]⟩
    |>.diff ((ofAll [titlecaseLetter]).union ⟨[(0x10D0, 0x10FA), (0x10FD, 0x10FF)]⟩)

/-- Characters that case folding changes. -/
def changesCasefolded : CharSet :=
  (ofRuns Text.Case.foldRuns).union (ofAll [foldOnly]) |>.diff (ofAll [foldCanonical])

/-- The properties, by their long and short names without case and dividers. -/
def binary : List (List String × CharSet) :=
  [(["asciihexdigit", "ahex"], ofAll [asciiHexDigit]),
    (["alphabetic", "alpha"], alphabetic),
    (["bidicontrol", "bidic"], ofAll [bidiControl]),
    (["bidimirrored", "bidim"], ofAll [bidiMirrored]),
    (["caseignorable", "ci"], caseIgnorable),
    (["cased"], cased),
    (["changeswhencasefolded", "cwcf"], changesCasefolded),
    (["changeswhencasemapped", "cwcm"],
      (changesLowercased.union changesUppercased).union changesTitlecased),
    (["changeswhenlowercased", "cwl"], changesLowercased),
    (["changeswhentitlecased", "cwt"], changesTitlecased),
    (["changeswhenuppercased", "cwu"], changesUppercased),
    (["dash"], ofAll [dash]),
    (["defaultignorablecodepoint", "di"], ofAll [defaultIgnorable]),
    (["deprecated", "dep"], ofAll [deprecated]),
    (["diacritic", "dia"], ofAll [diacritic]),
    (["emoji"], ofAll [emoji]),
    (["emojicomponent", "ecomp"], ofAll [emojiComponent]),
    (["emojimodifier", "emod"], ofAll [emojiModifier]),
    (["emojimodifierbase", "ebase"], ofAll [emojiModifierBase]),
    (["emojipresentation", "epres"], ofAll [emojiPresentation]),
    (["extendedpictographic", "extpict"], ofAll [extendedPictographic]),
    (["extender", "ext"], ofAll [extender]),
    (["graphemebase", "grbase"], graphemeBase),
    (["graphemeextend", "grext"], graphemeExtend),
    (["graphemelink", "grlink"], ofAll [graphemeLink]),
    (["hexdigit", "hex"], ofAll [hexDigit]),
    (["hyphen"], ofAll [hyphen]),
    (["idsbinaryoperator", "idsb"], ofAll [ideographBinaryOperator]),
    (["idstrinaryoperator", "idst"], ofAll [ideographTrinaryOperator]),
    (["idsunaryoperator", "idsu"], ofAll [ideographUnaryOperator]),
    (["idcompatmathcontinue"], ofAll [mathIdentifierStart, mathIdentifierOnly]),
    (["idcompatmathstart"], ofAll [mathIdentifierStart]),
    (["idcontinue", "idc"], identifierContinue),
    (["idstart", "ids"], identifierStart),
    (["ideographic", "ideo"], ofAll [ideographic]),
    (["joincontrol", "joinc"], ofAll [joinControl]),
    (["logicalorderexception", "loe"], ofAll [logicalOrderException]),
    (["lowercase", "lower"], lowercase),
    (["math"], ofAll [mathSymbol, otherMath]),
    (["modifiercombiningmark", "mcm"], ofAll [modifierCombiningMark]),
    (["noncharactercodepoint", "nchar"], ofAll [noncharacter]),
    (["otheralphabetic", "oalpha"], ofAll [otherAlphabetic]),
    (["otherdefaultignorablecodepoint", "odi"], ofAll [otherDefaultIgnorable]),
    (["othergraphemeextend", "ogrext"], ofAll [otherGraphemeExtend]),
    (["otheridcontinue", "oidc"], ofAll [otherIdentifierContinue]),
    (["otheridstart", "oids"], ofAll [otherIdentifierStart]),
    (["otherlowercase", "olower"], ofAll [otherLowercase]),
    (["othermath", "omath"], ofAll [otherMath]),
    (["otheruppercase", "oupper"], ofAll [otherUppercase]),
    (["patternsyntax", "patsyn"], ofAll [patternSyntax]),
    (["patternwhitespace", "patws"], ofAll [patternWhiteSpace]),
    (["prependedconcatenationmark", "pcm"], ofAll [prependedConcatenationMark]),
    (["quotationmark", "qmark"], ofAll [quotationMark]),
    (["radical"], ofAll [radical]),
    (["regionalindicator", "ri"], ofAll [regionalIndicator]),
    (["sentenceterminal", "sterm"], ofAll [sentenceTerminal]),
    (["softdotted", "sd"], ofAll [softDotted]),
    (["terminalpunctuation", "term"], ofAll [terminalPunctuation]),
    (["unifiedideograph", "uideo"], ofAll [unifiedIdeograph]),
    (["uppercase", "upper"], uppercase),
    (["variationselector", "vs"], ofAll [variationSelector]),
    (["whitespace", "wspace", "space"], .blank),
    (["xidcontinue", "xidc"], identifierContinue.diff unstableContinue),
    (["xidstart", "xids"], identifierStart.diff unstableStart)]

/-- The characters with a property, by its name. -/
def binary? (name : String) : Option CharSet :=
  (binary.find? fun e => e.1.contains name).map (·.2)

end Lisp.Regex.Property
