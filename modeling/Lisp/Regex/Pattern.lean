import Lisp.Regex.CharSet

/-!
# Patterns

The syntax tree of a regular expression, and the reasons why a text is none.

## Main definitions

* `Regex.Pattern` — a pattern
* `Regex.Assertion` — conditions on a place between two characters
* `Regex.Pattern.ofSeq`, `ofAlt`, `times` — patterns from their parts
* `Regex.Defect` — what is wrong with the text of a pattern
-/

namespace Lisp.Regex

/-- A condition on a place between two characters. -/
inductive Assertion where
  | textStart | textEnd
  /-- At the start of the text or behind a line end; with `crlf`, a carriage return is one too. -/
  | lineStart (crlf : Bool)
  /-- At the end of the text or before a line end. -/
  | lineEnd (crlf : Bool)
  /-- Between a word character and another one; words are those of all scripts or of the first 128
  characters only. -/
  | wordBoundary (allScripts : Bool)
  | notWordBoundary (allScripts : Bool)
  | wordStart (allScripts : Bool)
  | wordEnd (allScripts : Bool)
  | wordStartHalf (allScripts : Bool)
  | wordEndHalf (allScripts : Bool)
deriving DecidableEq

/-- A regular expression. -/
inductive Pattern where
  /-- The empty text. -/
  | empty
  /-- One character of a set. -/
  | chars (set : CharSet)
  /-- The empty text at a place that fulfils a condition. -/
  | assert (a : Assertion)
  /-- The one, then the other. -/
  | seq (p q : Pattern)
  /-- The one or, failing that, the other. -/
  | alt (p q : Pattern)
  /-- At least `min` and at most `max` times, preferring more if greedy and fewer if not. -/
  | repeated (p : Pattern) (min : Nat) (max : Option Nat) (greedy : Bool)
  /-- A numbered group, whose match is remembered. -/
  | group (index : Nat) (p : Pattern)
deriving Inhabited

namespace Pattern

/-- Whether a pattern can match the empty text. -/
def matchesEmpty : Pattern → Bool
  | empty | assert _ => true
  | chars _ => false
  | seq p q => p.matchesEmpty && q.matchesEmpty
  | alt p q => p.matchesEmpty || q.matchesEmpty
  | repeated p min _ _ => min = 0 || p.matchesEmpty
  | group _ p => p.matchesEmpty

/-- Whether a pattern can match nothing but the empty text. -/
def matchesOnlyEmpty : Pattern → Bool
  | empty | assert _ => true
  | chars _ => false
  | seq p q | alt p q => p.matchesOnlyEmpty && q.matchesOnlyEmpty
  | repeated p _ _ _ | group _ p => p.matchesOnlyEmpty

/-- Several patterns one after the other. Those that are empty need no place. -/
def ofSeq : List Pattern → Pattern
  | [] => empty
  | empty :: ps => ofSeq ps
  | p :: ps =>
    match ofSeq ps with
    | empty => p
    | q => seq p q

/-- The sets of patterns that are all sets. -/
def sets? (ps : List Pattern) : Option (List CharSet) :=
  ps.mapM fun p =>
    match p with
    | chars set => some set
    | _ => none

/-- Patterns to choose from, one by one. -/
def choice : List Pattern → Pattern
  | [] => empty
  | [p] => p
  | p :: ps => alt p (choice ps)

/-- Several patterns to choose from. A choice between characters, or between sets of several
characters, is a set. -/
def ofAlt (ps : List Pattern) : Pattern :=
  match sets? ps with
  | some (set :: sets) =>
    if sets.all fun s => s.isSingleton == set.isSingleton then
      chars (.ofRanges ((set :: sets).flatMap (·.ranges)))
    else choice ps
  | _ => choice ps

/-- A pattern at least `lo` and at most `hi` times. What matches only the empty text need not be
repeated, and what is repeated no times matches the empty text without any of its groups. -/
def times (p : Pattern) (lo : Nat) (hi : Option Nat) (greedy : Bool) : Pattern :=
  let (lo, hi) := if p.matchesOnlyEmpty then (min lo 1, some (min (hi.getD 1) 1)) else (lo, hi)
  match lo, hi with
  | 0, some 0 => empty
  | 1, some 1 => p
  | lo, hi => repeated p lo hi greedy

/-- The number of the last group of a pattern, or zero if it has none. -/
def lastGroup : Pattern → Nat
  | empty | chars _ | assert _ => 0
  | seq p q | alt p q => max p.lastGroup q.lastGroup
  | repeated p _ _ _ => p.lastGroup
  | group index p => max index p.lastGroup

end Pattern

/-- What is wrong with the text of a pattern. -/
inductive Defect where
  | groupUnclosed | groupUnopened | groupNameEmpty | groupNameInvalid | groupNameUnclosed
  | groupNameDuplicate
  | classUnclosed | classRangeInvalid | classRangeLiteral | classEscapeInvalid
  | repetitionMissing | repetitionUnclosed | repetitionCountEmpty | repetitionCountInvalid
  | decimalInvalid
  | escapeUnfinished | escapeUnrecognized | hexEmpty | hexInvalid | hexDigitInvalid
  | backreference | lookAround
  | flagUnrecognized | flagDuplicate | flagRepeatedNegation | flagDanglingNegation | flagsUnfinished
  | wordBoundaryUnclosed | wordBoundaryUnrecognized
  | propertyNotFound | propertyValueNotFound | propertyInvalid | unicodeNotAllowed
  | bytesOutsideText
  | nestedTooDeeply
deriving DecidableEq, Repr

/-- The wording of a defect. -/
def Defect.message : Defect → String
  | groupUnclosed => "unclosed group"
  | groupUnopened => "unopened group"
  | groupNameEmpty => "empty capture group name"
  | groupNameInvalid => "invalid capture group character"
  | groupNameUnclosed => "unclosed capture group name"
  | groupNameDuplicate => "duplicate capture group name"
  | classUnclosed => "unclosed character class"
  | classRangeInvalid =>
    "invalid character class range, the start must be <= the end"
  | classRangeLiteral => "invalid range boundary, must be a literal"
  | classEscapeInvalid => "invalid escape sequence found in character class"
  | repetitionMissing => "repetition operator missing expression"
  | repetitionUnclosed => "unclosed counted repetition"
  | repetitionCountEmpty => "repetition quantifier expects a valid decimal"
  | repetitionCountInvalid =>
    "invalid repetition count range, the start must be <= the end"
  | decimalInvalid => "decimal literal invalid"
  | escapeUnfinished => "incomplete escape sequence, reached end of pattern prematurely"
  | escapeUnrecognized => "unrecognized escape sequence"
  | hexEmpty => "hexadecimal literal empty"
  | hexInvalid => "hexadecimal literal is not a Unicode scalar value"
  | hexDigitInvalid => "invalid hexadecimal digit"
  | backreference => "backreferences are not supported"
  | lookAround => "look-around, including look-ahead and look-behind, is not supported"
  | flagUnrecognized => "unrecognized flag"
  | flagDuplicate => "duplicate flag"
  | flagRepeatedNegation => "flag negation operator repeated"
  | flagDanglingNegation => "dangling flag negation operator"
  | flagsUnfinished => "expected flag but got end of regex"
  | wordBoundaryUnclosed =>
    "special word boundary assertion is either unclosed or contains an invalid character"
  | wordBoundaryUnrecognized => "unrecognized special word boundary assertion"
  | propertyNotFound => "Unicode property not found"
  | propertyValueNotFound => "Unicode property value not found"
  | propertyInvalid => "invalid Unicode character class"
  | unicodeNotAllowed => "Unicode not allowed here"
  | bytesOutsideText => "pattern can match invalid UTF-8"
  | nestedTooDeeply => "exceeds the maximum number of nested parentheses/brackets (250)"

/-- A report on a defective pattern: the pattern, a mark under the defect, and its wording. -/
def Defect.report (pattern : String) (place : Nat) (d : Defect) : String :=
  "regex parse error:\n    " ++ pattern ++ "\n    " ++
    String.ofList (List.replicate place ' ') ++ "^\nerror: " ++ d.message

end Lisp.Regex
