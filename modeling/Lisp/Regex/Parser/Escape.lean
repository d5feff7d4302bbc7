import Lisp.Regex.Parser.Basic
import Lisp.Regex.Property

/-!
# Escapes in patterns

A backslash takes the meaning of the character behind it away, or gives it one: a character by its
code point, a class, or a condition.

## Main definitions

* `Regex.Parser.Atom` — what a single unit of a pattern is
* `Regex.Parser.folded`, `Regex.Parser.negated` — a class under the flags in force
* `Regex.Parser.escape` — a unit behind a backslash
-/

namespace Lisp.Regex.Parser

/-- What a single unit of a pattern is. -/
inductive Atom where
  /-- A character; `asByte` if it is written as two hexadecimal digits, which name a byte where
  classes are sets of bytes. -/
  | literal (c : Char) (asByte : Bool)
  | set (chars : CharSet)
  | assertion (a : Assertion)

/-- The value of a hexadecimal digit. -/
def hexValue? (c : Char) : Option Nat :=
  if c.isDigit then some (c.toNat - '0'.toNat)
  else if 'a' ≤ c && c ≤ 'f' then some (c.toNat - 'a'.toNat + 10)
  else if 'A' ≤ c && c ≤ 'F' then some (c.toNat - 'A'.toNat + 10)
  else none

/-- The character of a hexadecimal numeral. -/
def hexChar (digits : List Char) : Parse Char := do
  let values ← digits.mapM fun c =>
    match hexValue? c with
    | some v => pure v
    | none => fail .hexDigitInvalid
  let n := values.foldl (fun n v => 16 * n + v) 0
  if n.isValidChar then return Char.ofNat n else fail .hexInvalid

/-- A character by its code point: braces around any number of digits, or a fixed number of them. -/
def hexEscape (width : Nat) : Parse Atom := do
  match ← peek with
  | none => fail .escapeUnfinished
  | some '\x7b' =>
    advance
    let digits ← gatherUntil '\x7d'
    if digits.isEmpty then fail .hexEmpty
    return .literal (← hexChar digits) false
  | some _ =>
    let digits ← gather (fun c => (hexValue? c).isSome) width
    if digits.length < width then
      fail (if (← peek).isNone then .escapeUnfinished else .hexDigitInvalid)
    return .literal (← hexChar digits) (width = 2)

/-- Characters with a meaning of their own, which a backslash takes away. -/
def isMeta (c : Char) : Bool :=
  "\\.+*?()|[]\x7b\x7d^$#&-~".toList.contains c

/-- Whether a backslash before the character is allowed and has no effect. -/
def isEscapable (c : Char) : Bool :=
  isMeta c || (c.toNat < 128 && !c.isAlphanum && c != '<' && c != '>')

/-- The case variants of a set, if the flags ask for them: of all scripts, or below `U+0080`. -/
def folded (set : CharSet) : Parse CharSet := do
  let f ← flags
  return if !f.anyCase then set else if f.allScripts then set.foldCase else set.foldAscii

/-- All characters outside a set. A set of bytes has no such set, since bytes outside of it are no
characters. -/
def negated (negate : Bool) (set : CharSet) : Parse CharSet := do
  if !negate then return set
  if (← flags).allScripts then return set.compl else fail .bytesOutsideText

/-- A class in all scripts or below `U+0080`, as the flags say, or all other characters. -/
def shorthand (full ascii : CharSet) (negate : Bool) : Parse CharSet := do
  negated negate (if (← flags).allScripts then full else ascii)

/-- The qualified word boundaries, by their names. -/
def boundaryNamed? (allScripts : Bool) : String → Option Assertion
  | "start" => some (.wordStart allScripts)
  | "end" => some (.wordEnd allScripts)
  | "start-half" => some (.wordStartHalf allScripts)
  | "end-half" => some (.wordEndHalf allScripts)
  | _ => none

/-- A word boundary, behind `\b`, with its qualification in braces. Anything in braces that does not
start like a name is left to be read as a repetition. -/
def wordBoundary : Parse Assertion := do
  let allScripts := (← flags).allScripts
  if (← peek) != some '\x7b' then return .wordBoundary allScripts
  let start ← get
  let place ← unread
  let isNameChar (c : Char) : Bool := c.isAlpha || c = '-'
  advance
  match ← peek with
  | none => failAt place .wordBoundaryUnclosed
  | some c =>
    if !isNameChar c then
      -- back to the brace
      set start
      return .wordBoundary allScripts
    let name ← gather isNameChar place
    if (← peek) != some '\x7d' then failAt place .wordBoundaryUnclosed
    skip 1
    match boundaryNamed? allScripts (String.ofList name) with
    | some a => return a
    | none => failAt place .wordBoundaryUnrecognized

/-- The characters with a property, behind `\p`, or all others, behind `\P`: a letter, or a query in
braces. -/
def property (start : Nat) (others : Bool) : Parse CharSet := do
  let query ←
    match ← peek with
    | none => failAt start .escapeUnfinished
    | some '\x7b' => do
      advance
      gatherUntil '\x7d'
    | some '\\' => failAt start .propertyInvalid
    | some c => do
      advance
      pure [c]
  if !(← flags).allScripts then failAt start .unicodeNotAllowed
  match Property.ofQuery query with
  | .error d => failAt start d
  | .ok (set, exceptFor) => negated (others != exceptFor) (← folded set)

/-- A unit behind a backslash. -/
def escape : Parse Atom := do
  let start ← unread
  skip 1
  let allScripts := (← flags).allScripts
  match ← peek with
  | none => failAt start .escapeUnfinished
  | some c =>
    match c with
    | 'x' => advance; hexEscape 2
    | 'u' => advance; hexEscape 4
    | 'U' => advance; hexEscape 8
    | 'p' => advance; return .set (← property start false)
    | 'P' => advance; return .set (← property start true)
    | c =>
      skip 1
      match c with
      | 'd' => return .set (← shorthand .digits .asciiDigits false)
      | 'D' => return .set (← shorthand .digits .asciiDigits true)
      | 's' => return .set (← shorthand .blank .asciiBlank false)
      | 'S' => return .set (← shorthand .blank .asciiBlank true)
      | 'w' => return .set (← shorthand .word .asciiWord false)
      | 'W' => return .set (← shorthand .word .asciiWord true)
      | 'a' => return .literal '\x07' false
      | 'f' => return .literal '\x0c' false
      | 't' => return .literal '\t' false
      | 'n' => return .literal '\n' false
      | 'r' => return .literal '\r' false
      | 'v' => return .literal '\x0b' false
      | 'A' => return .assertion .textStart
      | 'z' => return .assertion .textEnd
      | 'b' => return .assertion (← wordBoundary)
      | 'B' => return .assertion (.notWordBoundary allScripts)
      | '<' => return .assertion (.wordStart allScripts)
      | '>' => return .assertion (.wordEnd allScripts)
      | c =>
        if c.isDigit then failAt start .backreference
        if isEscapable c then return .literal c false else failAt start .escapeUnrecognized

end Lisp.Regex.Parser
