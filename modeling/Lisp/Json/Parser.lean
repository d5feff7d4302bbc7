import Lisp.Json.Numeral
import Lisp.Text.Position

/-!
# Reading JSON

A recursive-descent reader. Documents may be nested less than 128 levels deep.

## Main definitions

* `Json.parse` — the document that a text denotes, or what is wrong with it and where
-/

namespace Lisp.Json

namespace Parser

open Text (Cursor Position)

/-- A step of the reader. -/
abbrev Parse := EStateM Defect Cursor

/-- Passes over the next character. -/
def bump : Parse Unit := modify fun c => c.next.2

/-- The next character. -/
def peek : Parse (Option Char) := return (← get).peek

/-- Passes over characters of a kind and gives them. -/
def takeWhile (p : Char → Bool) : Parse (List Char) := do
  let c ← get
  let taken := c.rest.takeWhile p
  set (⟨c.rest.dropWhile p, c.position.after taken⟩ : Cursor)
  return taken

/-- The blanks of JSON. -/
def isBlank (c : Char) : Bool := c = ' ' || c = '\n' || c = '\t' || c = '\r'

/-- Passes over blanks. -/
def skipBlanks : Parse Unit := do
  let _ ← takeWhile isBlank

/-- Passes over the letters of a word. -/
def word : List Char → Parse Unit
  | [] => return
  | c :: rest => do
    match ← peek with
    | some d => if c = d then bump; word rest else throw .wordExpected
    | none => throw .endInValue

/-- At least one digit. -/
def digits1 : Parse (List Char) := do
  let ds ← takeWhile Char.isDigit
  if ds.isEmpty then
    throw (if (← peek).isNone then .endInValue else .invalidNumber)
  return ds

/-- The exponent of a numeral, if there is one. -/
def exponent? : Parse (Option (Bool × List Char)) := do
  match ← peek with
  | some 'e' | some 'E' =>
    bump
    let sign ← peek
    if sign == some '+' || sign == some '-' then bump
    return some (sign == some '-', ← digits1)
  | _ => return none

/-- A number, behind its sign. A leading zero stands alone before the point. -/
def number (negative : Bool) : Parse Json := do
  let whole ← digits1
  if whole.length > 1 && whole.head? == some '0' then throw .invalidNumber
  let fraction ←
    if (← peek) == some '.' then do
      bump
      pure (some (← digits1))
    else pure none
  match Numeral.toNumber ⟨negative, whole, fraction, ← exponent?⟩ with
  | .ok n => return .number n
  | .error d => throw d

/-- The value of a hexadecimal digit. -/
def hexDigit? (c : Char) : Option Nat :=
  if c.isDigit then some (c.toNat - '0'.toNat)
  else if 'a' ≤ c && c ≤ 'f' then some (c.toNat - 'a'.toNat + 10)
  else if 'A' ≤ c && c ≤ 'F' then some (c.toNat - 'A'.toNat + 10)
  else none

/-- Four hexadecimal digits. -/
def hex4 : Parse Nat := do
  let mut n := 0
  for _ in [0:4] do
    match ← peek with
    | none => throw .endInString
    | some c =>
      match hexDigit? c with
      | some v => bump; n := 16 * n + v
      | none => throw .invalidEscape
  return n

/-- A character by its code point, which may take two surrogates. -/
def unicodeEscape : Parse Char := do
  let n ← hex4
  if 0xDC00 ≤ n && n ≤ 0xDFFF then throw .loneSurrogate
  if n < 0xD800 || 0xDBFF < n then return Char.ofNat n
  if (← peek) != some '\\' then throw .loneSurrogate
  bump
  if (← peek) != some 'u' then throw .loneSurrogate
  bump
  let low ← hex4
  if low < 0xDC00 || 0xDFFF < low then throw .loneSurrogate
  return Char.ofNat (0x10000 + (n - 0xD800) * 0x400 + (low - 0xDC00))

/-- A character behind a backslash. -/
def escape : Parse Char := do
  match ← peek with
  | none => throw .endInString
  | some c =>
    bump
    match c with
    | '"' => return '"'
    | '\\' => return '\\'
    | '/' => return '/'
    | 'b' => return '\x08'
    | 'f' => return '\x0c'
    | 'n' => return '\n'
    | 'r' => return '\r'
    | 't' => return '\t'
    | 'u' => unicodeEscape
    | _ => throw .invalidEscape

/-- The rest of a string, after some characters in reverse. Each turn passes over a character, so
the unread characters bound the turns. -/
def stringFrom : Nat → List Char → Parse String
  | 0, _ => throw .endInString
  | fuel + 1, chars => do
    match ← peek with
    | none => throw .endInString
    | some '"' =>
      bump
      return String.ofList chars.reverse
    | some '\\' =>
      bump
      stringFrom fuel ((← escape) :: chars)
    | some c =>
      if c.toNat < 0x20 then throw .controlCharacter
      bump
      stringFrom fuel (c :: chars)

/-- The rest of a string, behind its opening quote. -/
def string : Parse String := do
  stringFrom ((← get).rest.length + 1) []

mutual

/-- A document; `depth` more levels may be opened. -/
def value (depth : Nat) : Nat → Parse Json
  | 0 => throw .endInValue
  | fuel + 1 => do
    skipBlanks
    match ← peek with
    | none => throw .endInValue
    | some 'n' => bump; word "ull".toList; return .null
    | some 't' => bump; word "rue".toList; return .bool true
    | some 'f' => bump; word "alse".toList; return .bool false
    | some '-' => bump; number true
    | some '"' => bump; return .string (← string)
    | some '[' =>
      match depth with
      | 0 => throw .tooDeep
      | depth + 1 =>
        bump
        skipBlanks
        if (← peek) == some ']' then
          bump
          return .array []
        else array depth fuel []
    | some '\x7b' =>
      match depth with
      | 0 => throw .tooDeep
      | depth + 1 =>
        bump
        skipBlanks
        if (← peek) == some '\x7d' then
          bump
          return .object []
        else object depth fuel []
    | some c => if c.isDigit then number false else throw .valueExpected

/-- The elements of an array from the next one on, after some in reverse. -/
def array (depth : Nat) : Nat → List Json → Parse Json
  | 0, _ => throw .endInList
  | fuel + 1, items => do
    skipBlanks
    match ← peek with
    | none => throw .endInList
    | some ']' => throw .trailingComma
    | some _ =>
      let item ← value depth fuel
      skipBlanks
      match ← peek with
      | none => throw .endInList
      | some ',' => bump; array depth fuel (item :: items)
      | some ']' => bump; return .array (item :: items).reverse
      | some _ => throw .listSeparator

/-- The fields of an object from the next one on, after some. -/
def object (depth : Nat) : Nat → List (String × Json) → Parse Json
  | 0, _ => throw .endInObject
  | fuel + 1, fields => do
    skipBlanks
    match ← peek with
    | none => throw .endInObject
    | some '\x7d' => throw .trailingComma
    | some '"' =>
      bump
      let key ← string
      skipBlanks
      match ← peek with
      | none => throw .endInObject
      | some ':' =>
        bump
        let item ← value depth fuel
        let fields := setField key item fields
        skipBlanks
        match ← peek with
        | none => throw .endInObject
        | some ',' => bump; object depth fuel fields
        | some '\x7d' => bump; return .object fields
        | some _ => throw .objectSeparator
      | some _ => throw .colonExpected
    | some _ => throw .keyExpected

end

/-- A document and nothing behind it. -/
def document : Parse Json := do
  let json ← value 127 (2 * (← get).rest.length + 2)
  skipBlanks
  unless (← get).atEnd do throw .trailingCharacters
  return json

end Parser

/-- The document that a text denotes, or its defect and where it is. -/
def parse (text : String) : Except (Defect × Text.Position) Json :=
  match Parser.document (.ofString text) with
  | .ok json _ => .ok json
  | .error d c => .error (d, c.position)

end Lisp.Json
