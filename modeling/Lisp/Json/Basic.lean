import Lisp.Number.Basic

/-!
# JSON documents

## Main definitions

* `Json` — a document
* `Json.Defect` — why a text is none
-/

namespace Lisp

/-- A JSON document. -/
inductive Json where
  | null
  | bool (b : Bool)
  | number (n : Number)
  | string (s : String)
  | array (items : List Json)
  /-- Fields in order of their first occurrence, each key once. -/
  | object (fields : List (String × Json))
deriving Inhabited

namespace Json

/-- Why a text is no JSON document. -/
inductive Defect where
  | endInValue | endInString | endInList | endInObject
  | valueExpected | wordExpected
  | listSeparator | objectSeparator | colonExpected | keyExpected | trailingComma
  | invalidNumber | numberOutOfRange
  | controlCharacter | invalidEscape | loneSurrogate
  | tooDeep | trailingCharacters
deriving DecidableEq, Inhabited, Repr

/-- The wording of a defect. -/
def Defect.message : Defect → String
  | endInValue => "EOF while parsing a value"
  | endInString => "EOF while parsing a string"
  | endInList => "EOF while parsing a list"
  | endInObject => "EOF while parsing an object"
  | valueExpected => "expected value"
  | wordExpected => "expected ident"
  | listSeparator => "expected `,` or `]`"
  | objectSeparator => "expected `,` or `\x7d`"
  | colonExpected => "expected `:`"
  | keyExpected => "key must be a string"
  | trailingComma => "trailing comma"
  | invalidNumber => "invalid number"
  | numberOutOfRange => "number out of range"
  | controlCharacter => "control character (\\u0000-\\u001F) found while parsing a string"
  | invalidEscape => "invalid escape"
  | loneSurrogate => "lone leading surrogate in hex escape"
  | tooDeep => "recursion limit exceeded"
  | trailingCharacters => "trailing characters"

/-- Sets a field: the last of several with the same key wins. -/
def setField (k : String) (v : Json) : List (String × Json) → List (String × Json)
  | [] => [(k, v)]
  | e :: rest => if e.1 = k then (k, v) :: rest else e :: setField k v rest

end Json

end Lisp
