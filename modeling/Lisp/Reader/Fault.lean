import Lisp.Text.Position

/-!
# What can be wrong with a text

## Main definitions

* `Reader.Delimiter` — the bracketed kinds of form
* `Reader.Defect` — what the reader can complain about
* `Reader.Defect.isIncomplete` — whether more text could mend it
-/

namespace Lisp.Reader

/-- The bracketed kinds of form. -/
inductive Delimiter where
  | list | vector | map | set
deriving DecidableEq, Inhabited, Repr

/-- The character that closes a bracketed form. -/
def Delimiter.close : Delimiter → Char
  | list => ')'
  | vector => ']'
  | map | set => '\x7d'

/-- The word for a bracketed form. -/
def Delimiter.word : Delimiter → String
  | list => "list"
  | vector => "vector"
  | map => "map"
  | set => "set"

/-- A complaint of the reader. -/
inductive Defect where
  /-- A quote mark with nothing behind it. -/
  | endOfInput
  /-- A character that starts no form. -/
  | strayCharacter (c : Char)
  /-- A string without its closing quote. -/
  | unterminatedString
  /-- A regular expression without its closing quote. -/
  | unterminatedRegex
  /-- A bracketed form without its closing bracket. -/
  | unterminated (d : Delimiter)
  /-- A Unicode escape with fewer than four hexadecimal digits. -/
  | shortUnicodeEscape
  /-- A Unicode escape whose digits name no character. -/
  | invalidUnicodeEscape (digits : String)
  /-- A regular expression that is no pattern, with the report on it. -/
  | invalidRegex (report : String)
  /-- A second point or sign in a number. -/
  | misplaced (c : Char)
  /-- A number that is no numeral. -/
  | invalidNumber (text : String)
  /-- Colons with no name behind them. -/
  | emptyKeyword
  /-- A map literal in which a key has no value. -/
  | oddMap
  /-- A text that is no JSON document, with the complaint about it. -/
  | json (complaint : String)
deriving DecidableEq, Inhabited, Repr

namespace Defect

/-- The wording of a complaint. -/
def message : Defect → String
  | endOfInput => "Unexpected end of input"
  | strayCharacter c => "Can't handle character: '" ++ String.singleton c ++ "'"
  | unterminatedString => "Unterminated string"
  | unterminatedRegex => "Unterminated regex"
  | unterminated d =>
    "Unterminated " ++ d.word ++ ", expected '" ++ String.singleton d.close ++ "'"
  | shortUnicodeEscape => "Invalid unicode escape"
  | invalidUnicodeEscape digits => "Invalid unicode escape: \\u" ++ digits
  | invalidRegex report => "Invalid regex: " ++ report
  | misplaced c => "unexpected '" ++ String.singleton c ++ "'"
  | invalidNumber text => "Invalid number: " ++ text
  | emptyKeyword => "Empty keyword"
  | oddMap => "Map literal must contain an even number of forms"
  | json complaint => complaint

/-- Whether the text merely ended too early. -/
def isIncomplete : Defect → Bool
  | endOfInput | unterminatedString | unterminatedRegex | unterminated _ => true
  | _ => false

end Defect

/-- A complaint and the place it is about. -/
structure Fault where
  defect : Defect
  position : Text.Position
deriving DecidableEq, Inhabited

end Lisp.Reader
