import Lisp.Number.Parser
import Lisp.Reader.Fault
import Lisp.Regex.Parser
import Lisp.Text.Blank
import Lisp.Value.Keyed

/-!
# Reading forms

The reader is an automaton that takes a text one character at a time. Its state holds the token
being read, the bracketed forms that are still open, and the top-level forms read so far. A token
such as a symbol ends at the first character that cannot belong to it, and that character is then
taken as if the token had ended before it.

## Main definitions

* `Reader.Token` — what is being read at the moment
* `Reader.State.step` — the effect of one character
* `Reader.Reading` — the outcome: located forms and, at the end, possibly a fault
* `Reader.readAll` — reads a whole text
-/

namespace Lisp.Reader

variable [Tables]

open Text (Position)

/-- Blanks and commas divide forms. -/
def isSeparator (c : Char) : Bool := Text.isBlank c || c = ','

/-- The characters of symbols and keywords. -/
def isSymbolChar (c : Char) : Bool :=
  c.isAlphanum || c = '_' || c = '.' || c = '/' || c = '-' || c = '!' || c = '?' || c = '*' ||
    c = '$' || c = '=' || c = '<' || c = '>' || c = '&' || c = '+' || c = '~' || c = '|' || c = '%'

/-- The closing brackets. -/
def isClosing (c : Char) : Bool := c = ')' || c = ']' || c = '\x7d'

/-- What is being read at the moment. Characters read so far are kept in reverse. -/
inductive Token where
  /-- Nothing: the next character starts a form, or does not count. -/
  | none
  /-- A comment, which runs to the end of the line. -/
  | comment
  /-- A sign, whose next character tells whether it starts a number. -/
  | sign (c : Char)
  /-- A number, with or without a sign, and with or without a point so far. -/
  | number (signed point : Bool) (chars : List Char)
  /-- A symbol. -/
  | symbol (chars : List Char)
  /-- A colon, which may be followed by another. -/
  | colon
  /-- A keyword behind one colon or, if `auto`, two. -/
  | keyword (auto : Bool) (chars : List Char)
  /-- A hash sign, whose next character tells what it starts. -/
  | hash (start : Position)
  /-- A string. -/
  | string (chars : List Char)
  /-- A backslash in a string. -/
  | escape (chars : List Char)
  /-- A Unicode escape in a string, with its digits so far. -/
  | unicode (chars digits : List Char)
  /-- A regular expression. -/
  | regex (chars : List Char)
  /-- A backslash in a regular expression. -/
  | regexEscape (chars : List Char)
  /-- Reading has failed. -/
  | failed (fault : Fault)
deriving Inhabited

/-- A form that waits for more: a bracketed one with its elements so far in reverse, or a quote mark
that waits for its form. -/
inductive Pending where
  | group (d : Delimiter) (items : List Value)
  | quote

/-- A top-level form and where it begins. -/
structure Located where
  form : Value
  start : Position
deriving Inhabited

/-- The state of the reader. -/
structure State where
  /-- Where the next character stands. -/
  position : Position := {}
  /-- What is being read. -/
  token : Token := .none
  /-- The forms that wait for more, innermost first. -/
  pending : List Pending := []
  /-- Where the latest top-level form begins. -/
  start : Position := {}
  /-- The top-level forms read so far, in reverse. -/
  forms : List Located := []

/-- A form in quotes as deep as the quote marks waiting for it, and what waits beyond them. -/
def wrapQuotes : List Pending → Value → List Pending × Value
  | .quote :: rest, v => wrapQuotes rest (.quoted v)
  | pending, v => (pending, v)

namespace State

/-- Adds a finished form to whatever waits for it. -/
def finish (s : State) (v : Value) : State :=
  match wrapQuotes s.pending v with
  | (.group d items :: rest, v) =>
    { s with token := .none, pending := .group d (v :: items) :: rest }
  | (pending, v) => { s with token := .none, pending, forms := ⟨v, s.start⟩ :: s.forms }

/-- Stops reading for good. -/
def fail (s : State) (d : Defect) (place : Position) : State :=
  { s with token := .failed ⟨d, place⟩ }

/-- Begins a token. The start of a top-level form is remembered. -/
def begin (s : State) (t : Token) : State :=
  { s with token := t, start := if s.pending.isEmpty then s.position else s.start }

/-- Opens a form that waits for more. -/
def open_ (s : State) (p : Pending) : State :=
  let s := s.begin .none
  { s with pending := p :: s.pending }

end State

/-- The value that a finished symbol token stands for. -/
def symbolValue (chars : List Char) : Value :=
  match String.ofList chars.reverse with
  | "true" => .bool true
  | "false" => .bool false
  | "nil" => .nil
  | text => .symbol (.parse text)

/-- The value that a finished keyword token stands for. -/
def keywordValue (auto : Bool) (chars : List Char) : Value :=
  let text := String.ofList chars.reverse
  .keyword (if auto then .simple (":" ++ text) else .parse text)

/-- The character behind a backslash in a string; most stand for themselves. -/
def escaped (c : Char) : Char :=
  match c with
  | 'n' => '\n'
  | 'r' => '\r'
  | 't' => '\t'
  | 'v' => '\x0b'
  | 'b' => '\x08'
  | 'f' => '\x0c'
  | c => c

/-- Whether a character is a hexadecimal digit. -/
def isHexDigit (c : Char) : Bool :=
  c.isDigit || ('a' ≤ c && c ≤ 'f') || ('A' ≤ c && c ≤ 'F')

/-- The value of four hexadecimal digits. -/
def hexValue (digits : List Char) : Nat :=
  digits.foldl (fun n c =>
    16 * n + (if c.isDigit then c.toNat - 48
      else if 'a' ≤ c && c ≤ 'f' then c.toNat - 87 else c.toNat - 55)) 0

namespace State

/-- Ends a number: its characters without separators are a numeral. -/
def finishNumber (s : State) (chars : List Char) : State :=
  match Number.parseChars? chars.reverse with
  | some n => s.finish (.number n)
  | none => s.fail (.invalidNumber (String.ofList chars.reverse)) s.position

/-- Ends a keyword, which needs at least one character. -/
def finishKeyword (s : State) (auto : Bool) (chars : List Char) : State :=
  if chars.isEmpty then s.fail .emptyKeyword s.position else s.finish (keywordValue auto chars)

/-- Ends a regular expression, which has to be a pattern. `after` is the place behind it. -/
def finishRegex (s : State) (chars : List Char) (after : Position) : State :=
  let pattern := String.ofList chars.reverse
  match Regex.parse pattern with
  | .ok _ => s.finish (.regex pattern)
  | .error r => s.fail (.invalidRegex (r.report pattern)) after

/-- Ends a bracketed form. `after` is the place behind its closing bracket. -/
def finishGroup (rep : Representation) (s : State) (d : Delimiter) (items : List Value)
    (after : Position) : State :=
  match d with
  | .list => s.finish (.list items.reverse)
  | .vector => s.finish (.vector rep items.reverse)
  | .set => s.finish (.setOf Entity.untold rep items.reverse)
  | .map =>
    if items.length % 2 = 0 then s.finish (.mapOf Entity.untold rep (Value.pairUp items.reverse))
    else s.fail .oddMap after

/-- A closing bracket. It ends the innermost open form if it fits; a stray one does not count, but a
quote mark cannot take one for its form. -/
def closing (rep : Representation) (s : State) (c : Char) : State :=
  match s.pending with
  | [] => s
  | .quote :: _ => s.fail (.strayCharacter c) s.position
  | .group d items :: rest =>
    if c = d.close then
      finishGroup rep { s with pending := rest } d items (s.position.advance c)
    else s

/-- The effect of a character at which no token is being read. -/
def fresh (rep : Representation) (s : State) (c : Char) : State :=
  if isSeparator c then s
  else if c = ';' then { s with token := .comment }
  else if isClosing c then s.closing rep c
  else if c = '"' then s.begin (.string [])
  else if c.isDigit then s.begin (.number false false [c])
  else if c = '-' || c = '+' then s.begin (.sign c)
  else if c = ':' then s.begin .colon
  else if c = '\'' then s.open_ .quote
  else if c = '(' then s.open_ (.group .list [])
  else if c = '[' then s.open_ (.group .vector [])
  else if c = '\x7b' then s.open_ (.group .map [])
  else if c = '#' then s.begin (.hash s.position)
  else if isSymbolChar c then s.begin (.symbol [c])
  else (s.begin .none).fail (.strayCharacter c) s.position

/-- Takes a character as if no token were being read, unless ending the token has failed. -/
def resume (rep : Representation) (s : State) (c : Char) : State :=
  match s.token with
  | .failed _ => s
  | _ => s.fresh rep c

/-- The effect of a character in a symbol. -/
def inSymbol (rep : Representation) (s : State) (chars : List Char) (c : Char) : State :=
  if isSymbolChar c then { s with token := .symbol (c :: chars) }
  else (s.finish (symbolValue chars)).resume rep c

/-- The effect of a character in a keyword. -/
def inKeyword (rep : Representation) (s : State) (auto : Bool) (chars : List Char) (c : Char) :
    State :=
  if isSymbolChar c then { s with token := .keyword auto (c :: chars) }
  else (s.finishKeyword auto chars).resume rep c

/-- The effect of a character in a number: underscores and commas do not count, a second point is
misplaced, and so is a sign directly behind a signed number. -/
def inNumber (rep : Representation) (s : State) (signed point : Bool) (chars : List Char)
    (c : Char) : State :=
  if c = '.' then
    if point then s.fail (.misplaced c) s.position
    else { s with token := .number signed true (c :: chars) }
  else if signed && (c = '-' || c = '+') then s.fail (.misplaced c) s.position
  else if c.isDigit then { s with token := .number signed point (c :: chars) }
  -- a comma belongs to the number, also at its end
  else if c = '_' || c = ',' then s
  else (s.finishNumber chars).resume rep c

/-- The effect of a character in a Unicode escape. -/
def inUnicode (s : State) (chars digits : List Char) (c : Char) : State :=
  if isHexDigit c then
    let digits := digits ++ [c]
    if digits.length < 4 then { s with token := .unicode chars digits }
    else if (hexValue digits).isValidChar then
      { s with token := .string (Char.ofNat (hexValue digits) :: chars) }
    else s.fail (.invalidUnicodeEscape (String.ofList digits)) (s.position.advance c)
  else s.fail .shortUnicodeEscape (s.position.advance c)

/-- The effect of a character, not counting that it has been passed over. -/
def take (rep : Representation) (s : State) (c : Char) : State :=
  match s.token with
  | .failed _ => s
  | .none => s.fresh rep c
  | .comment => if c = '\n' then { s with token := .none } else s
  | .sign sign =>
    if c.isDigit then { s with token := .number true false [c, sign] }
    else s.inSymbol rep [sign] c
  | .number signed point chars => s.inNumber rep signed point chars c
  | .symbol chars => s.inSymbol rep chars c
  | .colon =>
    if c = ':' then { s with token := .keyword true [] } else s.inKeyword rep false [] c
  | .keyword auto chars => s.inKeyword rep auto chars c
  | .hash start =>
    -- the form has begun at the hash sign already
    if c = '\x7b' then { s with token := .none, pending := .group .set [] :: s.pending }
    else if c = '"' then { s with token := .regex [] }
    else s.fail (.strayCharacter '#') start
  | .string chars =>
    if c = '"' then s.finish (.string (String.ofList chars.reverse))
    else if c = '\\' then { s with token := .escape chars }
    else { s with token := .string (c :: chars) }
  | .escape chars =>
    if c = 'u' then { s with token := .unicode chars [] }
    else { s with token := .string (escaped c :: chars) }
  | .unicode chars digits => s.inUnicode chars digits c
  | .regex chars =>
    if c = '"' then s.finishRegex chars (s.position.advance c)
    else if c = '\\' then { s with token := .regexEscape chars }
    else { s with token := .regex (c :: chars) }
  | .regexEscape chars =>
    -- all escapes but that of the quote are left to the pattern
    { s with token := .regex (if c = '"' then c :: chars else c :: '\\' :: chars) }

/-- The effect of one character. -/
def step (rep : Representation) (s : State) (c : Char) : State :=
  let next := s.take rep c
  { next with position := s.position.advance c }

/-- Ends the token being read at the end of the text. -/
def endToken (s : State) : State :=
  match s.token with
  | .none | .comment | .failed _ => s
  | .sign c => s.finish (symbolValue [c])
  | .number _ _ chars => s.finishNumber chars
  | .symbol chars => s.finish (symbolValue chars)
  | .colon => s.fail .emptyKeyword s.position
  | .keyword auto chars => s.finishKeyword auto chars
  | .hash start => s.fail (.strayCharacter '#') start
  | .string _ | .escape _ => s.fail .unterminatedString s.position
  | .unicode .. => s.fail .shortUnicodeEscape s.position
  | .regex _ | .regexEscape _ => s.fail .unterminatedRegex s.position

/-- The fault of a state at the end of the text: reading has failed before, or something still waits
for more. -/
def fault? (s : State) : Option Fault :=
  match s.token, s.pending with
  | .failed f, _ => some f
  | _, [] => none
  | _, .quote :: _ => some ⟨.endOfInput, s.position⟩
  | _, .group d _ :: _ => some ⟨.unterminated d, s.position⟩

end State

/-- The outcome of reading a text. -/
structure Reading where
  /-- The top-level forms, in order. -/
  forms : List Located
  /-- What stopped the reader, and where the form it was reading begins. -/
  fault : Option (Fault × Position)

/-- The outcome of a state at the end of the text. -/
def State.outcome (s : State) : Reading :=
  let s := s.endToken
  { forms := s.forms.reverse, fault := s.fault?.map (·, s.start) }

/-- Reads a row of characters. -/
def readChars (rep : Representation) (cs : List Char) : Reading :=
  (cs.foldl (State.step rep) {}).outcome

/-- Reads a whole text. -/
def readAll (rep : Representation) (text : String) : Reading :=
  readChars rep text.toList

/-- The forms of a text, or the fault that stops the reader. -/
def read (rep : Representation) (text : String) : Except Fault (List Value) :=
  let r := readAll rep text
  match r.fault with
  | some (f, _) => .error f
  | none => .ok (r.forms.map (·.form))

end Lisp.Reader
