import Lisp.Regex.Flags
import Lisp.Regex.Pattern
import Lisp.Text.Blank

/-!
# Reading the text of a pattern

The reader of patterns keeps the unread rest of the text, the flags in force and the groups opened
so far. In verbose mode it passes over blanks and comments between the characters it takes.

## Main definitions

* `Regex.Parser.State`, `Regex.Parser.Parse` — a step of the reader
* `Regex.Parser.advance` — passes over a character and what does not count behind it
* `Regex.Parser.gather` — takes characters of a kind
-/

namespace Lisp.Regex.Parser

/-- What is left to read, and what has been read of groups and flags. -/
structure State where
  rest : List Char
  flags : Flags := {}
  /-- The number of numbered groups opened so far. -/
  groups : Nat := 0
  /-- Names given to groups so far. -/
  names : List String := []

/-- A step of the reader. A failure tells how many characters were unread where the defect is. -/
abbrev Parse := EStateM (Defect × Nat) State

/-- Fails at a place given by the number of characters unread there. -/
def failAt {α : Type} (unread : Nat) (d : Defect) : Parse α := throw (d, unread)

/-- The number of unread characters. -/
def unread : Parse Nat := return (← get).rest.length

/-- Fails at the current place. -/
def fail {α : Type} (d : Defect) : Parse α := do failAt (← unread) d

/-- The flags in force. -/
def flags : Parse Flags := return (← get).flags

/-- The next character. -/
def peek : Parse (Option Char) := return (← get).rest.head?

/-- Passes over some characters. -/
def skip (n : Nat) : Parse Unit := modify fun s => { s with rest := s.rest.drop n }

/-- What is left behind blanks and comments; a comment ends with its line. -/
def dropVerbose : Bool → List Char → List Char
  | _, [] => []
  | true, c :: rest => dropVerbose (c != '\n') rest
  | false, c :: rest =>
    if Text.isBlank c then dropVerbose false rest
    else if c = '#' then dropVerbose true rest
    else c :: rest

/-- Passes over blanks and comments if the flags say so. -/
def skipVerbose : Parse Unit :=
  modify fun s => if s.flags.verbose then { s with rest := dropVerbose false s.rest } else s

/-- Passes over a character, and over blanks and comments behind it. -/
def advance : Parse Unit := do
  skip 1
  skipVerbose

/-- The next character after blanks that do not count, or a failure at the end of the pattern. -/
def peekOr (place : Nat) (d : Defect) : Parse Char := do
  skipVerbose
  match ← peek with
  | some c => return c
  | none => failAt place d

/-- Takes characters as long as they are of a kind, at most as many as given. -/
def gather (kind : Char → Bool) : Nat → Parse (List Char)
  | 0 => return []
  | most + 1 => do
    match ← peek with
    | some c =>
      if kind c then
        advance
        return c :: (← gather kind most)
      else return []
    | none => return []

/-- Takes characters up to a closing one, which is passed over too. -/
def gatherUntil (closing : Char) : Parse (List Char) := do
  let taken ← gather (· != closing) (← unread)
  if (← peek).isNone then fail .escapeUnfinished
  advance
  return taken

/-- Passes over blanks, whatever the flags say. -/
def skipBlanks : Parse Unit :=
  modify fun s => { s with rest := s.rest.dropWhile Text.isBlank }

/-- A natural number below `2^32`, with blanks on either side. -/
def decimal : Parse (Option Nat) := do
  skipBlanks
  let digits ← gather Char.isDigit (← unread)
  skipBlanks
  if digits.isEmpty then return none
  let n := digits.foldl (fun n c => 10 * n + (c.toNat - '0'.toNat)) 0
  if n < UInt32.size then return some n else fail .decimalInvalid

end Lisp.Regex.Parser
