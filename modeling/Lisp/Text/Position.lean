/-!
# Positions in a text

Lines count from one and columns from zero; a column counts characters since the last newline.

## Main definitions

* `Text.Position` — a line and a column
* `Text.Position.after` — the position behind a row of characters
* `Text.Cursor` — the unread rest of a text, with the position it begins at
-/

namespace Lisp.Text

/-- A place in a text. -/
structure Position where
  /-- One more than the number of newlines before the place. -/
  line : Nat := 1
  /-- The number of characters since the last newline. -/
  column : Nat := 0
deriving DecidableEq, Inhabited, Repr

namespace Position

/-- The position behind one character. -/
def advance (p : Position) (c : Char) : Position :=
  if c = '\n' then ⟨p.line + 1, 0⟩ else ⟨p.line, p.column + 1⟩

/-- The position behind a row of characters. -/
def after (p : Position) (cs : List Char) : Position :=
  cs.foldl advance p

/-- The position as it stands in messages, behind the name of the source. -/
def describe (source : String) (p : Position) : String :=
  source ++ ":" ++ toString p.line ++ ":" ++ toString p.column

end Position

/-- The unread rest of a text. -/
structure Cursor where
  /-- The characters not read yet. -/
  rest : List Char
  /-- Where the rest begins. -/
  position : Position := {}

namespace Cursor

/-- The whole of a text, unread. -/
def ofString (s : String) : Cursor := ⟨s.toList, {}⟩

/-- The next character, if any, and the cursor behind it. -/
def next (c : Cursor) : Option Char × Cursor :=
  match c.rest with
  | [] => (none, c)
  | x :: xs => (some x, ⟨xs, c.position.advance x⟩)

/-- The next character, left unread. -/
def peek (c : Cursor) : Option Char := c.rest.head?

/-- The character after the next one, left unread. -/
def peekAhead (c : Cursor) : Option Char := (c.rest.drop 1).head?

/-- Whether everything has been read. -/
def atEnd (c : Cursor) : Bool := c.rest.isEmpty

/-- A complaint about the current position of a source. -/
def complain (c : Cursor) (source message : String) : String :=
  message ++ " at " ++ c.position.describe source

end Cursor

end Lisp.Text
