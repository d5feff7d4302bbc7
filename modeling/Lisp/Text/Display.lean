import Lisp.Text.Category
import Lisp.Text.Grapheme.Table
import Lisp.Text.Property.Table

/-!
# Text in messages

Messages show a text in double quotes, with every character that would not be seen, or would change
the one before it, written by its code point.

## Main definitions

* `Text.isVisible` — whether a character shows by itself
* `Text.display` — a string in double quotes, as messages show it
-/

namespace Lisp.Text

/-- Whether a character leaves no mark: controls, formats, separators, private and unassigned ones,
and letters that only fill a place. -/
def isUnseen (n : Nat) : Bool :=
  Category.control.contains n || Category.format.contains n || Category.privateUse.contains n ||
    Category.spaceSeparator.contains n || Category.lineSeparator.contains n ||
    Category.paragraphSeparator.contains n || Property.defaultIgnorable.contains n ||
    !(Category.assigned.contains n || Category.recent.contains n)

/-- Whether a character extends the one before it; the skin tones of emoji and the half-width sound
marks do not count. -/
def isExtending (n : Nat) : Bool :=
  Grapheme.extendRanges.contains n &&
    !((0x1F3FB ≤ n && n ≤ 0x1F3FF) || n = 0xFF9E || n = 0xFF9F)

/-- Whether a character shows by itself. -/
def isVisible (c : Char) : Bool :=
  let n := c.toNat
  if n < 0x7F then 0x20 ≤ n else !isExtending n && !isUnseen n

/-- One character as messages show it. -/
def displayChar (c : Char) : List Char :=
  if c = '\x00' then ['\\', '0']
  else if c = '\n' then ['\\', 'n']
  else if c = '\t' then ['\\', 't']
  else if c = '\r' then ['\\', 'r']
  else if c = '\\' then ['\\', '\\']
  else if c = '"' then ['\\', '"']
  else if isVisible c then [c]
  else "\\u\x7b".toList ++ Nat.toDigits 16 c.toNat ++ "\x7d".toList

/-- A string in double quotes, as messages show it. -/
def display (s : String) : String :=
  "\"" ++ String.ofList (s.toList.flatMap displayChar) ++ "\""

end Lisp.Text
