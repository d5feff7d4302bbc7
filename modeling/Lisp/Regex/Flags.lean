/-!
# Modes of patterns

Letters in `(?flags)` switch modes of the rest of the enclosing group, or of a group of their own.

## Main definitions

* `Regex.Flags` — the modes in force
* `Regex.Flags.set?` — switches the mode of a letter
-/

namespace Lisp.Regex

/-- The modes of a pattern, or of a part of it. -/
structure Flags where
  /-- Letters match in either case (`i`). -/
  anyCase : Bool := false
  /-- `^` and `$` match at every line (`m`). -/
  multiLine : Bool := false
  /-- `.` matches a newline too (`s`). -/
  dotAll : Bool := false
  /-- Repetitions prefer fewer unless marked (`U`). -/
  swapGreed : Bool := false
  /-- Classes know all scripts (`u`); without, they are sets of bytes. -/
  allScripts : Bool := true
  /-- A carriage return ends a line too (`R`). -/
  crlf : Bool := false
  /-- Blanks and comments in the pattern do not count (`x`). -/
  verbose : Bool := false
deriving Inhabited

/-- Switches the flag of a letter on or off. -/
def Flags.set? (f : Flags) (letter : Char) (on : Bool) : Option Flags :=
  match letter with
  | 'i' => some { f with anyCase := on }
  | 'm' => some { f with multiLine := on }
  | 's' => some { f with dotAll := on }
  | 'U' => some { f with swapGreed := on }
  | 'u' => some { f with allScripts := on }
  | 'R' => some { f with crlf := on }
  | 'x' => some { f with verbose := on }
  | _ => none

end Lisp.Regex
