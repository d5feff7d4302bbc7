/-!
# Interpreter lines

A source file may begin with a line that names its interpreter to the operating system.
-/

namespace Lisp.Text

/-- A text without a first line that starts with `#!`. The line's newline stays, so that lines keep
their numbers. -/
def dropShebang (s : String) : String :=
  match s.toList with
  | '#' :: '!' :: rest => String.ofList (rest.dropWhile (· != '\n'))
  | _ => s

end Lisp.Text
