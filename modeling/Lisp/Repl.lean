import Lisp.Interpreter
import Lisp.Text.Blank
import Lisp.Text.Grapheme

/-!
# The interactive loop

Lines are gathered until they hold complete forms; these are then run, and their value or the report
on their error is printed.

## Main definitions

* `Repl` — an interpreter and the lines gathered so far
* `Repl.turn` — takes one line
* `Repl.lines` — the lines of an input
-/

namespace Lisp

variable [Tables]

/-- What is printed on the two channels. -/
structure Printed where
  stdout : String := ""
  stderr : String := ""

/-- What is printed first, followed by what is printed next. -/
def Printed.append (p q : Printed) : Printed := ⟨p.stdout ++ q.stdout, p.stderr ++ q.stderr⟩

instance : Append Printed := ⟨Printed.append⟩

/-- What is printed for the outcome of an evaluation: after what the program itself has printed, its
value, or the report on its error. Signals that no program can raise are handed on. -/
def Interpreter.present (outcome : Except Signal Value) (i : Interpreter) :
    Except Signal (Printed × Interpreter) :=
  let (printed, i) := i.takeOutput
  match outcome with
  | .ok v => .ok (⟨printed ++ i.machine.heap.print v ++ "\n", ""⟩, i)
  | .error (.fault e) => .ok (⟨printed, i.machine.heap.report e ++ "\n"⟩, i)
  | .error s => .error s

/-- An interpreter and the lines gathered so far. -/
structure Repl where
  interpreter : Interpreter
  buffer : String := ""

namespace Repl

/-- The name of the source that lines belong to. -/
def source : String := "repl"

/-- What is printed before the first line. -/
def banner : String :=
  "WonderScript " ++ Start.version ++ "\nType expressions to evaluate, or Ctrl-D to quit\n\n"

/-- Whether a text ends within a form. -/
def isIncomplete (rep : Representation) (text : String) : Bool :=
  match Reader.read rep text with
  | .error fault => fault.defect.isIncomplete
  | .ok _ => false

/-- Takes one line. Blank lines between forms do not count. -/
def turn (r : Repl) (line : String) : Except Signal (Printed × Repl) := do
  if r.buffer.isEmpty && line.toList.all Text.isBlank then return ({}, r)
  let buffer := r.buffer ++ line ++ "\n"
  if isIncomplete r.interpreter.engine.mode buffer then return ({}, { r with buffer })
  let (outcome, i) := r.interpreter.evalText buffer source
  let (printed, i) ← i.present outcome
  return (printed, { interpreter := i })

/-- A line without the carriage return at its end; the line is given in reverse. -/
def dropReturn : List Char → List Char
  | '\r' :: line => line.reverse
  | line => line.reverse

/-- The lines of an input, after a line so far in reverse. The last one may lack its end. -/
def linesFrom : List Char → List Char → List String
  | [], [] => []
  | [], line => [String.ofList line.reverse]
  | '\n' :: rest, line => String.ofList (dropReturn line) :: linesFrom rest []
  | c :: rest, line => linesFrom rest (c :: line)

/-- A line as it was typed: a backspace takes the grapheme before it back. -/
def typed (line : String) : String :=
  let kept := (Text.graphemes line).foldl
    (fun kept g => if g = "\x08" then kept.drop 1 else g :: kept) []
  String.join kept.reverse

/-- The lines of an input, as they were typed. -/
def lines (input : String) : List String := (linesFrom input.toList []).map typed

/-- Takes lines, one after the other. -/
def turns (r : Repl) : List String → Except Signal Printed
  | [] => return {}
  | line :: rest => do
    let (printed, r) ← r.turn line
    return printed ++ (← turns r rest)

end Repl

end Lisp
