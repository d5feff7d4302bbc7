import Lisp.Cli

/-!
# The program

Evaluation is pure. When it needs a file at which nobody has looked, it stops; the file is then read
and the evaluation starts over from where it was asked.

## Main definitions

* `main` — the program
-/

namespace Lisp.Program

/-- Files that have been looked at. -/
abbrev Known := List (String × Contents)

/-- What is known about files. -/
def Known.files (known : Known) : Files := fun path => known.lookup path

/-- The system's number for an error, which some operations report negated. -/
def errorNumber (code : UInt32) : Nat :=
  if code.toNat < 0x80000000 then code.toNat else UInt32.size - code.toNat

/-- Why a file could not be read. -/
def problemOf : IO.Error → FileProblem
  | .noFileOrDirectory .. => .notFound
  | .inappropriateType _ code details =>
    if errorNumber code = 21 then .isDirectory
    else if errorNumber code = 20 then .notDirectory
    else .other details
  | .invalidArgument _ code details =>
    if errorNumber code = 36 then .nameTooLong else .other details
  | e => .other (toString e)

/-- Looks at a file. -/
def look (path : String) : IO Contents := do
  try
    let bytes ← IO.FS.readBinFile path
    return match String.fromUTF8? bytes with
      | some text => .ok text
      | none => .error .notText
  catch e => return .error (problemOf e)

/-- Repeats a computation until it needs no more files. -/
partial def settle {α : Type} (known : Known) (act : Files → Except Signal α) :
    IO (α × Known) := do
  match act known.files with
  | .ok a => return (a, known)
  | .error (.unknownFile path) =>
    let contents ← look path
    settle ((path, contents) :: known) act
  | .error _ => throw (IO.userError "evaluation did not end")

/-- Prints on both channels. -/
def emit (printed : Printed) : IO Unit := do
  let stdout ← IO.getStdout
  let stderr ← IO.getStderr
  stdout.putStr printed.stdout
  stdout.flush
  stderr.putStr printed.stderr
  stderr.flush

/-- Takes lines from the input until it ends. -/
partial def interact (known : Known) (input : IO.FS.Stream) (r : Repl) : IO Unit := do
  let line ← input.getLine
  if line.isEmpty then return
  let text := (Repl.lines line).headD ""
  let turn := fun files =>
    ({ r with interpreter.setting.files := files } : Repl).turn text
  let ((printed, r), known) ← settle known turn
  emit printed
  interact known input r

end Lisp.Program

open Lisp

/-- The program. -/
def main (args : List String) : IO UInt32 := do
  match Command.ofArgs args with
  | .repl =>
    Program.emit ⟨Repl.banner, ""⟩
    Program.interact [] (← IO.getStdin) { interpreter := .start {} fun _ => none }
    return 0
  | command =>
    let (run, _) ← Program.settle [] fun files => Cli.run files "" command
    Program.emit run.printed
    return run.code.toUInt32
