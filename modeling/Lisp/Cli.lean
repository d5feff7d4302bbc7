import Lisp.Repl

/-!
# The command line

## Main definitions

* `Command` — what the arguments ask for
* `Cli.run` — what a command prints, and its exit code
-/

namespace Lisp

variable [Tables]

/-- What the arguments of the program ask for. -/
inductive Command where
  /-- The interactive loop. -/
  | repl
  /-- The usage message. -/
  | help
  /-- The value of a file. -/
  | file (path : String)
  /-- More than can be asked for. -/
  | tooMany
deriving DecidableEq, Inhabited, Repr

/-- What some arguments ask for. -/
def Command.ofArgs : List String → Command
  | [] => repl
  | [arg] => if arg = "--help" || arg = "-h" then help else file arg
  | _ => tooMany

/-- What a run leaves behind. -/
structure Run where
  code : Nat
  printed : Printed

namespace Cli

/-- The usage message. -/
def usage : String :=
  "Usage:\n" ++
  "  ws             Start interactive REPL\n" ++
  "  ws <file.ws>   Run a WonderScript file\n" ++
  "  ws --help      Show this help message\n"

/-- Runs a file. -/
def runFile (files : Files) (path : String) : Except Signal Run := do
  let (outcome, i) := (Interpreter.start {} files).loadFile path
  let (printed, _) ← i.present outcome
  return ⟨if outcome matches .ok _ then 0 else 1, printed⟩

/-- Runs the interactive loop on an input. -/
def runRepl (files : Files) (input : String) : Except Signal Run := do
  let printed ← Repl.turns { interpreter := .start {} files } (Repl.lines input)
  return ⟨0, ⟨Repl.banner, ""⟩ ++ printed⟩

/-- Runs a command on an input. It stops short only for a file at which nobody has looked. -/
def run (files : Files) (input : String) : Command → Except Signal Run
  | .repl => runRepl files input
  | .help => return ⟨0, ⟨"", usage⟩⟩
  | .file path => runFile files path
  | .tooMany => return ⟨1, ⟨"", "Error: Too many arguments\n" ++ usage⟩⟩

end Cli

end Lisp
