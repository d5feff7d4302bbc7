import Lisp.Path
import Lisp.Value.Basic

/-!
# Options

What is settled when a session starts.

## Main definitions

* `Options` — the representation of literals and where modules are found
* `Options.modulePath` — the file of a module
-/

namespace Lisp

/-- The settings of a session. -/
structure Options where
  /-- How vectors, maps and sets are represented. -/
  representation : Representation := .native
  /-- The directory that paths start from while no file is being evaluated. -/
  sourceRoot : String := "."
  /-- The extension of module files. -/
  extension : String := "ws"
  /-- The name of the module that holds the host's objects. -/
  hostNamespace : String := "host"
deriving Inhabited

/-- Where the file of a module lies below the directory that paths start from. -/
def Options.modulePath (o : Options) (name : String) : String :=
  Path.ofModule name o.extension

end Lisp
