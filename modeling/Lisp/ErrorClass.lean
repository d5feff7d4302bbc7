import Lisp.Error

/-!
# Error classes

Programs see an error as an object of one of these types. All of them descend from `Error`, which is
also the type of thrown texts.

## Main definitions

* `ErrorClass` — the types of error objects
* `ErrorClass.ofCause` — the type that a cause is shown as
* `ErrorClass.ref` — where the type stands among all types
-/

namespace Lisp

/-- The types of error objects. -/
inductive ErrorClass where
  | error | unreadable | unbound | arity | notInvocable | invalid | module | mismatch | file
deriving DecidableEq, Inhabited, Repr

namespace ErrorClass

/-- The name of the type. -/
def name : ErrorClass → String
  | error => "Error"
  | unreadable => "SyntaxError"
  | unbound => "UndefinedVariableError"
  | arity => "ArityError"
  | notInvocable => "NotInvocableError"
  | invalid => "InvalidExpressionError"
  | module => "ModuleError"
  | mismatch => "TypeError"
  | file => "IOError"

/-- Every error class, the common ancestor first. -/
def all : List ErrorClass :=
  [error, unreadable, unbound, arity, notInvocable, invalid, module, mismatch, file]

/-- The place of the type: error classes are the first types of every session, in this order. -/
def ref (c : ErrorClass) : TypeRef := ⟨all.idxOf c⟩

/-- The type that a cause is shown as. -/
def ofCause : Cause → ErrorClass
  | .unreadable .. => unreadable
  | .unbound _ => unbound
  | .arity .. => arity
  | .notInvocable _ => notInvocable
  | .invalid _ | .strayAgain => invalid
  | .module _ => module
  | .mismatch _ => mismatch
  | .file _ => file
  | .thrown _ => error

end ErrorClass

end Lisp
