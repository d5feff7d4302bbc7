/-!
# Arities

How many arguments a clause of a procedure takes.

## Main definitions

* `Arity` — an exact number, or any number from a least one up
* `Arity.accepts` — whether a count of arguments fits
* `Arity.key` — the signed encoding of an arity as one integer
* `Arity.sort` — arities in order
-/

namespace Lisp

/-- How many arguments a clause takes. -/
inductive Arity where
  /-- This many arguments. -/
  | exact (n : Nat)
  /-- This many arguments or more. -/
  | atLeast (n : Nat)
deriving DecidableEq, Inhabited

namespace Arity

/-- Whether a count of arguments fits. -/
def accepts : Arity → Nat → Bool
  | exact n, argc => argc = n
  | atLeast n, argc => n ≤ argc

/-- `n` for exactly `n` arguments, `-(n + 1)` for at least `n`. -/
def key : Arity → Int
  | exact n => n
  | atLeast n => -(n : Int) - 1

/-- The wording of an arity in messages. -/
def text : Arity → String
  | exact n => toString n
  | atLeast n => "at least " ++ toString n

/-- Exact arities come before the others, and smaller ones before larger. -/
def le : Arity → Arity → Bool
  | exact a, exact b => a ≤ b
  | exact _, atLeast _ => true
  | atLeast _, exact _ => false
  | atLeast a, atLeast b => a ≤ b

/-- Arities in order. -/
def sort (as : List Arity) : List Arity :=
  as.mergeSort le

@[simp]
theorem mem_sort {a : Arity} {as : List Arity} : a ∈ sort as ↔ a ∈ as :=
  List.mem_mergeSort

end Arity

end Lisp
