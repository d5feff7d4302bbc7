import Lisp.Heap

/-!
# Operands of a kind

Built-in procedures look at their operands through these views, which fail on operands of another
kind and say what they found.

## Main definitions

* `Operand.number`, `Operand.index`, `Operand.string`, `Operand.name` — an operand of a kind
-/

namespace Lisp.Operand

variable (h : Heap)

/-- A number. -/
def number : Value → Except Cause Number
  | .number n => .ok n
  | v => .error (.mismatch (.numberExpected (h.print v)))

/-- All numbers of a row. -/
def numbers (args : List Value) : Except Cause (List Number) :=
  args.mapM (number h)

/-- A position: a whole number from zero on. -/
def index (v : Value) : Except Cause Nat :=
  match v with
  | .number n =>
    match n.toIndex? with
    | some i => .ok i
    | none => .error (.mismatch (.indexExpected (h.print v)))
  | _ => .error (.mismatch (.indexExpected (h.print v)))

/-- A string. -/
def string : Value → Except Cause String
  | .string s => .ok s
  | v => .error (.mismatch (.stringExpected (h.print v)))

/-- The text of a string, or the name proper of a symbol or keyword. -/
def name : Value → Except Cause String
  | .string s => .ok s
  | .symbol n | .keyword n => .ok n.base
  | v => .error (.mismatch (.nameExpected (h.print v)))

end Lisp.Operand
