import Lisp.Number.Arith
import Lisp.Operand
import Lisp.Signature

/-!
# Operators

Arithmetic on numbers, bitwise operations on the integer parts of numbers as 64-bit words, and the
joining of texts.

## Main definitions

* `Operator.run` — the result of an operator
-/

namespace Lisp.Operator

variable (h : Heap)

/-- The integer parts of all numbers of a row, as words. -/
def words (args : List Value) : Except Cause (List Int64) := do
  return (← Operand.numbers h args).map (·.toWord)

/-- Folds an operation on words over a row that is not empty. -/
def foldWords (f : Int64 → Int64 → Int64) (first : Value) (rest : List Value) :
    Except Cause Value := do
  match ← words h (first :: rest) with
  | w :: ws => return .number (.ofWord (ws.foldl f w))
  | [] => return .nil

/-- Shifts a word by less than its width. -/
def shift (op : Operator) (f : Int64 → Nat → Int64) (w amount : Int64) : Except Cause Value :=
  let k := amount.toInt
  if 0 ≤ k ∧ k < 64 then .ok (.number (.ofWord (f w k.toNat)))
  else .error (.mismatch (.shiftAmount op k))

/-- The joined texts of values: strings stand for themselves and `nil` for nothing. -/
def joinTexts (args : List Value) : String :=
  args.foldl (fun text v =>
    match v with
    | .nil => text
    | v => text ++ h.printPlain v) ""

/-- The result of an operator. -/
def run (op : Operator) (args : List Value) : Except Cause Value :=
  match op, args with
  | add, xs => return .number (.sum (← Operand.numbers h xs))
  | subtract, xs => return .number (.difference (← Operand.numbers h xs))
  | multiply, xs => return .number (.product (← Operand.numbers h xs))
  | divide, xs => return .number (.quotient (← Operand.numbers h xs))
  | modulo, [x, y] => return .number ((← Operand.number h x).rem (← Operand.number h y))
  | bitOr, x :: xs => foldWords h (· ||| ·) x xs
  | bitAnd, x :: xs => foldWords h (· &&& ·) x xs
  | bitXor, x :: xs => foldWords h (· ^^^ ·) x xs
  | bitNot, [x] => return .number (.ofWord (~~~ (← Operand.number h x).toWord))
  | shiftLeft, [x, y] => do
    shift op Number.shiftLeft (← Operand.number h x).toWord (← Operand.number h y).toWord
  | shiftRight, [x, y] => do
    shift op Number.shiftRight (← Operand.number h x).toWord (← Operand.number h y).toWord
  | join, xs => .ok (.string (joinTexts h xs))
  | increment, [x] => return .number ((← Operand.number h x).add .one)
  | decrement, [x] => return .number ((← Operand.number h x).sub .one)
  | negate, [x] => .ok (.bool !x.isTruthy)
  | op, xs => .error ((Builtin.operator op).complain xs)

end Lisp.Operator
