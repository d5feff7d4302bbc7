import Lisp.Number.Arith
import Lisp.Number.Parser
import Lisp.Operand
import Lisp.Signature
import Lisp.Text.Blank

/-!
# The host's procedures

Mathematical functions, which are methods and so get their receiver first, and the reading of
numerals from strings.

## Main definitions

* `MathFunction.run` — the result of a mathematical function
* `Host.parseFloat`, `Host.parseInt` — the number that a string denotes
-/

namespace Lisp

/-- A mathematical function of one number. -/
def MathFunction.unary : MathFunction → Number → Number
  | abs => Number.abs
  | floor => .through Float.floor
  | ceil => .through Float.ceil
  | round => .through Float.round
  | sqrt => .through Float.sqrt
  | sin => .through Float.sin
  | cos => .through Float.cos
  | log => .through Float.log
  | exp => .through Float.exp
  | pow | min | max => id

/-- The result of a mathematical function; its first argument is the receiver. -/
def MathFunction.run (h : Heap) (f : MathFunction) (args : List Value) : Except Cause Value :=
  match f, args with
  | min, _ :: xs => return .number (.least (← Operand.numbers h xs))
  | max, _ :: xs => return .number (.greatest (← Operand.numbers h xs))
  | pow, [_, x, y] => return .number ((← Operand.number h x).pow (← Operand.number h y))
  | pow, xs => .error ((Builtin.math pow).complain xs)
  | f, [_, x] => return .number (f.unary (← Operand.number h x))
  | f, xs => .error ((Builtin.math f).complain xs)

namespace Host

/-- The number that a string denotes, blanks around it aside. -/
def parseFloat (h : Heap) : List Value → Except Cause Value
  | [v] => do
    let text ← Operand.string h v
    return .number ((Number.parse? (Text.trim text)).getD .nan)
  | args => .error (Builtin.parseFloat.complain args)

/-- The integer that a string denotes in a radix, blanks around it aside. -/
def integerOf (radix : Int) (text : String) : Value :=
  .number <|
    if 2 ≤ radix ∧ radix ≤ 36 then
      match Number.parseInteger? radix.toNat (Text.trim text) with
      | some i => .ofInt i
      | none => .nan
    else .nan

/-- The integer that a string denotes, in base ten unless a radix is given. -/
def parseInt (h : Heap) : List Value → Except Cause Value
  | [v] => return integerOf 10 (← Operand.string h v)
  | [v, radix] => do
    let text ← Operand.string h v
    return integerOf ((← Operand.number h radix).toIntClamped 0 0xFFFFFFFF) text
  | args => .error (Builtin.parseInt.complain args)

end Host

end Lisp
