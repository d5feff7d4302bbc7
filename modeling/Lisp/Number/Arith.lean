import Lisp.Number.Basic

/-!
# Arithmetic

Arithmetic follows IEEE 754. The remainder is exact and takes the sign of the dividend.

## Main definitions

* `Number.sum`, `Number.product` — folds over any number of operands; the empty sum is `-0`
* `Number.rem` — the exact remainder of a truncated division
* `Number.least`, `Number.greatest` — extremes that pass over what is not a number
-/

namespace Lisp.Number

-- Powers are those of the core library, whatever others are in scope.
attribute [local instance (high)] instPowNat

/-- The sum of two numbers. -/
def add (x y : Number) : Number := ofFloat (x.toFloat + y.toFloat)

/-- The difference of two numbers. -/
def sub (x y : Number) : Number := ofFloat (x.toFloat - y.toFloat)

/-- The product of two numbers. -/
def mul (x y : Number) : Number := ofFloat (x.toFloat * y.toFloat)

/-- The quotient of two numbers. -/
def div (x y : Number) : Number := ofFloat (x.toFloat / y.toFloat)

/-- Whether one number is below another; never so if either is not a number. -/
def lt (x y : Number) : Bool := x.toFloat < y.toFloat

/-- Whether one number is at most another; never so if either is not a number. -/
def le (x y : Number) : Bool := x.toFloat ≤ y.toFloat

/-- The sum of all operands, from `-0`. -/
def sum (xs : List Number) : Number := xs.foldl add negZero

/-- The product of all operands, from one. -/
def product (xs : List Number) : Number := xs.foldl mul one

/-- The first operand less all others; a single one is negated and none at all is zero. -/
def difference : List Number → Number
  | [] => zero
  | [x] => x.neg
  | x :: xs => xs.foldl sub x

/-- The first operand divided by all others; a single one is itself and none at all is one. -/
def quotient : List Number → Number
  | [] => one
  | x :: xs => xs.foldl div x

/-- The remainder of the division truncated toward zero, with the sign of the dividend. -/
def rem (x y : Number) : Number :=
  match x.exact, y.exact with
  | .finite negative m₁ q₁, .finite _ m₂ q₂ =>
    if m₂ = 0 then nan
    else
      let q := min q₁ q₂
      ofDyadic negative ((m₁ * 2 ^ (q₁ - q).toNat) % (m₂ * 2 ^ (q₂ - q).toNat)) q
  | .finite .., .infinite _ => x
  | _, _ => nan

/-- The least operand, passing over what is not a number; infinity if there is none. -/
def least (xs : List Number) : Number :=
  xs.foldl (fun r x => if x.lt r then x else r) infinity

/-- The greatest operand, passing over what is not a number; negative infinity if there is none. -/
def greatest (xs : List Number) : Number :=
  xs.foldl (fun r x => if r.lt x then x else r) negInfinity

/-- Magnitude: the sign bit cleared. -/
def abs (x : Number) : Number := ⟨x.bits &&& 0x7FFFFFFFFFFFFFFF⟩

/-- Applies a function of the hardware numbers. -/
def through (f : Float → Float) (x : Number) : Number := ofFloat (f x.toFloat)

/-- `x` to the power `y`. -/
def pow (x y : Number) : Number := ofFloat (Float.pow x.toFloat y.toFloat)

/-- The integer value of a signed word as a number. -/
def ofWord (w : Int64) : Number := ofInt w.toInt

/-- A word shifted up; bits shifted past the top are lost. -/
def shiftLeft (w : Int64) (k : Nat) : Int64 := w <<< Int64.ofNat k

/-- A word shifted down, copying its sign. -/
def shiftRight (w : Int64) (k : Nat) : Int64 := w >>> Int64.ofNat k

end Lisp.Number
