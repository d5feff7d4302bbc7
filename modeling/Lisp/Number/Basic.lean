/-!
# Numbers

Every number of the language is an IEEE 754 double. It is kept as its 64 bits, so that two numbers
can be told apart (or identified) by looking at them, and it is read as an exact dyadic rational
where printing, reading or integer conversion needs its value.

## Main definitions

* `Number` — a double, by its bits
* `Number.Exact` — what a double stands for: not a number, an infinity, or `±m·2^q`
* `Number.exact` — the meaning of the bits
* `Number.pack` — the double nearest to a positive rational, ties to even
* `Number.same` — the equality that keys maps and sets: `NaN` equals itself, both zeros are one key
-/

namespace Lisp

-- Powers are those of the core library, whatever others are in scope.
attribute [local instance (high)] instPowNat

/-- A double-precision number, given by its 64 bits. -/
structure Number where
  /-- Sign, eleven bits of exponent and fifty-two bits of fraction, from the top down. -/
  bits : UInt64
deriving DecidableEq, Inhabited

namespace Number

/-- What a double stands for. -/
inductive Exact where
  /-- Not a number. -/
  | nan
  /-- An infinity of the given sign. -/
  | infinite (negative : Bool)
  /-- The rational `m · 2^q`, negated if `negative`; zero keeps its sign. -/
  | finite (negative : Bool) (m : Nat) (q : Int)
deriving DecidableEq

/-- The sign bit. -/
def isNegative (x : Number) : Bool :=
  decide (2 ^ (63 : Nat) ≤ x.bits.toNat)

/-- The eleven exponent bits. -/
def exponentField (x : Number) : Nat :=
  x.bits.toNat / 2 ^ (52 : Nat) % 2 ^ (11 : Nat)

/-- The fifty-two fraction bits. -/
def fractionField (x : Number) : Nat :=
  x.bits.toNat % 2 ^ (52 : Nat)

/-- The meaning of the bits: all exponent bits set is an infinity or no number, none set is a
subnormal, and anything else has a hidden leading one. -/
def exact (x : Number) : Exact :=
  if x.exponentField = 2047 then
    if x.fractionField = 0 then .infinite x.isNegative else .nan
  else if x.exponentField = 0 then
    .finite x.isNegative x.fractionField (-1074)
  else
    .finite x.isNegative (2 ^ (52 : Nat) + x.fractionField) (x.exponentField - 1075)

/-- The hardware number with these bits. -/
@[inline]
def toFloat (x : Number) : Float :=
  Float.ofBits x.bits

/-- The bits of a hardware number. -/
@[inline]
def ofFloat (x : Float) : Number :=
  ⟨x.toBits⟩

/-- Positive zero. -/
def zero : Number := ⟨0⟩

/-- Negative zero. -/
def negZero : Number := ⟨0x8000000000000000⟩

/-- One. -/
def one : Number := ⟨0x3FF0000000000000⟩

/-- Minus one. -/
def negOne : Number := ⟨0xBFF0000000000000⟩

/-- Positive infinity. -/
def infinity : Number := ⟨0x7FF0000000000000⟩

/-- Negative infinity. -/
def negInfinity : Number := ⟨0xFFF0000000000000⟩

/-- Not a number. -/
def nan : Number := ⟨0x7FF8000000000000⟩

/-- The double nearest to the ratio of the circumference to the diameter. -/
def pi : Number := ⟨0x400921FB54442D18⟩

/-- The double nearest to the base of the natural logarithm. -/
def euler : Number := ⟨0x4005BF0A8B145769⟩

/-- Whether the number is not a number. -/
def isNaN (x : Number) : Bool :=
  x.exponentField = 2047 && x.fractionField != 0

/-- Whether the number is one of the two zeros. -/
def isZero (x : Number) : Bool :=
  x.bits.toNat % 2 ^ (63 : Nat) = 0

/-- Key equality of numbers: identical bits, both zero, or both not a number. -/
def same (x y : Number) : Bool :=
  x.bits = y.bits || (x.isZero && y.isZero) || (x.isNaN && y.isNaN)

/-- Flips the sign bit. -/
def neg (x : Number) : Number :=
  ⟨x.bits ^^^ 0x8000000000000000⟩

/-- The quotient of `num` by `den`, to the nearest integer, a half to the even one. -/
def roundDiv (num den : Nat) : Nat :=
  let d := num / den
  let r := num % den
  if 2 * r < den then d
  else if 2 * r > den then d + 1
  else if d % 2 = 0 then d else d + 1

/-- `num / den · 2^(-q)` rounded to an integer, a half to the even one. -/
def scaled (num den : Nat) (q : Int) : Nat :=
  if q ≥ 0 then roundDiv num (den * 2 ^ q.toNat) else roundDiv (num * 2 ^ (-q).toNat) den

/-- The greatest `e` with `2^e ≤ num / den`, for positive `num` and `den`. -/
def floorLog2 (num den : Nat) : Int :=
  let e : Int := (num.log2 : Int) - (den.log2 : Int)
  let below := if e ≥ 0 then num < den * 2 ^ e.toNat else num * 2 ^ (-e).toNat < den
  if below then e - 1 else e

/-- The bits of the positive double nearest to `num / den`, ties to even. A result past the largest
double is infinity, one below the smallest is zero. -/
def packBits (num den : Nat) : Nat :=
  if num = 0 then 0 else
  let q : Int := max (-1074) (floorLog2 num den - 52)
  -- the hidden one, and a significand that rounds up to a power of two, carry into the exponent
  min ((q + 1074).toNat * 2 ^ (52 : Nat) + scaled num den q) (2047 * 2 ^ (52 : Nat))

/-- The double nearest to `±num / den`, ties to even. -/
def pack (negative : Bool) (num den : Nat) : Number :=
  ⟨UInt64.ofNat (packBits num den + if negative then 2 ^ (63 : Nat) else 0)⟩

/-- The double nearest to `±m·2^q`. -/
def ofDyadic (negative : Bool) (m : Nat) (q : Int) : Number :=
  if q ≥ 0 then pack negative (m * 2 ^ q.toNat) 1 else pack negative m (2 ^ (-q).toNat)

/-- The double nearest to an integer. -/
def ofInt (i : Int) : Number :=
  pack (decide (i < 0)) i.natAbs 1

/-- The double nearest to a natural number. -/
def ofNat (n : Nat) : Number :=
  pack false n 1

/-- The magnitude `m·2^q` without its fractional part. -/
def truncate (m : Nat) (q : Int) : Nat :=
  if q ≥ 0 then m * 2 ^ q.toNat else m / 2 ^ (-q).toNat

/-- Whether `m·2^q` is an integer. -/
def dyadicIsInteger (m : Nat) (q : Int) : Bool :=
  q ≥ 0 || m % 2 ^ (-q).toNat = 0

/-- The integer part, clamped to `lo … hi`; what is not a number counts as zero. -/
def toIntClamped (lo hi : Int) (x : Number) : Int :=
  match x.exact with
  | .nan => 0
  | .infinite negative => if negative then lo else hi
  | .finite negative m q =>
    let n : Int := truncate m q
    max lo (min hi (if negative then -n else n))

/-- The integer part as a signed 64-bit word, clamped to its range. -/
def toWord (x : Number) : Int64 :=
  Int64.ofInt (x.toIntClamped Int64.minValue.toInt Int64.maxValue.toInt)

/-- A number that can stand for a position: finite, integral and not below zero. Positions beyond
the largest 64-bit one count as that one. -/
def toIndex? (x : Number) : Option Nat :=
  match x.exact with
  | .finite negative m q =>
    if dyadicIsInteger m q && (!negative || m = 0) then some (min (truncate m q) (UInt64.size - 1))
    else none
  | _ => none

end Number

end Lisp
