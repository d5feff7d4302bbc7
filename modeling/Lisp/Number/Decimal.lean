import Lisp.Number.Basic

/-!
# Decimal numerals

A decimal numeral is a natural number of units of a power of ten. This module finds the double
nearest to a numeral, and the numeral with the fewest digits that is nearest to a double.

## Main definitions

* `Number.Decimal` — `digits · 10^exponent`
* `Number.Decimal.toNumber` — the nearest double
* `Number.shortest` — the shortest numeral that reads back as a positive double
* `Number.Decimal.render` — positional text, never with an exponent
-/

namespace Lisp.Number

-- Powers are those of the core library, whatever others are in scope.
attribute [local instance (high)] instPowNat

/-- The numeral `digits · 10^exponent`. -/
structure Decimal where
  /-- The significant digits as one natural number. -/
  digits : Nat
  /-- The power of ten that the digits count. -/
  exponent : Int
deriving DecidableEq, Repr

namespace Decimal

/-- Numerator of the value of a numeral. -/
def num (d : Decimal) : Nat :=
  d.digits * 10 ^ d.exponent.toNat

/-- Denominator of the value of a numeral. -/
def den (d : Decimal) : Nat :=
  10 ^ (-d.exponent).toNat

/-- How many digits a natural number has. -/
def width (n : Nat) : Nat :=
  (Nat.toDigits 10 n).length

/-- The double nearest to a numeral, ties to even. Numerals whose leading digit stands far beyond
the range of doubles are settled by its place alone. -/
def toNumber (negative : Bool) (d : Decimal) : Number :=
  if d.digits = 0 then pack negative 0 1
  else if d.exponent + width d.digits > 310 then pack negative (2 ^ (1024 : Nat)) 1
  else if d.exponent + width d.digits < -330 then pack negative 0 1
  else pack negative d.num d.den

/-- The digits of a natural number as characters. -/
def digitChars (n : Nat) : List Char :=
  Nat.toDigits 10 n

/-- Positional text: zeros fill the places between the digits and the point, and there is no point
when nothing follows it. -/
def render (d : Decimal) : List Char :=
  let ds := digitChars d.digits
  if d.exponent ≥ 0 then ds ++ List.replicate d.exponent.toNat '0'
  else
    let places := (-d.exponent).toNat
    if ds.length > places then
      ds.take (ds.length - places) ++ '.' :: ds.drop (ds.length - places)
    else '0' :: '.' :: (List.replicate (places - ds.length) '0' ++ ds)

end Decimal

/-- The positive double `m·2^q` together with the distance to its two neighbours. All lengths count
units of `2^(q-2)`: the value is `4m`, and every real strictly between `low` and `high` rounds to
it. The two ends round to it too when `m` is even. -/
structure Interval where
  /-- The significand. -/
  m : Nat
  /-- The binary exponent. -/
  q : Int
  /-- The lower end of the reals that round to the value. -/
  low : Nat
  /-- The upper end. -/
  high : Nat

namespace Interval

/-- The reals that round to `m·2^q`. The gap below a power of two is half as wide, except at the
bottom of the range. -/
def around (m : Nat) (q : Int) : Interval :=
  { m, q,
    low := if m = 2 ^ (52 : Nat) ∧ q > -1074 then 4 * m - 1 else 4 * m - 2,
    high := 4 * m + 2 }

/-- How `n` units of `2^(q-2)` compare with `d · 10^e`, as a pair of natural numbers to compare. -/
def scales (i : Interval) (n : Nat) (d : Nat) (e : Int) : Nat × Nat :=
  let u := i.q - 2
  (n * 2 ^ u.toNat * 10 ^ (-e).toNat, d * 10 ^ e.toNat * 2 ^ (-u).toNat)

/-- Whether `d · 10^e` rounds to the value. -/
def contains (i : Interval) (d : Nat) (e : Int) : Bool :=
  let lo := i.scales i.low d e
  let hi := i.scales i.high d e
  if i.m % 2 = 0 then lo.1 ≤ lo.2 && hi.2 ≤ hi.1 else lo.1 < lo.2 && hi.2 < hi.1

/-- The number of whole units of `10^e` in the value. -/
def wholeUnits (i : Interval) (e : Int) : Nat :=
  let s := i.scales (4 * i.m) 1 e
  s.1 / s.2

/-- The multiple of `10^e` nearest to the value among the two beside it that round to the value. Of
two equally near ones the upper is taken. -/
def onGrid? (i : Interval) (e : Int) : Option Decimal :=
  let d := i.wholeUnits e
  let lower := i.contains d e
  let upper := i.contains (d + 1) e
  if lower && upper then
    -- twice the value against twice the middle of the two
    let s := i.scales (8 * i.m) (2 * d + 1) e
    some ⟨if s.1 < s.2 then d else d + 1, e⟩
  else if lower then some ⟨d, e⟩
  else if upper then some ⟨d + 1, e⟩
  else none

/-- The place of the leading digit: the least `k` with the value below `10^k`. -/
def leadingPlace (i : Interval) : Int :=
  let estimate : Int := ((i.m.log2 : Int) + i.q) * 30103 / 100000
  let isAbove (k : Int) : Bool := let s := i.scales (4 * i.m) 1 k; s.1 < s.2
  ([estimate - 1, estimate, estimate + 1].find? isAbove).getD (estimate + 2)

/-- The value written out in full. -/
def exactly (i : Interval) : Decimal :=
  if i.q ≥ 0 then ⟨i.m * 2 ^ i.q.toNat, 0⟩ else ⟨i.m * 5 ^ (-i.q).toNat, i.q⟩

end Interval

/-- The numeral with the fewest digits that rounds to `m·2^q`, and of those the nearest to it. -/
def shortest (m : Nat) (q : Int) : Decimal :=
  let i := Interval.around m q
  let k := i.leadingPlace
  ((List.range 18).findSome? fun (n : Nat) => i.onGrid? (k - n)).getD i.exactly

end Lisp.Number
