import Lisp.Json.Basic
import Lisp.Number.Arith
import Lisp.Number.Parser

/-!
# Numerals of JSON

A numeral is read fast rather than exactly: the digits that fit an unsigned 64-bit word are one
integer, further digits only count for the magnitude, and the integer is scaled by a power of ten in
floating point. A numeral past the range of doubles is an error.

## Main definitions

* `Json.Numeral` — the parts of a numeral
* `Json.Numeral.toNumber` — its value
-/

namespace Lisp.Json

/-- The parts of a numeral, by its digits. -/
structure Numeral where
  negative : Bool
  whole : List Char
  /-- The digits behind the point, if there is one. -/
  fraction : Option (List Char)
  /-- The sign and the digits of the exponent, if there is one. -/
  exponent : Option (Bool × List Char)

namespace Numeral

/-- Takes digits into a word as long as they fit, and gives the digits that do not. -/
def gather : Nat → List Char → Nat × List Char
  | n, [] => (n, [])
  | n, c :: rest =>
    let next := 10 * n + Number.digitValue c
    if next < UInt64.size then gather next rest else (n, c :: rest)

/-- The double nearest to `10^k`. -/
def powerOfTen (k : Nat) : Number := Number.Decimal.toNumber false ⟨1, k⟩

/-- Divides by powers of ten until the exponent has been used up. Dividing by more than `10^308`
takes several steps, of which three make any word vanish. -/
def scaleDown : Nat → Number → Nat → Number
  | 0, x, _ => x
  | fuel + 1, x, k =>
    if k ≤ 308 then x.div (powerOfTen k)
    else if x.isZero then x
    else scaleDown fuel (x.div (powerOfTen 308)) (k - 308)

/-- A word times a power of ten, in floating point. -/
def scale (significand : Nat) (exponent : Int) : Except Defect Number :=
  let x := Number.ofNat significand
  if exponent < 0 then .ok (scaleDown 4 x exponent.natAbs)
  else if exponent ≤ 308 then
    let y := x.mul (powerOfTen exponent.toNat)
    if y.exact = .infinite false then .error .numberOutOfRange else .ok y
  else if x.isZero then .ok x
  else .error .numberOutOfRange

/-- The largest exponent that is taken at its value. -/
def exponentLimit : Nat := 0x7FFFFFFF

/-- A number with the sign of the numeral. -/
def withSign (n : Numeral) (x : Number) : Number := if n.negative then x.neg else x

/-- The significand and the exponent of the digits before and behind the point. -/
def parts (n : Numeral) : Nat × Int :=
  let (significand, dropped) := gather 0 n.whole
  match n.fraction with
  | none => (significand, dropped.length)
  | some ds =>
    let (significand, unread) := gather significand ds
    (significand, (dropped.length : Int) - (ds.length - unread.length : Nat))

/-- The value of a numeral. Integers that fit a word are exact before they are rounded. -/
def toNumber (n : Numeral) : Except Defect Number := do
  let (significand, shift) := n.parts
  match n.exponent with
  | none =>
    if n.fraction.isNone && shift = 0 then return n.withSign (Number.ofNat significand)
    else return n.withSign (← scale significand shift)
  | some (negativeExponent, ds) =>
    let e := Number.digitsValue 0 ds
    if e > exponentLimit then
      if significand != 0 && !negativeExponent then throw .numberOutOfRange
      else return n.withSign Number.zero
    else
      let e : Int := if negativeExponent then -(e : Int) else e
      return n.withSign (← scale significand (shift + e))

end Numeral

end Lisp.Json
