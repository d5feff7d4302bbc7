import Lisp.Number.Decimal

/-!
# Reading numbers from text

Two numeral grammars: decimal numerals with an optional point and exponent (and the words for the
values that no numeral denotes), and integers in a radix from two to thirty-six.

## Main definitions

* `Number.parse?` — a decimal numeral, an infinity, or not a number
* `Number.parseInteger?` — an integer that fits a signed 64-bit word
-/

namespace Lisp.Number

/-- The value of a decimal digit character. -/
def digitValue (c : Char) : Nat :=
  c.toNat - '0'.toNat

/-- The natural number that a row of decimal digits denotes, continuing from `acc`. -/
def digitsValue (acc : Nat) (ds : List Char) : Nat :=
  ds.foldl (fun n c => 10 * n + digitValue c) acc

/-- A leading sign, and what follows it. -/
def splitSign : List Char → Bool × List Char
  | '-' :: rest => (true, rest)
  | '+' :: rest => (false, rest)
  | rest => (false, rest)

/-- The longest leading row of decimal digits, and what follows it. -/
def spanDigits (cs : List Char) : List Char × List Char :=
  (cs.takeWhile Char.isDigit, cs.dropWhile Char.isDigit)

/-- The exponent part of a numeral: nothing, or `e`, an optional sign and at least one digit. -/
def parseExponent? : List Char → Option Int
  | [] => some 0
  | c :: rest =>
    if c = 'e' || c = 'E' then
      let (negative, ds) := splitSign rest
      if ds.isEmpty || !ds.all Char.isDigit then none
      else
        let n := digitsValue 0 ds
        some (if negative then -(n : Int) else n)
    else none

/-- An unsigned decimal numeral: digits with an optional point among them, at least one digit in
all, and an optional exponent. -/
def parseDecimal? (cs : List Char) : Option Decimal :=
  let (whole, rest) := spanDigits cs
  let (fraction, rest) :=
    match rest with
    | '.' :: rest => spanDigits rest
    | rest => ([], rest)
  if whole.isEmpty && fraction.isEmpty then none
  else
    (parseExponent? rest).map fun e =>
      ⟨digitsValue (digitsValue 0 whole) fraction, e - fraction.length⟩

/-- A numeral with an optional sign, or one of the words `inf`, `infinity` and `nan` in any case. -/
def parseChars? (cs : List Char) : Option Number :=
  let (negative, rest) := splitSign cs
  let word := String.ofList (rest.map Char.toLower)
  if word = "inf" || word = "infinity" then some (if negative then negInfinity else infinity)
  else if word = "nan" then some (if negative then nan.neg else nan)
  else (parseDecimal? rest).map (·.toNumber negative)

/-- A whole text as a number. -/
def parse? (s : String) : Option Number :=
  parseChars? s.toList

/-- The value of a digit in a radix: decimal digits, then letters in either case. -/
def radixDigit? (radix : Nat) (c : Char) : Option Nat :=
  let n :=
    if c.isDigit then some (digitValue c)
    else if 'a' ≤ c && c ≤ 'z' then some (c.toNat - 'a'.toNat + 10)
    else if 'A' ≤ c && c ≤ 'Z' then some (c.toNat - 'A'.toNat + 10)
    else none
  n.filter (· < radix)

/-- A whole text as an integer: an optional sign and at least one digit of the radix, within the
range of a signed 64-bit word. -/
def parseInteger? (radix : Nat) (s : String) : Option Int := do
  let (negative, ds) := splitSign s.toList
  if ds.isEmpty then none
  let magnitude ← ds.foldlM (fun n c => (radixDigit? radix c).map (radix * n + ·)) 0
  let value : Int := if negative then -(magnitude : Int) else magnitude
  if Int64.minValue.toInt ≤ value && value ≤ Int64.maxValue.toInt then some value else none

end Lisp.Number
