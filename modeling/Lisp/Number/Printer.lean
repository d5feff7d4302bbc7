import Lisp.Number.Decimal

/-!
# The text of a number

Integral numbers below `10^15` in magnitude print as integers (so negative zero prints as `0`),
other finite numbers as the shortest numeral that reads back. No exponent is ever written.

## Main definitions

* `Number.render` — the text of a number
-/

namespace Lisp.Number

-- Powers are those of the core library, whatever others are in scope.
attribute [local instance (high)] instPowNat

/-- A minus sign in front of the digits of a negative number. -/
def signed (negative : Bool) (ds : List Char) : List Char :=
  if negative then '-' :: ds else ds

/-- The text of a number, as characters. -/
def renderChars (x : Number) : List Char :=
  match x.exact with
  | .nan => "NaN".toList
  | .infinite negative => if negative then "-Infinity".toList else "Infinity".toList
  | .finite negative m q =>
    if dyadicIsInteger m q && truncate m q < 10 ^ (15 : Nat) then
      signed (negative && m != 0) (Decimal.digitChars (truncate m q))
    else signed negative (shortest m q).render

/-- The text of a number. -/
def render (x : Number) : String :=
  String.ofList x.renderChars

end Lisp.Number
