/-!
# Ranges of code points

Properties of characters are given as lists of inclusive ranges of code points.

## Main definitions

* `Text.Ranges` — a set of code points
* `Text.Ranges.contains` — membership
-/

namespace Lisp.Text

/-- A set of code points, as inclusive ranges. -/
abbrev Ranges := List (Nat × Nat)

/-- Whether a code point lies in one of the ranges. -/
def Ranges.contains (rs : Ranges) (n : Nat) : Bool :=
  rs.any fun (lo, hi) => lo ≤ n && n ≤ hi

/-- Whether a character lies in one of the ranges. -/
def Ranges.containsChar (rs : Ranges) (c : Char) : Bool :=
  rs.contains c.toNat

end Lisp.Text
