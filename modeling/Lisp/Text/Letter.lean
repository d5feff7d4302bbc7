import Lisp.Text.Category
import Lisp.Text.Property.Table

/-!
# Letters and numbers

The alphabetic characters and the numbers of Unicode 17.

## Main definitions

* `Text.isAlphabetic`, `Text.isNumeric` — membership
-/

namespace Lisp.Text

/-- The property `Alphabetic`: letters, letter numbers, and what counts as one. -/
def isAlphabetic (c : Char) : Bool :=
  if c.toNat < 128 then c.isAlpha
  else
    [Category.uppercaseLetter, Category.lowercaseLetter, Category.titlecaseLetter,
      Category.modifierLetter, Category.otherLetter, Category.letterNumber,
      Property.otherAlphabetic, Category.recentAlphabetic].any (·.containsChar c)

/-- Numbers: decimal digits, letter numbers and others. -/
def isNumeric (c : Char) : Bool :=
  if c.toNat < 128 then c.isDigit
  else
    [Category.decimalNumber, Category.letterNumber, Category.otherNumber,
      Category.recentNumber].any (·.containsChar c)

end Lisp.Text
