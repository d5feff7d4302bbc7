import Lisp.Text.Category.Table

/-!
# General categories by name

A category goes by a short and a long name. Some names stand for several categories at once.

## Main definitions

* `Category.named?` — the characters of a category
* `Category.assigned` — the characters that have one
-/

namespace Lisp.Text.Category

/-- The categories with their names, without case and dividers, long names first. -/
def named : List (List String × List Ranges) :=
  [(["uppercaseletter", "lu"], [uppercaseLetter]),
    (["lowercaseletter", "ll"], [lowercaseLetter]),
    (["titlecaseletter", "lt"], [titlecaseLetter]),
    (["casedletter", "lc"], [uppercaseLetter, lowercaseLetter, titlecaseLetter]),
    (["modifierletter", "lm"], [modifierLetter]),
    (["otherletter", "lo"], [otherLetter]),
    (["letter", "l"],
      [uppercaseLetter, lowercaseLetter, titlecaseLetter, modifierLetter, otherLetter]),
    (["nonspacingmark", "mn"], [nonspacingMark]),
    (["spacingmark", "mc"], [spacingMark]),
    (["enclosingmark", "me"], [enclosingMark]),
    (["mark", "m", "combiningmark"], [nonspacingMark, spacingMark, enclosingMark]),
    (["decimalnumber", "nd", "digit"], [decimalNumber]),
    (["letternumber", "nl"], [letterNumber]),
    (["othernumber", "no"], [otherNumber]),
    (["number", "n"], [decimalNumber, letterNumber, otherNumber]),
    (["connectorpunctuation", "pc"], [connectorPunctuation]),
    (["dashpunctuation", "pd"], [dashPunctuation]),
    (["openpunctuation", "ps"], [openPunctuation]),
    (["closepunctuation", "pe"], [closePunctuation]),
    (["initialpunctuation", "pi"], [initialPunctuation]),
    (["finalpunctuation", "pf"], [finalPunctuation]),
    (["otherpunctuation", "po"], [otherPunctuation]),
    (["punctuation", "p", "punct"],
      [connectorPunctuation, dashPunctuation, openPunctuation, closePunctuation,
        initialPunctuation, finalPunctuation, otherPunctuation]),
    (["mathsymbol", "sm"], [mathSymbol]),
    (["currencysymbol", "sc"], [currencySymbol]),
    (["modifiersymbol", "sk"], [modifierSymbol]),
    (["othersymbol", "so"], [otherSymbol]),
    (["symbol", "s"], [mathSymbol, currencySymbol, modifierSymbol, otherSymbol]),
    (["spaceseparator", "zs"], [spaceSeparator]),
    (["lineseparator", "zl"], [lineSeparator]),
    (["paragraphseparator", "zp"], [paragraphSeparator]),
    (["separator", "z"], [spaceSeparator, lineSeparator, paragraphSeparator]),
    (["control", "cc", "cntrl"], [control]),
    (["format", "cf"], [format]),
    (["privateuse", "co"], [privateUse])]

/-- The characters of a category that has characters of its own. -/
def named? (name : String) : Option Ranges :=
  (named.find? fun e => e.1.contains name).map fun e => e.2.flatten

/-- Every character that has a category of its own. -/
def assigned : Ranges := (named.map fun e => e.2.flatten).flatten

end Lisp.Text.Category
