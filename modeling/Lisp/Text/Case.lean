import Lisp.Text.Case.Table

/-!
# Upper and lower case

Case mapping of whole texts, following Unicode: a character may become several, and a capital sigma
at the end of a word becomes the final small sigma.

## Main definitions

* `Text.toUpper`, `Text.toLower` — case mapping of a text
* `Text.Case.fold` — simple case folding of a code point
-/

namespace Lisp.Text

namespace Case

/-- The images of a code point under runs and listed sequences; itself where neither has it. -/
def lookUp (runs : List Run) (sequences : List (Nat × List Nat)) (n : Nat) : List Nat :=
  match sequences.lookup n with
  | some ns => ns
  | none =>
    match runs.find? (·.contains n) with
    | some r => [r.image n]
    | none => [n]

/-- The upper case of a character. -/
def upperChar (c : Char) : List Char :=
  if c.toNat < 128 then [c.toUpper] else (lookUp upperRuns upperSequences c.toNat).map Char.ofNat

/-- The lower case of a character on its own. -/
def lowerChar (c : Char) : List Char :=
  if c.toNat < 128 then [c.toLower] else (lookUp lowerRuns lowerSequences c.toNat).map Char.ofNat

/-- Whether the first character that counts is a cased one. -/
def startsCased (cs : List Char) : Bool :=
  match cs.dropWhile ignorableRanges.containsChar with
  | c :: _ => casedRanges.containsChar c
  | [] => false

/-- The lower case of the rest of a text, after the characters before it in reverse. -/
def lowerFrom : List Char → List Char → List Char
  | _, [] => []
  | before, c :: rest =>
    let image :=
      if c.toNat = 0x3A3 then
        if startsCased before && !startsCased rest then [Char.ofNat 0x3C2] else [Char.ofNat 0x3C3]
      else lowerChar c
    image ++ lowerFrom (c :: before) rest

/-- Simple case folding: code points that differ only in case fold to one. -/
def fold (n : Nat) : Nat :=
  match foldRuns.find? (·.contains n) with
  | some r => r.image n
  | none => n

end Case

/-- The upper case of a text. -/
def toUpper (s : String) : String :=
  String.ofList (s.toList.flatMap Case.upperChar)

/-- The lower case of a text. -/
def toLower (s : String) : String :=
  String.ofList (Case.lowerFrom [] s.toList)

end Lisp.Text
