/-!
# Finding one text in another

## Main definitions

* `Text.find?` — how many characters stand before the first occurrence of a text
* `Text.splitAt` — the pieces between the occurrences of a text
-/

namespace Lisp.Text

/-- The number of characters before the first occurrence of `needle`. -/
def findFrom? (needle : List Char) : List Char → Option Nat
  | [] => if needle.isEmpty then some 0 else none
  | c :: rest =>
    if needle.isPrefixOf (c :: rest) then some 0 else (findFrom? needle rest).map (· + 1)

/-- The number of characters of a text before the first occurrence of another. -/
def find? (s needle : String) : Option Nat :=
  findFrom? needle.toList s.toList

/-- The pieces of the rest of a text between occurrences of `needle`, after a piece so far in
reverse. While `skip` is positive, characters of an occurrence are passed over. -/
def splitFrom (needle : List Char) : List Char → List Char → Nat → List (List Char)
  | [], acc, _ => [acc.reverse]
  | _ :: rest, acc, skip + 1 => splitFrom needle rest acc skip
  | c :: rest, acc, 0 =>
    if needle.isPrefixOf (c :: rest) then
      acc.reverse :: splitFrom needle rest [] (needle.length - 1)
    else splitFrom needle rest (c :: acc) 0

/-- The pieces of a text between the occurrences of a non-empty one. -/
def splitAt (s needle : String) : List String :=
  (splitFrom needle.toList s.toList [] 0).map String.ofList

/-- Whether a text occurs in another. -/
def includes (s needle : String) : Bool := (find? s needle).isSome

/-- Whether a text begins with another. -/
def startsWith (s start : String) : Bool := start.toList.isPrefixOf s.toList

/-- Whether a text ends with another. -/
def endsWith (s ending : String) : Bool := ending.toList.reverse.isPrefixOf s.toList.reverse

end Lisp.Text
