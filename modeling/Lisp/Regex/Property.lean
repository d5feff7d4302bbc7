import Lisp.Regex.Pattern
import Lisp.Regex.Property.Boundary
import Lisp.Text.Age.Table
import Lisp.Text.Script.Shared

/-!
# Characters by property

A class may ask for the characters with a property: one that they have or lack, a general category
or a script by its name alone, or the value of a property.

## Main definitions

* `Property.named` — the characters that a name alone asks for
* `Property.valued` — the characters for which a property has a value
* `Property.ofQuery` — the characters that a query asks for
-/

namespace Lisp.Regex.Property

/-- A name without case, blanks and dividers. The two letters `is` at its very start do not count;
neither do characters beyond `U+007F`. -/
def normalize (name : String) : String :=
  let kept (cs : List Char) : List Char :=
    (cs.filter fun c => c.toNat < 128 && c != ' ' && c != '_' && c != '-').map Char.toLower
  match name.toList with
  | i :: s :: rest =>
    if i.toLower = 'i' && s.toLower = 's' then
      let name := kept rest
      if name = ['c'] then "isc" else String.ofList name
    else String.ofList (kept (i :: s :: rest))
  | cs => String.ofList (kept cs)

/-- The characters of a general category, by its name. -/
def category? (name : String) : Option CharSet :=
  match name with
  | "any" => some .all
  | "ascii" => some (.range 0 0x7F)
  | "assigned" => some (.ofRanges Text.Category.assigned)
  | "unassigned" | "cn" => some (CharSet.ofRanges Text.Category.assigned).compl
  | "other" | "c" =>
    some ((CharSet.ofRanges Text.Category.assigned).compl.union (.ofRanges
      (Text.Category.control ++ Text.Category.format ++ Text.Category.privateUse)))
  | _ => (Text.Category.named? name).map .ofRanges

/-- The full name of a script that goes by two older short names as well. -/
def scriptName : String → String
  | "qaai" => "inherited"
  | "qaac" => "coptic"
  | name => name

/-- The full name and the characters of a script, by its full or its short name. -/
def findScript? (name : String) : Option (String × CharSet) :=
  let name := scriptName name
  (Text.Script.all.find? fun s => s.1 = name || s.2.1 = name).map fun s =>
    (s.1, .ofRanges s.2.2)

/-- The characters of a script, by its full or its short name. -/
def script? (name : String) : Option CharSet := (findScript? name).map (·.2)

/-- The characters that are used with a script: its own, unless they are known to be used with other
scripts only, and those of other scripts that are used with it. -/
def scriptExtension? (name : String) : Option CharSet :=
  (findScript? name).map fun (name, set) =>
    let elsewhere := Text.Script.shared.filter fun e => !e.2.contains name
    let here := Text.Script.shared.filter fun e => e.2.contains name
    (set.diff (ofAll (elsewhere.map (·.1)))).union (ofAll (here.map (·.1)))

/-- The characters of an edition of Unicode and of all before it. -/
def age? (name : String) : Option CharSet :=
  let later := Text.Age.editions.dropWhile fun e => !e.1.contains name
  match later with
  | [] => none
  | e :: _ =>
    let earlier := Text.Age.editions.takeWhile fun e => !e.1.contains name
    some (ofAll (e.2 :: earlier.map (·.2)))

/-- The characters that a name alone asks for. -/
def named (name : String) : Except Defect CharSet :=
  match ((binary? name).or (category? name)).or (script? name) with
  | some set => .ok set
  | none => .error .propertyNotFound

/-- The characters for which a property has a value. -/
def valued (name value : String) : Except Defect CharSet :=
  let found? := match name with
    | "generalcategory" | "gc" => some (category? value)
    | "script" | "sc" => some (script? value)
    | "scriptextensions" | "scx" => some (scriptExtension? value)
    | "age" => some (age? value)
    | "graphemeclusterbreak" | "gcb" => some (graphemeBreak? value)
    | "wordbreak" | "wb" => some (wordBreak? value)
    | "sentencebreak" | "sb" => some (sentenceBreak? value)
    | _ => none
  match found? with
  | some (some set) => .ok set
  | some none => .error .propertyValueNotFound
  | none => .error .propertyNotFound

/-- What stands before and after the first occurrence of a mark. -/
def splitMark? (mark : List Char) : List Char → List Char → Option (String × String)
  | _, [] => none
  | before, c :: rest =>
    if mark.isPrefixOf (c :: rest) then
      some (String.ofList before.reverse, String.ofList ((c :: rest).drop mark.length))
    else splitMark? mark (c :: before) rest

/-- The characters that a query asks for, and whether it asks for all others: a name, or a name and
a value with a mark between. The mark `!=` asks for all others. -/
def ofQuery (query : List Char) : Except Defect (CharSet × Bool) :=
  match splitMark? ['!', '='] [] query with
  | some (name, value) => return (← valued (normalize name) (normalize value), true)
  | none =>
    match (splitMark? [':'] [] query).or (splitMark? ['='] [] query) with
    | some (name, value) => return (← valued (normalize name) (normalize value), false)
    | none => return (← named (normalize (String.ofList query)), false)

end Lisp.Regex.Property
