import Lisp.Operand
import Lisp.Signature
import Lisp.Text.Blank
import Lisp.Text.Case
import Lisp.Text.Grapheme
import Lisp.Text.Search

/-!
# Methods of strings

Positions and lengths count graphemes.

## Main definitions

* `StringMethod` — the methods
* `StringMethod.run` — the result of a method on a string
-/

namespace Lisp

/-- The methods of strings. -/
inductive StringMethod where
  | toUpperCase | toLowerCase | trim | length | includes | startsWith | endsWith | indexOf | split
deriving DecidableEq, Inhabited, Repr

namespace StringMethod

/-- The name of a method. -/
def name : StringMethod → String
  | toUpperCase => "toUpperCase"
  | toLowerCase => "toLowerCase"
  | trim => "trim"
  | length => "length"
  | includes => "includes"
  | startsWith => "startsWith"
  | endsWith => "endsWith"
  | indexOf => "indexOf"
  | split => "split"

/-- Every method. -/
def all : List StringMethod :=
  [toUpperCase, toLowerCase, trim, length, includes, startsWith, endsWith, indexOf, split]

/-- The method of a name. -/
def ofName? (text : String) : Option StringMethod := all.find? (·.name == text)

/-- The one argument of a method, which is a string. -/
def argument (h : Heap) (method : StringMethod) : List Value → Except Cause String
  | [v] => Operand.string h v
  | args => .error ((ArgumentCount.exactly 1).complain method.name args)

/-- The pieces of a string between separators; an empty separator divides the graphemes. -/
def pieces (s separator : String) : List String :=
  if separator.isEmpty then Text.graphemes s else Text.splitAt s separator

/-- The number of graphemes before the first occurrence of a text, or minus one. -/
def position (s needle : String) : Number :=
  match Text.find? s needle with
  | some place => .ofNat (Text.graphemes (String.ofList (s.toList.take place))).length
  | none => .negOne

/-- The result of a method on a string. Methods that need no argument ignore any. -/
def run (h : Heap) (method : StringMethod) (s : String) (args : List Value) :
    Except Cause Value :=
  match method with
  | toUpperCase => .ok (.string (Text.toUpper s))
  | toLowerCase => .ok (.string (Text.toLower s))
  | trim => .ok (.string (Text.trim s))
  | length => .ok (.number (.ofNat (Text.graphemes s).length))
  | includes => return .bool (Text.includes s (← argument h method args))
  | startsWith => return .bool (Text.startsWith s (← argument h method args))
  | endsWith => return .bool (Text.endsWith s (← argument h method args))
  | indexOf => return .number (position s (← argument h method args))
  | split => return .vector .native ((pieces s (← argument h method args)).map .string)

end StringMethod

end Lisp
