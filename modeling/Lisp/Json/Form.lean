import Lisp.Error
import Lisp.Json.Parser
import Lisp.Value.Keyed

/-!
# Forms written as JSON

Arrays are lists and objects are maps with keywords as keys. A string is a keyword when it starts
with a colon, a string when it stands in quotes of its own, and a symbol otherwise.

## Main definitions

* `Json.toForm` — the form that a document encodes
* `Json.readForm` — the form that a text encodes
-/

namespace Lisp.Json

variable [Tables]

/-- The form that a string encodes, by its shape. -/
def stringForm (s : String) : Value :=
  match s.toList with
  | ':' :: name => .keyword (.parse (String.ofList name))
  | '"' :: rest@(_ :: _) =>
    if rest.getLast? = some '"' then .string (String.ofList rest.dropLast) else .symbol (.parse s)
  | _ => .symbol (.parse s)

mutual

/-- The form that a document encodes. -/
def toForm (rep : Representation) : Json → Value
  | null => .nil
  | bool b => .bool b
  | number n => .number n
  | string s => stringForm s
  | array items => .list (toForms rep items)
  | object fields => .mapOf Entity.untold rep (toEntries rep fields)
termination_by structural j => j

/-- The forms that some documents encode. -/
def toForms (rep : Representation) : List Json → List Value
  | [] => []
  | j :: rest => toForm rep j :: toForms rep rest
termination_by structural js => js

/-- The entries that some fields encode. -/
def toEntries (rep : Representation) : List (String × Json) → List (Value × Value)
  | [] => []
  | f :: rest => toEntry rep f :: toEntries rep rest
termination_by structural fs => fs

/-- The entry that a field encodes; its key is a keyword. -/
def toEntry (rep : Representation) : String × Json → Value × Value
  | (k, j) => (.keyword (.parse k), toForm rep j)
termination_by structural f => f

end

/-- The name of the source in complaints about JSON. -/
def sourceName : String := "json-input"

/-- The form that a text encodes. -/
def readForm (rep : Representation) (text : String) : Except Cause Value :=
  match parse text with
  | .ok json => .ok (json.toForm rep)
  | .error (d, p) =>
    let complaint := d.message ++ " at line " ++ toString p.line ++ " column " ++ toString p.column
    .error (.unreadable sourceName ⟨.json complaint, p⟩)

end Lisp.Json
