import Lisp.Value.Basic
import Lisp.Number.Printer
import Lisp.Text.Quoted

/-!
# The text of a value

Values print as the text that reads back as them, as far as they are data. How an entity prints is
not a matter of the value alone, so the printer takes it as an argument.

## Main definitions

* `Value.render` — the text of a value, given the texts of entities
-/

namespace Lisp.Value

/-- Texts between an opening and a closing one, divided by a separator. -/
def enclose (opening separator closing : String) (parts : List String) : String :=
  opening ++ separator.intercalate parts ++ closing

mutual

/-- The text of a value. -/
def render (entityText : Entity → String) : Value → String
  | nil => "nil"
  | bool b => if b then "true" else "false"
  | number n => n.render
  | string s => Text.quote s
  | symbol name => name.text
  | keyword name => ":" ++ name.text
  | list items => enclose "(" " " ")" (renderAll entityText items)
  | vector _ items => enclose "[" " " "]" (renderAll entityText items)
  | map _ entries => enclose "\x7b" ", " "\x7d" (renderEntries entityText entries)
  | set _ items => enclose "#\x7b" " " "\x7d" (renderItems entityText items)
  | quoted form => "'" ++ render entityText form
  | regex pattern => "#\"" ++ pattern ++ "\""
  | entity e => entityText e
termination_by structural v => v

/-- The texts of several values. -/
def renderAll (entityText : Entity → String) : List Value → List String
  | [] => []
  | v :: rest => render entityText v :: renderAll entityText rest
termination_by structural vs => vs

/-- The texts of the entries of a map. -/
def renderEntries (entityText : Entity → String) : List (Filed Value × Value) → List String
  | [] => []
  | e :: rest => renderEntry entityText e :: renderEntries entityText rest
termination_by structural es => es

/-- The text of one entry: its key, a space, its value. -/
def renderEntry (entityText : Entity → String) : Filed Value × Value → String
  | (⟨k, _⟩, v) => render entityText k ++ " " ++ render entityText v
termination_by structural e => e

/-- The texts of the elements of a set. -/
def renderItems (entityText : Entity → String) : List (Filed Value) → List String
  | [] => []
  | ⟨v, _⟩ :: rest => render entityText v :: renderItems entityText rest
termination_by structural vs => vs

end

variable (entityText : Entity → String)

theorem renderAll_eq (vs : List Value) :
    renderAll entityText vs = vs.map (·.render entityText) := by
  induction vs with
  | nil => rfl
  | cons v vs ih => simp [renderAll, ih]

theorem renderItems_eq (xs : List (Filed Value)) :
    renderItems entityText xs = xs.map (·.value.render entityText) := by
  induction xs with
  | nil => rfl
  | cons x xs ih => simp [renderItems, ih]

theorem renderEntries_eq (es : List (Filed Value × Value)) :
    renderEntries entityText es =
      es.map fun e => e.1.value.render entityText ++ " " ++ e.2.render entityText := by
  induction es with
  | nil => rfl
  | cons e es ih =>
    obtain ⟨⟨k, mark⟩, v⟩ := e
    simp [renderEntries, renderEntry, ih]

end Lisp.Value
