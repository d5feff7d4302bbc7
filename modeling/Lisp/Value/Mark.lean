import Lisp.Value.Printer

/-!
# What keys are hashed by

Sequences and quoted forms are hashed by what they hold, atoms by what they are, and everything with
an identity of its own by that. Maps and sets are hashed by the sorted texts of what they hold. So
where a map or set stands inside another, its own order shows in the hash, and where an object does,
its fields at the moment.

## Main definitions

* `Text.atMost`, `Text.sorted` — texts in the order of the dictionary
* `Value.mark` — what a value is hashed by, given the texts of entities
* `Value.file` — a value as a key
-/

namespace Lisp

/-- The texts of entities where there are none, as in forms that have just been read. -/
def Entity.untold : Entity → String := fun _ => ""

/-- The number that is hashed in place of another: both zeros are hashed alike. -/
def Number.hashed (n : Number) : Number := if n.isZero then .zero else n

namespace Text

/-- Whether a row of characters does not come after another in the order of the dictionary. -/
def rowAtMost : List Char → List Char → Bool
  | [], _ => true
  | _ :: _, [] => false
  | c :: cs, d :: ds => c.toNat < d.toNat || c.toNat == d.toNat && rowAtMost cs ds

/-- Whether a text does not come after another in the order of the dictionary. -/
def atMost (s t : String) : Bool := rowAtMost s.toList t.toList

/-- Whether a pair of texts does not come after another: the first ones decide, unless they are one
and the same. -/
def pairAtMost (p q : String × String) : Bool :=
  if p.1 = q.1 then atMost p.2 q.2 else atMost p.1 q.1

/-- Puts something in its place in a sorted row. -/
def insertSorted {α : Type} (before : α → α → Bool) (x : α) : List α → List α
  | [] => [x]
  | y :: rest => if before x y then x :: y :: rest else y :: insertSorted before x rest

/-- The same things, sorted. -/
def sorted {α : Type} (before : α → α → Bool) (xs : List α) : List α :=
  xs.foldr (insertSorted before) []

end Text

namespace Value

variable (text : Entity → String)

/-- The number of the kind of a value in its representation. -/
def kindIndex : Value → Nat
  | nil => 0
  | bool _ => 1
  | number _ => 2
  | string _ => 3
  | symbol _ => 4
  | keyword _ => 5
  | list _ => 6
  | vector .native _ => 7
  | map ⟨.native, _⟩ _ => 8
  | set ⟨.native, _⟩ _ => 9
  | vector .persistent _ => 10
  | map ⟨.persistent, _⟩ _ => 11
  | set ⟨.persistent, _⟩ _ => 12
  | quoted _ => 13
  | regex _ => 14
  | entity _ => 15

/-- The texts of the keys and values of some entries, by which a map is hashed. -/
def printedEntries (entries : List (Filed Value × Value)) : List (String × String) :=
  entries.map fun e => (e.1.value.render text, e.2.render text)

/-- What a map is hashed by, after its kind. -/
def markEntries (entries : List (Filed Value × Value)) : Mark :=
  .size entries.length :: .size entries.length ::
    (Text.sorted Text.pairAtMost (printedEntries text entries)).flatMap
      fun p => [.text p.1, .text p.2]

/-- What a set is hashed by, after its kind. -/
def markItems (items : List (Filed Value)) : Mark :=
  .size items.length :: .size items.length ::
    (Text.sorted Text.atMost (items.map (·.value.render text))).map .text

mutual

/-- What a value is hashed by, given the texts of entities. -/
def mark : Value → Mark
  | nil => [.kind nil.kindIndex]
  | bool b => [.kind (bool b).kindIndex, .bool b]
  | number n => [.kind (number n).kindIndex, .number n.hashed]
  | string s => [.kind (string s).kindIndex, .text s]
  | symbol name => [.kind (symbol name).kindIndex, .name name]
  | keyword name => [.kind (keyword name).kindIndex, .name name]
  | list items => .kind (list items).kindIndex :: .size items.length :: markAll items
  | vector rep items => .kind (vector rep items).kindIndex :: .size items.length :: markAll items
  | map table entries => .kind (map table entries).kindIndex :: markEntries text entries
  | set table items => .kind (set table items).kindIndex :: markItems text items
  | quoted form => .kind (quoted form).kindIndex :: mark form
  | regex pattern => [.kind (regex pattern).kindIndex, .text pattern]
  | entity e => [.kind (entity e).kindIndex, .entity e]
termination_by structural v => v

/-- What the elements of a sequence are hashed by. -/
def markAll : List Value → Mark
  | [] => []
  | v :: rest => mark v ++ markAll rest
termination_by structural vs => vs

end

/-- A value as a key. -/
def file (v : Value) : Filed Value := ⟨v, v.mark text⟩

end Value

end Lisp
