import Lisp.Value.Equality

/-!
# Keyed collections

A map is a table with entries; a set is one too, whose entries have nothing under their keys. A key
is found by a value whose look-up comes past it and which agrees with it. A key that goes in stays
filed by what it was hashed by then; the table files all its keys anew when it makes room, which it
does before it looks whether the key is there. A native table keeps the key that came first when an
entry is replaced, a persistent one takes the new key. All of this depends on the texts of entities
at the moment.

## Main definitions

* `Filed.answers` — whether a key in a table is found by a value
* `Shelf` — a table with its entries
* `Shelf.insert`, `Shelf.erase`, `Shelf.find?`, `Shelf.has` — entries set, removed and looked up
* `Value.mapOf`, `Value.setOf` — a map or set from a row of entries or elements
-/

namespace Lisp

variable [Tables] (text : Entity → String)

/-- Whether a key that is filed in a table is found by a value. -/
def Filed.answers (t : Table) (f : Filed Value) (k : Value) : Bool :=
  Tables.meets t f.mark (k.mark text) && k.agrees text f.value

/-- A table with its entries. -/
structure Shelf where
  table : Table
  entries : List (Filed Value × Value) := []

namespace Shelf

/-- What the entries were hashed by. -/
def marks (s : Shelf) : List Mark := s.entries.map (·.1.mark)

/-- An empty table with room for some keys. -/
def opened (rep : Representation) (room : Nat) : Shelf :=
  ⟨⟨rep, Tables.opening rep room⟩, []⟩

/-- Puts an entry where the table wants it, whatever is there already. -/
def put (s : Shelf) (f : Filed Value) (v : Value) : Shelf :=
  let n := Tables.place s.table s.marks f.mark
  ⟨{ s.table with state := Tables.added s.table s.marks f.mark },
    s.entries.take n ++ (f, v) :: s.entries.drop n⟩

/-- Files all keys anew, one after the other. -/
def refile (s : Shelf) (state : Nat) : Shelf :=
  s.entries.foldl (fun s e => s.put (e.1.value.file text) e.2) ⟨{ s.table with state }, []⟩

/-- Makes room for one more key, if the table has to. -/
def makeRoom (s : Shelf) : Shelf :=
  match Tables.grown s.table s.marks with
  | none => s
  | some state => s.refile text state

/-- The key that stays when an entry filed as `old` is replaced under the key `new`. -/
def survivor : Representation → Filed Value → Value → Filed Value
  | .native, old, _ => old
  | .persistent, _, new => new.file text

/-- The place of the entry whose key answers. -/
def place? (k : Value) (s : Shelf) : Option Nat :=
  s.entries.findIdx? fun e => e.1.answers text s.table k

/-- Sets an entry: the value of the one whose key answers, or a new one. -/
def insert (k v : Value) (s : Shelf) : Shelf :=
  -- room is made before anyone looks whether the key is there
  let s := s.makeRoom text
  match s.place? text k with
  | some i =>
    { s with entries := s.entries.modify i fun e => (survivor text s.table.rep e.1 k, v) }
  | none => s.put (k.file text) v

/-- Removes the entry whose key answers. -/
def erase (k : Value) (s : Shelf) : Shelf :=
  match s.place? text k with
  | some i =>
    ⟨{ s.table with state := Tables.removed s.table s.marks i }, s.entries.eraseIdx i⟩
  | none => s

/-- The value under a key. -/
def find? (k : Value) (s : Shelf) : Option Value :=
  (s.entries.find? fun e => e.1.answers text s.table k).map (·.2)

/-- Whether there is something under a key. -/
def has (k : Value) (s : Shelf) : Bool := (s.find? text k).isSome

/-- Sets several entries, one after the other. -/
def insertAll (ps : List (Value × Value)) (s : Shelf) : Shelf :=
  ps.foldl (fun s p => s.insert text p.1 p.2) s

/-- The entries as a map. -/
def toMap (s : Shelf) : Value := .map s.table s.entries

/-- The keys as a set. -/
def toSet (s : Shelf) : Value := .set s.table (s.entries.map (·.1))

/-- A set's table, with nothing under its elements. -/
def ofSet (table : Table) (items : List (Filed Value)) : Shelf :=
  ⟨table, items.map (·, .nil)⟩

end Shelf

namespace Value

/-- A map from entries in order; the last of several with the same key wins. -/
def mapOf (rep : Representation) (entries : List (Value × Value)) : Value :=
  ((Shelf.opened rep entries.length).insertAll text entries).toMap

/-- A set from elements in order. -/
def setOf (rep : Representation) (items : List Value) : Value :=
  ((Shelf.opened rep items.length).insertAll text (items.map (·, .nil))).toSet

/-- Neighbours in pairs; an odd one at the end is dropped. -/
def pairUp : List Value → List (Value × Value)
  | k :: v :: rest => (k, v) :: pairUp rest
  | _ => []

end Value

end Lisp
