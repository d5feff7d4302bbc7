import Lisp.Value.Mark

/-!
# Hash tables

How a hash table finds a key, where it puts a new one and when it makes room are matters of the
libraries that the two representations rest on, and in part of a seed drawn when the program starts.
`Tables` takes them as given. All that is asked of a table is that a key is found by what it was
hashed by. That two hashes meet, in a small table above all, need not mean that they come from the
same.

## Main definitions

* `Tables` — what the tables do
* `Tables.plain` — tables without collisions, with which programs run
* `Tables.thorough` — tables that miss no key
-/

namespace Lisp

/-- What the hash tables do, as far as it shows. A table knows of its entries only what they were
hashed by, in its order. -/
class Tables where
  /-- The state of an empty table with room for some keys. -/
  opening : Representation → Nat → Nat
  /-- Before a key goes in: whether the table makes room and files everything anew, and its state
  after that. -/
  grown : Table → List Mark → Option Nat
  /-- How many entries come before a new one. -/
  place : Table → List Mark → Mark → Nat
  /-- The state with a new entry. -/
  added : Table → List Mark → Mark → Nat
  /-- The state without the entry at a place. -/
  removed : Table → List Mark → Nat → Nat
  /-- Whether a look-up by one mark comes past a key that was filed under another. -/
  meets : Table → Mark → Mark → Bool
  /-- A look-up comes past what was filed under the very mark. -/
  meets_self : ∀ t m, meets t m m = true
  /-- Whether two values are one and the same in memory, so that nobody looks inside. -/
  shared : Value → Value → Bool
  /-- What is one in memory is one. -/
  eq_of_shared : ∀ v w, shared v w = true → v = w

namespace Tables

attribute [simp] meets_self

-- Powers are those of the core library, whatever others are in scope.
attribute [local instance (high)] instPowNat

/-- A number made of something that goes into a hash. -/
def traitHash : Trait → Nat
  | .kind i | .size i => i
  | .bool b => if b then 1 else 0
  | .number n => n.bits.toNat
  | .text s => s.toList.foldl (fun h c => 31 * h + c.toNat) 7
  | .name n => n.text.toList.foldl (fun h c => 31 * h + c.toNat) 11
  | .entity _ => 13

/-- A number made of a mark. -/
def markHash (m : Mark) : Nat :=
  m.foldl (fun h t => (31 * h + traitHash t) % 2 ^ (32 : Nat)) 5

/-- The room of a native table for some keys: none, three, seven, or seven times a power of two. -/
def roomFor (n : Nat) : Nat :=
  if n = 0 then 0
  else if n ≤ 3 then 3
  else if n ≤ 7 then 7
  else 7 * 2 ^ (((n - 1) / 7).log2 + 1)

/-- Tables in which only equal marks meet. A native one goes by the hashes of its keys, doubles its
room when it is full, and keeps its room when something is taken out; its state is its room. A
persistent one has what came last in front. -/
instance plain : Tables where
  opening
    | .native, n => roomFor n
    | .persistent, _ => 0
  grown
    | ⟨.native, room⟩, marks => if marks.length < room then none else some (roomFor (room + 1))
    | ⟨.persistent, _⟩, _ => none
  place
    | ⟨.native, room⟩, marks, m =>
      (marks.takeWhile fun n => markHash n % (room + 1) ≤ markHash m % (room + 1)).length
    | ⟨.persistent, _⟩, _, _ => 0
  added t _ _ := t.state
  removed t _ _ := t.state
  meets _ m n := m == n
  meets_self _ _ := beq_self_eq_true _
  shared _ _ := false
  eq_of_shared _ _ h := by cases h

/-- Tables in which every look-up comes past every key, as in a row that is searched from end to
end. -/
@[reducible]
def thorough : Tables :=
  { plain with
    meets := fun _ _ _ => true
    meets_self := fun _ _ => rfl }

end Tables

end Lisp
