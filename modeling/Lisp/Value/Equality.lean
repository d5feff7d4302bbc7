import Lisp.Value.Tables

/-!
# Equalities

Key equality tells the keys of a map and the elements of a set apart: data compares by structure and
representation, entities by identity. Maps and sets compare by looking each entry of the one up in
the other, so they can be told apart only because a key is not found: one that is hashed by another
order than it was filed by, or by what an object held then. Sameness is what key equality comes to
where all keys are found. Language equality is coarser: it compares sequences by their elements
whatever their kind, and maps and sets whatever their representation, and it goes through all
entries instead of looking them up.

## Main definitions

* `Value.same` — sameness
* `Value.agrees` — key equality
* `Value.equals` — language equality
-/

namespace Lisp.Value

mutual

/-- Sameness. Maps and sets are the same when they have the same size and every entry of the one is
among those of the other. -/
def same : Value → Value → Bool
  | nil, nil => true
  | bool a, bool b => a == b
  | number a, number b => a.same b
  | string a, string b => a == b
  | symbol a, symbol b => a == b
  | keyword a, keyword b => a == b
  | list xs, list ys => sameAll xs ys
  | vector r xs, vector s ys => r == s && sameAll xs ys
  | map t xs, map u ys => t.rep == u.rep && xs.length == ys.length && entriesWithin xs ys
  | set t xs, set u ys => t.rep == u.rep && xs.length == ys.length && elementsWithin xs ys
  | quoted a, quoted b => same a b
  | regex a, regex b => a == b
  | entity a, entity b => a == b
  | _, _ => false
termination_by structural x => x

/-- Sameness of sequences, element by element. -/
def sameAll : List Value → List Value → Bool
  | [], [] => true
  | x :: xs, y :: ys => same x y && sameAll xs ys
  | _, _ => false
termination_by structural x => x

/-- Whether every entry is among others. -/
def entriesWithin : List (Filed Value × Value) → List (Filed Value × Value) → Bool
  | [], _ => true
  | e :: rest, ys => entryWithin e ys && entriesWithin rest ys
termination_by structural x => x

/-- Whether an entry is among others: the first one with the same key has the same value. -/
def entryWithin : Filed Value × Value → List (Filed Value × Value) → Bool
  | (⟨k, _⟩, v), ys =>
    match ys.find? fun e => same k e.1.value with
    | some e => same v e.2
    | none => false
termination_by structural x => x

/-- Whether every element is among others. -/
def elementsWithin : List (Filed Value) → List (Filed Value) → Bool
  | [], _ => true
  | ⟨x, _⟩ :: rest, ys => ys.any (fun y => same x y.value) && elementsWithin rest ys
termination_by structural x => x

end

variable [Tables]

mutual

/-- Key equality, given the texts of entities. Maps and sets agree when they have the same size and
every entry of the one is found in the other. -/
def agrees (text : Entity → String) (v w : Value) : Bool :=
  Tables.shared v w ||
    match v, w with
    | nil, nil => true
    | bool a, bool b => a == b
    | number a, number b => a.same b
    | string a, string b => a == b
    | symbol a, symbol b => a == b
    | keyword a, keyword b => a == b
    | list xs, list ys => agreesAll text xs ys
    | vector r xs, vector s ys => r == s && agreesAll text xs ys
    | map t xs, map u ys => t.rep == u.rep && xs.length == ys.length && entriesFound text xs u ys
    | set t xs, set u ys => t.rep == u.rep && xs.length == ys.length && elementsFound text xs u ys
    | quoted a, quoted b => agrees text a b
    | regex a, regex b => a == b
    | entity a, entity b => a == b
    | _, _ => false
termination_by structural v

/-- Key equality of sequences, element by element. -/
def agreesAll (text : Entity → String) : List Value → List Value → Bool
  | [], [] => true
  | x :: xs, y :: ys => agrees text x y && agreesAll text xs ys
  | _, _ => false
termination_by structural x => x

/-- Whether every entry is found in a table. -/
def entriesFound (text : Entity → String) :
    List (Filed Value × Value) → Table → List (Filed Value × Value) → Bool
  | [], _, _ => true
  | e :: rest, u, ys => entryFound text e u ys && entriesFound text rest u ys
termination_by structural x => x

/-- Whether an entry is found in a table: what stands under its key agrees with its value. -/
def entryFound (text : Entity → String) :
    Filed Value × Value → Table → List (Filed Value × Value) → Bool
  | (⟨k, _⟩, v), u, ys =>
    match ys.find? fun e => Tables.meets u e.1.mark (k.mark text) && agrees text k e.1.value with
    | some e => agrees text v e.2
    | none => false
termination_by structural x => x

/-- Whether every element is found in a table. -/
def elementsFound (text : Entity → String) :
    List (Filed Value) → Table → List (Filed Value) → Bool
  | [], _, _ => true
  | ⟨x, _⟩ :: rest, u, ys =>
    ys.any (fun y => Tables.meets u y.mark (x.mark text) && agrees text x y.value) &&
      elementsFound text rest u ys
termination_by structural x => x

end

mutual

/-- Language equality. What is neither a sequence nor a map or set compares by key equality, given
the texts of entities; only quoted forms can hold maps and sets then, and a form that has been read
holds no entities. -/
def equals (v w : Value) (text : Entity → String := Entity.untold) : Bool :=
  match v, w with
  | list xs, list ys => equalsAll text xs ys
  | list xs, vector _ ys => equalsAll text xs ys
  | vector _ xs, list ys => equalsAll text xs ys
  | vector _ xs, vector _ ys => equalsAll text xs ys
  | map _ xs, map _ ys => xs.length == ys.length && entriesMatch text xs ys
  | set _ xs, set _ ys => xs.length == ys.length && elementsMatch text xs ys
  | a, b => a.agrees text b
termination_by structural v

/-- Language equality of sequences, element by element. -/
def equalsAll (text : Entity → String) : List Value → List Value → Bool
  | [], [] => true
  | x :: xs, y :: ys => equals x y text && equalsAll text xs ys
  | _, _ => false
termination_by structural x => x

/-- Whether every entry is matched among others. -/
def entriesMatch (text : Entity → String) :
    List (Filed Value × Value) → List (Filed Value × Value) → Bool
  | [], _ => true
  | e :: rest, ys => entryMatch text e ys && entriesMatch text rest ys
termination_by structural x => x

/-- Whether an entry is matched among others: the first one with an equal key has an equal value. -/
def entryMatch (text : Entity → String) :
    Filed Value × Value → List (Filed Value × Value) → Bool
  | (⟨k, _⟩, v), ys =>
    match ys.find? fun e => equals k e.1.value text with
    | some e => equals v e.2 text
    | none => false
termination_by structural x => x

/-- Whether every element is matched among others. -/
def elementsMatch (text : Entity → String) : List (Filed Value) → List (Filed Value) → Bool
  | [], _ => true
  | ⟨x, _⟩ :: rest, ys => ys.any (fun y => equals x y.value text) && elementsMatch text rest ys
termination_by structural x => x

end

end Lisp.Value
