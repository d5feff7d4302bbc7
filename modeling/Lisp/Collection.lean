import Lisp.Heap
import Lisp.Text.Grapheme
import Lisp.Value.Keyed

/-!
# Operations on collections

One set of operations covers every kind of collection in both representations. What an operation
makes from nothing takes the representation of its `mode`; what it makes from a collection keeps the
representation of that collection.

## Main definitions

* `Collection.items` — the elements of anything that has some
* `Collection.first`, `rest`, `count`, `nth`, `cons`, `concat` — sequences
* `Collection.get`, `contains`, `assoc`, `dissoc`, `merge`, `conj` — look-up and growth
* `Collection.map`, `filter`, `reduce` — a procedure of the caller's on the elements
-/

namespace Lisp.Collection

variable [Tables] (h : Heap) (mode : Representation)

/-- The position that a key stands for in a vector or a string. -/
def indexOf? : Value → Option Nat
  | .number n => n.toIndex?
  | _ => none

/-- The elements of a collection, in order. The elements of a map are its entries as vectors of two,
those of a string its graphemes, and `nil` has none. -/
def items : Value → Except Cause (List Value)
  | .nil => .ok []
  | .list xs | .vector _ xs => .ok xs
  | .set _ xs => .ok (xs.map (·.value))
  | .map _ es => .ok (es.map fun e => .vector mode [e.1.value, e.2])
  | .string s => .ok ((Text.graphemes s).map .string)
  | v => .error (.mismatch (.notSequence (h.print v)))

/-- The list of an element and the elements of a collection. -/
def cons (x coll : Value) : Except Cause Value := do
  return .list (x :: (← items h mode coll))

/-- The first element, or `nil`. -/
def first : Value → Except Cause Value
  | .list xs | .vector _ xs => .ok (xs.head?.getD .nil)
  | coll => do return (← items h mode coll).head?.getD .nil

/-- The list of all elements but the first. -/
def rest (coll : Value) : Except Cause Value := do
  return .list ((← items h mode coll).drop 1)

/-- The number of elements. -/
def count : Value → Except Cause Nat
  | .nil => .ok 0
  | .list xs | .vector _ xs => .ok xs.length
  | .set _ xs => .ok xs.length
  | .map _ es => .ok es.length
  | .string s => .ok (Text.graphemes s).length
  | v => .error (.mismatch (.notCountable v.typeName))

/-- The element at a position, or `nil`. -/
def nth (coll : Value) (index : Nat) : Except Cause Value :=
  match coll with
  | .vector _ xs => .ok (xs[index]?.getD .nil)
  | coll => do return (← items h mode coll)[index]?.getD .nil

/-- What a collection has under a key, or `nil`. Objects are looked up by the name of a keyword or
by a string. -/
def get (coll key : Value) : Value :=
  match coll with
  | .map t es => ((Shelf.mk t es).find? h.text key).getD .nil
  | .set t xs => if (Shelf.ofSet t xs).has h.text key then key else .nil
  | .vector _ xs => ((indexOf? key).bind (xs[·]?)).getD .nil
  | .string s => ((indexOf? key).bind ((Text.graphemes s)[·]?)).elim .nil .string
  | .entity (.object r) =>
    match key with
    | .keyword name => ((h.object r).fields.get? name.base).getD .nil
    | .string s => ((h.object r).fields.get? s).getD .nil
    | _ => .nil
  | _ => .nil

/-- Whether a map, set or vector has something under a key. -/
def contains (coll key : Value) : Bool :=
  match coll with
  | .map t es => (Shelf.mk t es).has h.text key
  | .set t xs => (Shelf.ofSet t xs).has h.text key
  | .vector _ xs => (indexOf? key).any (· < xs.length)
  | _ => false

/-- A map with an entry set, or a vector with a position set or appended. -/
def assoc (coll key value : Value) : Except Cause Value :=
  match coll with
  | .nil => .ok (.mapOf h.text mode [(key, value)])
  | .map t es => .ok ((Shelf.mk t es).insert h.text key value).toMap
  | .vector rep xs =>
    match indexOf? key with
    | none => .error (.mismatch .vectorKey)
    | some i =>
      if i < xs.length then .ok (.vector rep (xs.set i value))
      else if i = xs.length then .ok (.vector rep (xs ++ [value]))
      else .error (.mismatch (.outOfBounds i xs.length))
  | v => .error (.mismatch (.notAssociative (h.print v)))

/-- A map without an entry. -/
def dissoc (coll key : Value) : Except Cause Value :=
  match coll with
  | .nil => .ok .nil
  | .map t es => .ok ((Shelf.mk t es).erase h.text key).toMap
  | v => .error (.mismatch (.notDissociative (h.print v)))

/-- One more map merged into what has been merged so far. -/
def mergeInto (result coll : Value) : Except Cause Value :=
  match coll with
  | .nil => .ok result
  | .map _ es =>
    match result with
    | .nil => .ok coll
    | _ => es.foldlM (fun m e => assoc h mode m e.1.value e.2) result
  | v => .error (.mismatch (.notMergeable (h.print v)))

/-- All entries of some maps, later ones winning, in the representation of the first. -/
def merge (colls : List Value) : Except Cause Value :=
  colls.foldlM (mergeInto h mode) .nil

/-- A collection with an element added where its kind adds one: in front of a list, at the end of a
vector, among the elements of a set, as an entry of a map. -/
def conj (coll item : Value) : Except Cause Value :=
  match coll with
  | .nil | .list _ => cons h mode item coll
  | .vector rep xs => .ok (.vector rep (xs ++ [item]))
  | .set t xs => .ok ((Shelf.ofSet t xs).insert h.text item .nil).toSet
  | .map .. =>
    match item.sequence? with
    | some [k, v] => assoc h mode coll k v
    | _ => .error (.mismatch .notPair)
  | v => .error (.mismatch (.notConjoinable (h.print v)))

/-- The list of the elements of some collections. -/
def concat (colls : List Value) : Except Cause Value := do
  return .list (← colls.mapM (items h mode)).flatten

section HigherOrder

variable {m : Type → Type} [Monad m]

/-- The list of the results of a procedure on every element. -/
def map (call : List Value → m Value) (xs : List Value) : m Value := do
  return .list (← xs.mapM fun x => call [x])

/-- The list of the elements on which a procedure gives something that counts as true. -/
def filter (call : List Value → m Value) (xs : List Value) : m Value := do
  let kept ← xs.foldlM (fun kept x => do
    return if (← call [x]).isTruthy then x :: kept else kept) []
  return .list kept.reverse

/-- Folds a procedure over the elements from the left, from the given start or else from the first
element. Without either, the procedure is called on nothing. -/
def reduce (call : List Value → m Value) (start : Option Value) (xs : List Value) : m Value :=
  match start, xs with
  | some a, xs => xs.foldlM (fun acc x => call [acc, x]) a
  | none, a :: xs => xs.foldlM (fun acc x => call [acc, x]) a
  | none, [] => call []

end HigherOrder

end Lisp.Collection
