import Lisp.Collection
import Lisp.Json.Form
import Lisp.Number.Arith
import Lisp.Operand
import Lisp.Reader.Basic
import Lisp.Regex.Matcher
import Lisp.Regex.Parser
import Lisp.Signature

/-!
# The standard library

The procedures that need nothing but the heap: they neither call back nor leave a trace.

## Main definitions

* `Heap.arities?` — the arities of a value that can be called
* `Library.compute` — the result of a procedure
-/

namespace Lisp

/-- The arities of a value that can be called, if it has a fixed set of them. -/
def Heap.arities? (h : Heap) : Value → Option (List Arity)
  | .entity (.lambda r) => some (h.lambda r).arities
  | .entity (.type r) => some [.exact (h.type r).fields.length]
  | .entity (.protocol _) | .set ⟨.native, _⟩ _ => some [.exact 1]
  | .keyword _ | .symbol _ | .map .. | .vector .. => some [.exact 1, .exact 2]
  | _ => none

namespace Library

variable [Tables] (h : Heap) (mode : Representation)

/-- Whether a relation holds between all neighbours. -/
def chain {α : Type} (r : α → α → Bool) : List α → Bool
  | x :: y :: rest => r x y && chain r (y :: rest)
  | _ => true

/-- Whether numbers stand in a relation, neighbour by neighbour. -/
def compare (r : Number → Number → Bool) (args : List Value) : Except Cause Value := do
  return .bool (chain r (← Operand.numbers h args))

/-- A name from its text, or from its namespace and the name proper. -/
def makeName (first : Value) (second : Option Value) : Except Cause Name :=
  match second with
  | some second => return .qualified (← Operand.name h first) (← Operand.name h second)
  | none => return .parse (← Operand.name h first)

/-- The pattern that a text denotes. -/
def pattern (text : String) : Except Cause Regex.Pattern :=
  match Regex.parse text with
  | .ok p => .ok p
  | .error r => .error (.mismatch (.invalidRegex text (r.report text)))

/-- The pattern of a regular expression or a string. -/
def regexOf : Value → Except Cause Regex.Pattern
  | .regex text | .string text => pattern text
  | v => .error (.mismatch (.regexExpected (h.print v)))

/-- A match as a value: its text or, if the pattern has groups, the vector of it and theirs. -/
def matchValue (c : Regex.Captures) : Value :=
  match c.groups.map fun g => g.elim .nil .string with
  | [whole] => whole
  | groups => .vector mode groups

/-- The forms of a text up to the first one. -/
def readFirst (text : String) : Except Cause Value :=
  match Reader.read mode text with
  | .ok forms => .ok (forms.head?.getD .nil)
  | .error fault => .error (.unreadable "read-string" fault)

/-- What a collection has under a key, or a default if it has nothing there. -/
def getOr (coll key : Value) (default : Option Value) : Value :=
  match default with
  | some d => if Collection.contains h coll key then Collection.get h coll key else d
  | none => Collection.get h coll key

/-- The result of a procedure that needs nothing but the heap. -/
def compute (proc : Procedure) (args : List Value) : Except Cause Value :=
  match proc, args with
  | .list, xs => .ok (.list xs)
  | .vector, xs => .ok (.vector mode xs)
  | .hashMap, xs =>
    if xs.length % 2 = 0 then .ok (.mapOf h.text mode (Value.pairUp xs))
    else .error (.invalid .oddHashMap)
  | .hashSet, xs => .ok (.setOf h.text mode xs)
  | .cons, [x, coll] => Collection.cons h mode x coll
  | .first, [coll] => Collection.first h mode coll
  | .rest, [coll] => Collection.rest h mode coll
  | .second, [coll] => Collection.nth h mode coll 1
  | .count, [coll] => return .number (.ofNat (← Collection.count coll))
  | .nth, [coll, i] => do Collection.nth h mode coll (← Operand.index h i)
  | .get, [coll, key] => .ok (getOr h coll key none)
  | .get, [coll, key, default] => .ok (getOr h coll key (some default))
  | .assoc, coll :: pairs@(_ :: _ :: _) =>
    if pairs.length % 2 = 0 then
      (Value.pairUp pairs).foldlM (fun c e => Collection.assoc h mode c e.1 e.2) coll
    else .error (.invalid .oddAssoc)
  | .dissoc, coll :: keys => keys.foldlM (Collection.dissoc h) coll
  | .merge, colls => Collection.merge h mode colls
  | .conj, coll :: items => items.foldlM (Collection.conj h mode) coll
  | .concat, colls => Collection.concat h mode colls
  | .equal, x :: xs => .ok (.bool (chain (fun a b => a.equals b h.text) (x :: xs)))
  | .notEqual, x :: xs => .ok (.bool !chain (fun a b => a.equals b h.text) (x :: xs))
  | .less, x :: xs => compare h Number.lt (x :: xs)
  | .greater, x :: xs => compare h (fun a b => b.lt a) (x :: xs)
  | .atMost, x :: xs => compare h Number.le (x :: xs)
  | .atLeast, x :: xs => compare h (fun a b => b.le a) (x :: xs)
  | .isList, [v] => .ok (.bool (v matches .list _))
  | .isVector, [v] => .ok (.bool (v matches .vector ..))
  | .isMap, [v] => .ok (.bool (v matches .map ..))
  | .isSet, [v] => .ok (.bool (v matches .set ..))
  | .isSymbol, [v] => .ok (.bool (v matches .symbol _))
  | .isKeyword, [v] => .ok (.bool (v matches .keyword _))
  | .isString, [v] => .ok (.bool (v matches .string _))
  | .isNumber, [v] => .ok (.bool (v matches .number _))
  | .isNil, [v] => .ok (.bool (v matches .nil))
  | .isFn, [v] => .ok (.bool (v matches .entity (.lambda _) | .entity (.builtin _)))
  | .isEmpty, [coll] => return .bool ((← Collection.count coll) = 0)
  | .symbol, [x] => return .symbol (← makeName h x none)
  | .symbol, [x, y] => return .symbol (← makeName h x (some y))
  | .keyword, [x] => return .keyword (← makeName h x none)
  | .keyword, [x, y] => return .keyword (← makeName h x (some y))
  | .name, [x] => return .string (← Operand.name h x)
  | .space, [.symbol n] | .space, [.keyword n] => .ok (n.space.elim .nil .string)
  | .space, [v] => .error (.mismatch (.qualifiableExpected (h.print v)))
  | .arity, [f] =>
    .ok ((h.arities? f).elim .nil fun as => .vector mode (as.map fun a => .number (.ofInt a.key)))
  | .inspect, [v] => .ok (.string (h.print v))
  | .readString, [v] => do readFirst mode (← Operand.string h v)
  | .readJson, [v] => do Json.readForm mode (← Operand.string h v)
  | .rePattern, [v] => do
    let text ← Operand.string h v
    let _ ← pattern text
    return .regex text
  | .reFind, [re, v] => do
    let p ← regexOf h re
    let text ← Operand.string h v
    return (Regex.captures? p text).elim .nil (matchValue mode)
  | .reMatches, [re, v] => do
    let p ← regexOf h re
    let text ← Operand.string h v
    match Regex.captures? p text with
    | some c => return if c.bounds = (0, text.length) then matchValue mode c else .nil
    | none => return .nil
  | proc, xs => .error ((Builtin.procedure proc).complain xs)

end Library

end Lisp
