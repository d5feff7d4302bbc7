import Lisp.Regex.Parser.Escape

/-!
# Bracketed classes

A class in brackets is a union of characters, ranges, named classes and nested brackets, or a
combination of such unions by set operators.

## Main definitions

* `Regex.Parser.Union` — what has been read of a union
* `Regex.Parser.bracketed` — a class in brackets, and how deeply it nests
-/

namespace Lisp.Regex.Parser

/-- A set and how deeply the text that denotes it nests. -/
structure Nested where
  set : CharSet
  depth : Nat

/-- A union of some items, and how deeply the deepest of them nests. -/
structure Union where
  set : CharSet := .empty
  items : Nat := 0
  depth : Nat := 0

/-- A union with one more item. -/
def Union.push (u : Union) (item : Nested) : Union :=
  ⟨u.set.union item.set, u.items + 1, max u.depth item.depth⟩

/-- A union with one more item that does not nest. -/
def Union.pushFlat (u : Union) (set : CharSet) : Union := u.push ⟨set, 0⟩

/-- A union as a whole. Several items nest one level deeper than each of them. -/
def Union.nested (u : Union) : Nested :=
  ⟨u.set, if u.items ≤ 1 then u.depth else u.depth + 1⟩

/-- One item of a bracketed class: a character, an escape, or the end of a range. -/
def classUnit (c : Char) : Parse Atom := do
  if c = '\\' then escape
  else
    skip 1
    return .literal c false

/-- A character of a class. A set of bytes holds none beyond `U+007F`. -/
def classChar (place : Nat) (c : Char) : Parse Nat := do
  if (← flags).allScripts || c.toNat < 128 then return c.toNat
  else failAt place .unicodeNotAllowed

/-- An item of a bracketed class as a set. -/
def Atom.toSet (place : Nat) : Atom → Parse CharSet
  | .literal c _ => do
    let n ← classChar place c
    return .range n n
  | .set chars => return chars
  | .assertion _ => failAt place .classEscapeInvalid

/-- An item of a bracketed class as the end of a range. -/
def Atom.toBound (place : Nat) : Atom → Parse Char
  | .literal c _ => return c
  | _ => failAt place .classRangeLiteral

/-- The character behind a hyphen, as far as it decides whether the hyphen makes a range. In verbose
mode blanks and the mark of a comment are passed over, unless nothing else is left. -/
def afterHyphen (verbose : Bool) (rest : List Char) : Option Char :=
  if !verbose then rest.head?
  else
    let seen := match rest.dropWhile Text.isBlank with
      | '#' :: comment => comment.dropWhile Text.isBlank
      | rest => rest
    seen.head?.or rest.head?

/-- An item of a bracketed class, or a range between two. A hyphen before the closing bracket or
before another hyphen makes no range. -/
def classRange (opened : Nat) (c : Char) : Parse CharSet := do
  let place ← unread
  let lower ← classUnit c
  let next ← peekOr opened .classUnclosed
  let after := afterHyphen (← flags).verbose ((← get).rest.drop 1)
  if next != '-' || after == some ']' || after == some '-' then lower.toSet place
  else
    advance
    let upper ← classUnit (← peekOr opened .classUnclosed)
    let lo ← lower.toBound place
    let hi ← upper.toBound place
    if lo ≤ hi then return .range (← classChar place lo) (← classChar place hi)
    else failAt place .classRangeInvalid

/-- A class written `[:name:]` or `[:^name:]` inside brackets, if there is one here. -/
def namedClass : Parse (Option CharSet) := do
  match (← get).rest with
  | '[' :: ':' :: body =>
    let (negate, body) := match body with
      | '^' :: body => (true, body)
      | body => (false, body)
    let name := body.takeWhile (· != ':')
    match body.dropWhile (· != ':'), CharSet.named? (String.ofList name) with
    | ':' :: ']' :: after, some set =>
      modify fun s => { s with rest := after }
      return some (← negated negate (← folded set))
    | _, _ => return none
  | _ => return none

/-- An operator between two parts of a bracketed class. -/
inductive SetOperator where
  | inter | diff | symmDiff

/-- The operator at the start of a text, written as a doubled character. -/
def setOperator? : List Char → Option SetOperator
  | '&' :: '&' :: _ => some .inter
  | '-' :: '-' :: _ => some .diff
  | '~' :: '~' :: _ => some .symmDiff
  | _ => none

/-- Combines the part of a class read last with the operator and the part before it. -/
def combine (pending : Option (SetOperator × Nested)) (last : Nested) : Parse Nested :=
  match pending with
  | none => return last
  | some (op, first) => do
    let left ← folded first.set
    let right ← folded last.set
    let set := match op with
      | .inter => left.inter right
      | .diff => left.diff right
      | .symmDiff => left.symmDiff right
    return ⟨set, max first.depth last.depth + 1⟩

/-- The leading hyphens of a class, which stand for themselves. -/
def leadingHyphens (opened : Nat) : Nat → Union → Parse Union
  | 0, u => return u
  | fuel + 1, u => do
    if (← peekOr opened .classUnclosed) = '-' then
      skip 1
      leadingHyphens opened fuel (u.pushFlat (.singleton '-'))
    else return u

/-- The opening of a class, behind its bracket: a negation mark, hyphens, and a closing bracket that
stands for itself when it comes first. -/
def classOpening (opened : Nat) : Parse (Bool × Union) := do
  let negate := (← peekOr opened .classUnclosed) = '^'
  if negate then skip 1
  let u ← leadingHyphens opened opened {}
  if u.items = 0 && (← peekOr opened .classUnclosed) = ']' then
    skip 1
    return (negate, u.pushFlat (.singleton ']'))
  return (negate, u)

/-- The items of a class up to its closing bracket. Each turn passes over a character, so the unread
characters bound the turns. -/
def classItems (opened : Nat) (negate : Bool) :
    Nat → Option (SetOperator × Nested) → Union → Parse Nested
  | 0, _, _ => failAt opened .classUnclosed
  | fuel + 1, pending, u => do
    let c ← peekOr opened .classUnclosed
    if c = ']' then
      skip 1
      let whole ← combine pending u.nested
      return ⟨← negated negate (← folded whole.set), whole.depth + 1⟩
    else if c = '[' then
      match ← namedClass with
      | some named => classItems opened negate fuel pending (u.pushFlat named)
      | none =>
        let inner ← unread
        skip 1
        let (innerNegate, start) ← classOpening inner
        let nested ← classItems inner innerNegate fuel none start
        classItems opened negate fuel pending (u.push nested)
    else
      match setOperator? (← get).rest with
      | some op =>
        skip 2
        -- operators all bind alike, from left to right
        let left ← combine pending u.nested
        classItems opened negate fuel (some (op, left)) {}
      | none =>
        let item ← classRange opened c
        classItems opened negate fuel pending (u.pushFlat item)

/-- A class in brackets. -/
def bracketed : Parse Nested := do
  let opened ← unread
  skip 1
  let (negate, start) ← classOpening opened
  classItems opened negate opened none start

end Lisp.Regex.Parser
