import Lisp.Regex.Parser.Basic
import Lisp.Text.Letter

/-!
# Groups and repetitions

What stands between an opening parenthesis and the body of its group, and behind an item to repeat
it.

## Main definitions

* `Regex.Parser.opening` — what an opening parenthesis starts
* `Regex.Parser.repetition` — how often an item may come
-/

namespace Lisp.Regex.Parser

/-- Flag letters up to a colon or a closing parenthesis; each letter at most once, and at most one
minus sign, which switches the flags behind it off. -/
def flagLetters : Nat → Bool → List Char → Bool → Parse (List Char × Char)
  | 0, _, _, _ => fail .flagsUnfinished
  | fuel + 1, negate, seen, dangling => do
    match ← peek with
    | none => fail .flagsUnfinished
    | some c =>
      if c = ':' || c = ')' then
        if dangling then fail .flagDanglingNegation
        skip 1
        return (seen, c)
      else if c = '-' then
        if negate then fail .flagRepeatedNegation
        skip 1
        flagLetters fuel true ('-' :: seen) true
      else
        if seen.contains c then fail .flagDuplicate
        match (← flags).set? c (!negate) with
        | none => fail .flagUnrecognized
        | some flags =>
          modify fun s => { s with flags }
          skip 1
          flagLetters fuel negate (c :: seen) false

/-- Whether a character may stand in the name of a group. -/
def isNameChar (first : Bool) (c : Char) : Bool :=
  c = '_' || Text.isAlphabetic c ||
    (!first && (Text.isNumeric c || c = '.' || c = '[' || c = ']'))

/-- The name of a group, up to the closing angle. -/
def groupName : Parse Unit := do
  let rest := (← get).rest
  let name := rest.takeWhile (· != '>')
  if name.length = rest.length then fail .groupNameUnclosed
  match name with
  | [] => fail .groupNameEmpty
  | c :: cs => if !isNameChar true c || !cs.all (isNameChar false) then fail .groupNameInvalid
  let text := String.ofList name
  if (← get).names.contains text then fail .groupNameDuplicate
  modify fun s => { s with names := text :: s.names, rest := rest.drop (name.length + 1) }

/-- What an opening parenthesis starts. -/
inductive Opening where
  /-- Flags for the rest of the enclosing group. -/
  | flags
  /-- A group whose match is not remembered. -/
  | plain
  /-- A numbered group. -/
  | numbered (index : Nat)

/-- A group around a pattern; flags are no group. -/
def Opening.enclose : Opening → Pattern → Pattern
  | .numbered index, p => .group index p
  | _, p => p

/-- The next number of a group. -/
def nextGroup : Parse Opening := do
  let index := (← get).groups + 1
  modify fun s => { s with groups := index }
  return .numbered index

/-- What stands between an opening parenthesis and the body of its group. -/
def opening (opened : Nat) : Parse Opening := do
  advance
  match (← get).rest with
  | '?' :: '=' :: _ | '?' :: '!' :: _ | '?' :: '<' :: '=' :: _ | '?' :: '<' :: '!' :: _ =>
    failAt opened .lookAround
  | '?' :: 'P' :: '<' :: _ =>
    skip 3
    groupName
    nextGroup
  | '?' :: '<' :: _ =>
    skip 2
    groupName
    nextGroup
  | '?' :: rest =>
    let place ← unread
    skip 1
    if rest.isEmpty then failAt opened .groupUnclosed
    let (letters, last) ← flagLetters (rest.length + 1) false [] false
    if last = ')' then
      -- without flags the question mark has nothing to repeat
      if letters.isEmpty then failAt place .repetitionMissing
      return .flags
    return .plain
  | _ => nextGroup

/-- The bounds of a counted repetition, behind its opening brace. -/
def counts (opened : Nat) : Parse (Nat × Option Nat) := do
  if (← peek).isNone then failAt opened .repetitionUnclosed
  let lower ← decimal
  if (← peek).isNone then failAt opened .repetitionUnclosed
  let bounds ←
    if (← peek) = some ',' then do
      advance
      match ← peek with
      | none => failAt opened .repetitionUnclosed
      | some '\x7d' =>
        match lower with
        | some n => pure (n, none)
        | none => failAt opened .repetitionCountEmpty
      | some _ =>
        match lower, ← decimal with
        | some lo, some hi => pure (lo, some hi)
        | _, _ => failAt opened .repetitionCountEmpty
    else
      match lower with
      | some n => pure (n, some n)
      | none => failAt opened .repetitionCountEmpty
  if (← peek) != some '\x7d' then failAt opened .repetitionUnclosed
  advance
  match bounds with
  | (lo, some hi) => if lo ≤ hi then return bounds else failAt opened .repetitionCountInvalid
  | _ => return bounds

/-- The bounds of the repetition operator that starts with a character. -/
def bounds (c : Char) : Parse (Nat × Option Nat) := do
  let place ← unread
  match c with
  | '*' => skip 1; return (0, none)
  | '+' => skip 1; return (1, none)
  | '?' => skip 1; return (0, some 1)
  | _ => advance; counts place

/-- A repetition of a pattern, by the operator that starts with a character. A question mark behind
the operator turns its preference around. -/
def repetition (c : Char) (p : Pattern) : Parse Pattern := do
  let (lo, hi) ← bounds c
  let reluctant := (← peek) == some '?'
  if reluctant then skip 1
  return p.times lo hi (reluctant == (← flags).swapGreed)

end Lisp.Regex.Parser
