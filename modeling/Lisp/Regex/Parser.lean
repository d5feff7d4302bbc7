import Lisp.Regex.Parser.Bracket
import Lisp.Regex.Parser.Group
import Lisp.Regex.Size

/-!
# Patterns from their texts

A recursive-descent reader for the text of a regular expression. It keeps the flags in force while
it reads, so the pattern it builds needs none. A text that nests too deeply, or whose pattern takes
too much room to compile, is refused.

## Main definitions

* `Regex.Rejection` — why a text is no usable pattern
* `Regex.parse` — the pattern that a text denotes
-/

namespace Lisp.Regex

namespace Parser

/-- How deeply parts of a pattern may nest. -/
def nestLimit : Nat := 250

/-- A part of a pattern and how deeply its text nests. -/
structure Part where
  pattern : Pattern
  depth : Nat

/-- A unit outside brackets. -/
def primitive (c : Char) : Parse Atom := do
  let f ← flags
  match c with
  | '\\' => escape
  | '.' =>
    if !f.allScripts then fail .bytesOutsideText
    skip 1
    let excluded :=
      if f.dotAll then CharSet.empty
      else if f.crlf then .ofRanges [(0x0A, 0x0A), (0x0D, 0x0D)]
      else .singleton '\n'
    return .set excluded.compl
  | '^' =>
    skip 1
    return .assertion (if f.multiLine then .lineStart f.crlf else .textStart)
  | '$' =>
    skip 1
    return .assertion (if f.multiLine then .lineEnd f.crlf else .textEnd)
  | c =>
    skip 1
    return .literal c false

/-- A unit as a pattern. A byte beyond `U+007F` is no character. -/
def Atom.toPattern : Atom → Parse Pattern
  | .literal c asByte => do
    if asByte && 128 ≤ c.toNat && !(← flags).allScripts then fail .bytesOutsideText
    return .chars (← folded (.singleton c))
  | .set chars => return .chars chars
  | .assertion a => return .assert a

/-- Parts in a row, given in reverse; one that only sets flags is `none`. Several parts nest one
level deeper than each of them. -/
def sequence (items : List (Option Part)) : Part :=
  let deepest := items.foldl (fun d i => max d ((i.map (·.depth)).getD 0)) 0
  ⟨.ofSeq (items.reverse.filterMap fun i => i.map (·.pattern)),
    if items.length ≤ 1 then deepest else deepest + 1⟩

/-- Parts to choose from, given in reverse. -/
def alternatives (branches : List Part) : Part :=
  let deepest := branches.foldl (fun d b => max d b.depth) 0
  ⟨.ofAlt (branches.reverse.map (·.pattern)),
    if branches.length ≤ 1 then deepest else deepest + 1⟩

/-- Alternatives up to the end of a group. `branches` holds the finished ones and `items` the
current one, each in reverse; an item that only sets flags is `none`. Each turn passes over a
character, so the unread characters bound the turns. -/
def body (opened : Option Nat) : Nat → List Part → List (Option Part) → Parse Part
  | 0, _, _ => fail .groupUnclosed
  | fuel + 1, branches, items => do
    skipVerbose
    match ← peek with
    | none =>
      match opened with
      | some place => failAt place .groupUnclosed
      | none => return alternatives (sequence items :: branches)
    | some '(' =>
      let place ← unread
      let outer ← flags
      match ← opening place with
      | .flags => body opened fuel branches (none :: items)
      | start =>
        let inner ← body (some place) fuel [] []
        -- flags that are set in a group end with it
        modify fun s => { s with flags := outer }
        let group := ⟨start.enclose inner.pattern, inner.depth + 1⟩
        body opened fuel branches (some group :: items)
    | some ')' =>
      if opened.isNone then fail .groupUnopened
      skip 1
      return alternatives (sequence items :: branches)
    | some '|' =>
      skip 1
      body opened fuel (sequence items :: branches) []
    | some '[' =>
      let set ← bracketed
      body opened fuel branches (some ⟨.chars set.set, set.depth⟩ :: items)
    | some c =>
      if c = '*' || c = '+' || c = '?' || c = '\x7b' then
        match items with
        -- flags are no item that could be repeated
        | some p :: before =>
          let repeated ← repetition c p.pattern
          body opened fuel branches (some ⟨repeated, p.depth + 1⟩ :: before)
        | _ => fail .repetitionMissing
      else
        let p ← (← primitive c).toPattern
        body opened fuel branches (some ⟨p, 0⟩ :: items)

/-- The pattern that the whole text denotes. -/
def whole : Parse Pattern := do
  let place ← unread
  let part ← body none (place + 1) [] []
  if part.depth ≤ nestLimit then return part.pattern else failAt place .nestedTooDeeply

end Parser

/-- Why a text is no usable pattern. -/
inductive Rejection where
  /-- The text has a defect behind a number of characters. -/
  | defective (d : Defect) (place : Nat)
  /-- The compiled pattern would take too much room. -/
  | tooLarge

/-- The report on a text that is no usable pattern. -/
def Rejection.report (text : String) : Rejection → String
  | defective d place => d.report text place
  | tooLarge => "Compiled regex exceeds size limit of " ++ toString Pattern.sizeLimit ++ " bytes."

/-- The pattern that a text denotes. -/
def parse (text : String) : Except Rejection Pattern :=
  let cs := text.toList
  match Parser.whole { rest := cs } with
  | .ok p _ => if p.isTooLarge then .error .tooLarge else .ok p
  | .error (d, unread) _ => .error (.defective d (cs.length - unread))

end Lisp.Regex
