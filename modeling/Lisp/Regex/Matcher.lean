import Lisp.Regex.Parser
import Lisp.Regex.Program

/-!
# Matching

All ways through a program are followed at once, one character at a time, in order of preference.
The match found is the leftmost one, and of those the preferred one.

## Main definitions

* `Regex.search` — the places of the first match and its groups
* `Regex.captures?` — their texts
-/

namespace Lisp.Regex

/-- A place in a text, with the characters on either side of it. -/
structure Place where
  index : Nat
  before : Option Char
  after : Option Char

namespace Place

/-- Whether a neighbour is a word character. -/
def isWord (allScripts : Bool) (c : Option Char) : Bool :=
  c.any fun c => if allScripts then Text.isWordChar c else CharSet.asciiWord.contains c

/-- Whether a place fulfils a condition. -/
def fulfils (p : Place) : Assertion → Bool
  | .textStart => p.before.isNone
  | .textEnd => p.after.isNone
  | .lineStart crlf =>
    p.before.isNone || p.before == some '\n' ||
      (crlf && p.before == some '\r' && p.after != some '\n')
  | .lineEnd crlf =>
    p.after.isNone || (p.after == some '\n' && !(crlf && p.before == some '\r')) ||
      (crlf && p.after == some '\r')
  | .wordBoundary u => isWord u p.before != isWord u p.after
  | .notWordBoundary u => isWord u p.before == isWord u p.after
  | .wordStart u => !isWord u p.before && isWord u p.after
  | .wordEnd u => isWord u p.before && !isWord u p.after
  | .wordStartHalf u => !isWord u p.before
  | .wordEndHalf u => !isWord u p.after

end Place

/-- The remembered places of one way through a program. -/
abbrev Slots := Array (Option Nat)

/-- One way through a program: the instruction it has come to, and what it remembers. -/
structure Thread where
  pc : Nat
  slots : Slots

/-- The ways that wait for a character or have matched, best first, and the instructions visited. -/
structure Frontier where
  threads : Array Thread
  visited : Array Bool

/-- The frontier before anything has been tried. -/
def Frontier.empty (p : Program) : Frontier :=
  ⟨#[], Array.replicate p.code.size false⟩

/-- Follows the instructions that pass over no character. Each is visited once and adds at most two
to the stack, so twice their number bounds the turns. -/
def Frontier.follow (p : Program) (place : Place) : Nat → List Thread → Frontier → Frontier
  | 0, _, f => f
  | _, [], f => f
  | fuel + 1, t :: stack, f =>
    if f.visited.getD t.pc true then follow p place fuel stack f
    else
      let f := { f with visited := f.visited.setIfInBounds t.pc true }
      match p.code[t.pc]? with
      | none => follow p place fuel stack f
      -- only these wait for the next character
      | some (.chars ..) | some .accept =>
        follow p place fuel stack { f with threads := f.threads.push t }
      -- all that comes of the first branch is better than anything that comes of the second
      | some (.fork a b) =>
        follow p place fuel (⟨a, t.slots⟩ :: ⟨b, t.slots⟩ :: stack) f
      | some (.assert a next) =>
        if place.fulfils a then follow p place fuel (⟨next, t.slots⟩ :: stack) f
        else follow p place fuel stack f
      | some (.save slot next) =>
        follow p place fuel (⟨next, t.slots.setIfInBounds slot (some place.index)⟩ :: stack) f

/-- Adds a way to a frontier. -/
def Frontier.add (p : Program) (place : Place) (f : Frontier) (t : Thread) : Frontier :=
  f.follow p place (2 * p.code.size + 2) [t]

/-- Moves the threads of a frontier over a character, best first, up to the first that has matched.
Gives the new frontier and the match, if there is one. -/
def advance (p : Program) (c : Char) (next : Place) :
    List Thread → Frontier → Option Slots → Frontier × Option Slots
  | [], f, found => (f, found)
  | t :: rest, f, found =>
    match p.code[t.pc]? with
    | some .accept => (f, some t.slots)
    | some (.chars set pc) =>
      if set.contains c then advance p c next rest (f.add p next ⟨pc, t.slots⟩) found
      else advance p c next rest f found
    | _ => advance p c next rest f found

/-- The match among threads at the end of the text. -/
def accepted (p : Program) (threads : List Thread) : Option Slots :=
  threads.findSome? fun t =>
    match p.code[t.pc]? with
    | some .accept => some t.slots
    | _ => none

/-- Runs a program over the rest of a text. While nothing has matched, a new way starts at every
place, behind all others. -/
def scan (p : Program) : List Char → Place → Frontier → Option Slots → Option Slots
  | rest, place, f, found =>
    let f :=
      if found.isNone then f.add p place ⟨p.start, Array.replicate p.slots none⟩ else f
    match rest with
    | [] => (accepted p f.threads.toList).or found
    | c :: rest =>
      let next : Place := ⟨place.index + 1, some c, rest.head?⟩
      let (f', found') := advance p c next f.threads.toList (Frontier.empty p) found
      if f'.threads.isEmpty && found'.isSome then found' else scan p rest next f' found'

/-- The remembered places of the first match in a text. -/
def search (p : Pattern) (text : List Char) : Option Slots :=
  let program := Program.ofPattern p
  scan program text ⟨0, none, text.head?⟩ (Frontier.empty program) none

/-- A match: the whole and its groups, in order, where a group that took no part has no text. -/
structure Captures where
  /-- The places where the whole match starts and ends. -/
  bounds : Nat × Nat
  groups : List (Option String)

/-- The text between two remembered places. -/
def textBetween (text : List Char) (slots : Slots) (i : Nat) : Option String := do
  let start ← (← slots[2 * i]?)
  let stop ← (← slots[2 * i + 1]?)
  return String.ofList ((text.drop start).take (stop - start))

/-- The first match of a pattern in a text. -/
def captures? (p : Pattern) (text : String) : Option Captures := do
  let cs := text.toList
  let slots ← search p cs
  let start ← (← slots[0]?)
  let stop ← (← slots[1]?)
  return ⟨(start, stop), (List.range (slots.size / 2)).map (textBetween cs slots)⟩

end Lisp.Regex
