import Lisp.Text.Blank
import Lisp.Text.Case
import Lisp.Text.Word

/-!
# Sets of characters in patterns

A set is a sorted list of disjoint ranges of code points, closed under the set operations that
bracketed classes offer.

## Main definitions

* `Regex.CharSet` — a set of characters
* `Regex.CharSet.union`, `inter`, `diff`, `symmDiff`, `compl` — set operations
* `Regex.CharSet.foldCase`, `foldAscii` — the set with all case variants of its members
-/

namespace Lisp.Regex

/-- A set of characters, as sorted disjoint ranges of code points. -/
structure CharSet where
  ranges : Text.Ranges
deriving Inhabited, DecidableEq

namespace CharSet

/-- The largest code point. -/
def top : Nat := 0x10FFFF

/-- Joins a range with those after it that overlap or touch it, given in order of their lower ends,
and these with those after them. -/
def absorb (lo hi : Nat) : Text.Ranges → Text.Ranges
  | [] => [(lo, hi)]
  | (lo', hi') :: rest =>
    if lo' ≤ hi + 1 then absorb lo (max hi hi') rest else (lo, hi) :: absorb lo' hi' rest

/-- Joins ranges that overlap or touch, given in order of their lower ends. -/
def coalesce : Text.Ranges → Text.Ranges
  | [] => []
  | (lo, hi) :: rest => absorb lo hi rest

/-- The set of all code points in some ranges, in any order. -/
def ofRanges (rs : Text.Ranges) : CharSet :=
  ⟨coalesce (rs.mergeSort fun a b => a.1 ≤ b.1)⟩

/-- The set without members. -/
def empty : CharSet := ⟨[]⟩

/-- All characters from one to another. -/
def range (lo hi : Nat) : CharSet := ⟨[(lo, hi)]⟩

/-- All code points. -/
def all : CharSet := range 0 top

/-- One character. -/
def singleton (c : Char) : CharSet := range c.toNat c.toNat

/-- Whether a set has exactly one member. -/
def isSingleton (s : CharSet) : Bool :=
  match s.ranges with
  | [(lo, hi)] => lo = hi
  | _ => false

/-- Membership. -/
def contains (s : CharSet) (c : Char) : Bool := s.ranges.containsChar c

/-- The members of either set. -/
def union (s t : CharSet) : CharSet := ofRanges (s.ranges ++ t.ranges)

/-- The gaps between ranges, from a code point on. -/
def gaps (start : Nat) : Text.Ranges → Text.Ranges
  | [] => if start ≤ top then [(start, top)] else []
  | (lo, hi) :: rest =>
    if start < lo then (start, lo - 1) :: gaps (hi + 1) rest else gaps (hi + 1) rest

/-- The characters outside a set. -/
def compl (s : CharSet) : CharSet := ⟨gaps 0 s.ranges⟩

/-- The members of both sets. -/
def inter (s t : CharSet) : CharSet :=
  ofRanges (s.ranges.flatMap fun a => t.ranges.filterMap fun b =>
    let lo := max a.1 b.1
    let hi := min a.2 b.2
    if lo ≤ hi then some (lo, hi) else none)

/-- The members of the first set that are not in the second. -/
def diff (s t : CharSet) : CharSet := s.inter t.compl

/-- The members of exactly one of the sets. -/
def symmDiff (s t : CharSet) : CharSet := (s.diff t).union (t.diff s)

/-- The set with both cases of its members below `U+0080`. -/
def foldAscii (s : CharSet) : CharSet :=
  let small := s.inter (range 0x41 0x5A)
  let capital := s.inter (range 0x61 0x7A)
  ofRanges (s.ranges ++ small.ranges.map (fun (lo, hi) => (lo + 0x20, hi + 0x20)) ++
    capital.ranges.map (fun (lo, hi) => (lo - 0x20, hi - 0x20)))

/-- The set with all case variants of its members. -/
def foldCase (s : CharSet) : CharSet :=
  let pairs := Text.Case.foldRuns.flatMap fun r => r.members.map fun n => (n, r.image n)
  let targets :=
    pairs.filterMap fun (n, t) =>
      if s.ranges.contains n || s.ranges.contains t then some t else none
  let sources := pairs.filterMap fun (n, t) => if targets.contains t then some n else none
  ofRanges (s.ranges ++ (targets ++ sources).map fun n => (n, n))

/-- The decimal digits of all scripts. -/
def digits : CharSet := ⟨Text.digitRanges⟩

/-- The characters of words. -/
def word : CharSet := ⟨Text.wordRanges⟩

/-- The blank characters. -/
def blank : CharSet :=
  ⟨[(9, 13), (0x20, 0x20), (0x85, 0x85), (0xA0, 0xA0), (0x1680, 0x1680), (0x2000, 0x200A),
    (0x2028, 0x2029), (0x202F, 0x202F), (0x205F, 0x205F), (0x3000, 0x3000)]⟩

/-- The decimal digits below `U+0080`. -/
def asciiDigits : CharSet := range 0x30 0x39

/-- The characters of words below `U+0080`. -/
def asciiWord : CharSet := ⟨[(0x30, 0x39), (0x41, 0x5A), (0x5F, 0x5F), (0x61, 0x7A)]⟩

/-- The blank characters below `U+0080`. -/
def asciiBlank : CharSet := ⟨[(9, 13), (0x20, 0x20)]⟩

/-- The classes written `[:name:]` inside brackets. -/
def named? : String → Option CharSet
  | "alnum" => some ⟨[(0x30, 0x39), (0x41, 0x5A), (0x61, 0x7A)]⟩
  | "alpha" => some ⟨[(0x41, 0x5A), (0x61, 0x7A)]⟩
  | "ascii" => some (range 0 0x7F)
  | "blank" => some ⟨[(9, 9), (0x20, 0x20)]⟩
  | "cntrl" => some ⟨[(0, 0x1F), (0x7F, 0x7F)]⟩
  | "digit" => some asciiDigits
  | "graph" => some (range 0x21 0x7E)
  | "lower" => some (range 0x61 0x7A)
  | "print" => some (range 0x20 0x7E)
  | "punct" => some ⟨[(0x21, 0x2F), (0x3A, 0x40), (0x5B, 0x60), (0x7B, 0x7E)]⟩
  | "space" => some asciiBlank
  | "upper" => some (range 0x41 0x5A)
  | "word" => some asciiWord
  | "xdigit" => some ⟨[(0x30, 0x39), (0x41, 0x46), (0x61, 0x66)]⟩
  | _ => none

end CharSet

end Lisp.Regex
