import Lisp.Regex.Pattern

/-!
# The size of compiled patterns

Patterns are compiled to automata over the bytes of UTF-8, once to be run forwards, with its groups,
and once to be run backwards, without. How much room they take follows from the pattern, so a
pattern that would take too much can be refused without compiling it.

## Main definitions

* `Regex.CharSet.byteRanges` — a set as sequences of ranges of bytes
* `Regex.Pattern.size` — what an automaton takes
* `Regex.Pattern.isTooLarge` — whether one of the two takes more than `Regex.Pattern.sizeLimit`
-/

namespace Lisp.Regex

-- Powers are those of the core library, whatever others are in scope.
attribute [local instance (high)] instPowNat

/-- A range of bytes. -/
abbrev ByteRange := Nat × Nat

namespace CharSet

/-- What is added to the leading byte of a code point that takes a number of further bytes. -/
def lead : Nat → Nat
  | 0 => 0
  | 1 => 0xC0
  | 2 => 0xE0
  | _ => 0xF0

/-- The bytes of a code point that takes a number of further bytes. -/
def encode (further c : Nat) : List Nat :=
  (lead further + c / 64 ^ further) ::
    (List.range further).reverse.map fun i => 0x80 + c / 64 ^ i % 64

/-- Divides a range so that in each piece every byte runs through a range of its own: at blocks of
ever larger size, where the range does not start or end with a block. -/
def pieces : List Nat → Nat → Nat → Text.Ranges
  | [], lo, hi => [(lo, hi)]
  | block :: blocks, lo, hi =>
    if lo / block = hi / block then [(lo, hi)]
    else
      let first := (lo + block - 1) / block * block
      let last := (hi + 1) / block * block
      (if lo < first then [(lo, first - 1)] else []) ++
        (if first < last then pieces blocks first (last - 1) else []) ++
        (if last ≤ hi then [(last, hi)] else [])

/-- The code points that take one to four bytes, without the surrogates, each with its number of
further bytes. -/
def widths : List (Nat × Nat × Nat) :=
  [(0, 0, 0x7F), (1, 0x80, 0x7FF), (2, 0x800, 0xD7FF), (2, 0xE000, 0xFFFF), (3, 0x10000, top)]

/-- A range of code points as sequences of ranges of bytes, in order. -/
def rangeBytes (lo hi : Nat) : List (List ByteRange) :=
  widths.flatMap fun (further, least, most) =>
    let lo := max lo least
    let hi := min hi most
    if lo ≤ hi then
      (pieces ([0x40, 0x1000, 0x40000].take further) lo hi).map fun (a, b) =>
        (encode further a).zip (encode further b)
    else []

/-- A set as sequences of ranges of bytes, in order. -/
def byteRanges (s : CharSet) : List (List ByteRange) :=
  s.ranges.flatMap fun (lo, hi) => rangeBytes lo hi

/-- Whether all members lie below `U+0080`. -/
def isAscii (s : CharSet) : Bool := s.ranges.all fun r => r.2 < 128

end CharSet

namespace Size

/-- What a state of an automaton takes. -/
def state : Nat := 32

/-- What a transition takes in a state that has several. -/
def transition : Nat := 8

/-- What a branch takes in a state that branches. -/
def branch : Nat := 4

/-- What a fork with two branches takes. -/
def fork : Nat := state + 2 * branch

/-- A set below `U+0080` has a state with a transition for each range, and a state behind them. -/
def ascii (s : CharSet) : Nat := 2 * state + transition * s.ranges.length

/-- The length of the common start of two lists. -/
def commonLength {α : Type} [BEq α] : List α → List α → Nat
  | x :: xs, y :: ys => if x == y then commonLength xs ys + 1 else 0
  | _, _ => 0

/-- The number of different starts of sequences in order, after a sequence that came before. -/
def countStarts : List ByteRange → List (List ByteRange) → Nat
  | _, [] => 0
  | before, s :: rest => s.length - commonLength before s + countStarts s rest

/-- A set run backwards: a state for every start of a sequence, and a branch for every sequence. -/
def backward (s : CharSet) : Nat :=
  let sequences := s.byteRanges
  2 * state + state * countStarts [] sequences + branch * sequences.length

/-- Sequences that start with the same range, with what follows it. -/
def groupHeads : List (List ByteRange) → List (ByteRange × List (List ByteRange))
  | [] => []
  | [] :: rest => groupHeads rest
  | (r :: tail) :: rest =>
    match groupHeads rest with
    | (r', tails) :: more =>
      if r == r' then (r, tail :: tails) :: more else (r, [tail]) :: (r', tails) :: more
    | [] => [(r, [tail])]

/-- What may follow each start of the sequences, in sequences of at most the given length. -/
def continuations : Nat → List (List ByteRange) → List (List (List ByteRange))
  | 0, _ => []
  | n + 1, sequences =>
    if sequences.all List.isEmpty then []
    else sequences :: (groupHeads sequences).flatMap fun (_, tails) => continuations n tails

/-- A set run forwards: starts with the same continuations share a state, which has a transition for
every range it goes on with. -/
def forward (s : CharSet) : Nat :=
  let shared := (continuations 4 s.byteRanges).eraseDups
  shared.foldl (fun size c => size + state + transition * (groupHeads c).length) state

end Size

/-- What the automaton of a pattern takes for a set that is neither a single character nor below
`U+0080`, and for a group. -/
structure Pricing where
  set : CharSet → Nat
  group : Nat

namespace Pattern

/-- The most that an automaton may take. -/
def sizeLimit : Nat := 10485760

/-- What a set takes. A single character has a state for each of its bytes. -/
def setSize (price : Pricing) (s : CharSet) : Nat :=
  match s.ranges with
  | [(lo, hi)] =>
    if lo = hi then Size.state * (Char.ofNat lo).utf8Size
    else if s.isAscii then Size.ascii s else price.set s
  | _ => if s.isAscii then Size.ascii s else price.set s

/-- What a pattern takes, as one of several branches or not. -/
def sizeIn (price : Pricing) (asBranch : Bool) : Pattern → Nat
  | alt p q =>
    (if asBranch then 0 else 2 * Size.state) + p.sizeIn price true + q.sizeIn price true
  | empty | assert _ => own Size.state
  | chars set => own (setSize price set)
  | seq p q => own (p.sizeIn price false + q.sizeIn price false)
  | group _ p => own (price.group + p.sizeIn price false)
  | repeated p lo hi _ =>
    let once := p.sizeIn price false
    own <| match lo, hi with
      | 0, none =>
        if p.matchesEmpty then once + 2 * Size.fork + Size.state else once + Size.fork
      | lo, none => lo * once + Size.fork
      | 0, some 1 => once + Size.fork + Size.state
      | lo, some hi =>
        (if lo = 0 then Size.state else lo * once) +
          (if lo < hi then Size.state + (hi - lo) * (once + Size.fork) else 0)
where
  /-- What a pattern takes that is no choice itself. -/
  own (n : Nat) : Nat := if asBranch then n + Size.branch else n

/-- What an automaton takes: a loop over any bytes before the match, the pattern as a group, and the
end. -/
def size (price : Pricing) (p : Pattern) : Nat :=
  Size.fork + (2 * Size.state + Size.transition) + price.group + p.sizeIn price false + Size.state

/-- The automaton that is run forwards. -/
def forwardPricing : Pricing := ⟨Size.forward, 2 * Size.state⟩

/-- The automaton that is run backwards. -/
def backwardPricing : Pricing := ⟨Size.backward, 0⟩

/-- A bound for both automata that is quickly found: a set never takes more forwards than
backwards. -/
def boundPricing : Pricing := ⟨Size.backward, 2 * Size.state⟩

/-- Whether one of the two automata takes too much. -/
def isTooLarge (p : Pattern) : Bool :=
  p.size boundPricing > sizeLimit &&
    (p.size backwardPricing > sizeLimit || p.size forwardPricing > sizeLimit)

end Pattern

end Lisp.Regex
