import Lisp.Regex.Pattern

/-!
# Programs of patterns

A pattern is run as a program of numbered instructions. Each instruction names the ones that may
follow it; of two that may follow, the first is preferred.

## Main definitions

* `Regex.Instruction`, `Regex.Program`
* `Regex.Program.ofPattern` — the program of a pattern
-/

namespace Lisp.Regex

/-- One instruction. -/
inductive Instruction where
  /-- Passes over one character of a set. -/
  | chars (set : CharSet) (next : Nat)
  /-- Goes on with the first, or failing that the second. -/
  | fork (first second : Nat)
  /-- Goes on at a place that fulfils a condition. -/
  | assert (a : Assertion) (next : Nat)
  /-- Remembers the current place in a slot. -/
  | save (slot : Nat) (next : Nat)
  /-- The whole pattern has matched. -/
  | accept
deriving Inhabited

/-- The instructions of a pattern and the first one to run. -/
structure Program where
  code : Array Instruction
  start : Nat
  /-- How many places are remembered: two for the whole match and two for each number of a group. -/
  slots : Nat

namespace Program

/-- Building a program, instruction by instruction. -/
abbrev Build := StateM (Array Instruction)

/-- Adds an instruction. -/
def emit (i : Instruction) : Build Nat := do
  let code ← get
  set (code.push i)
  return code.size

/-- Replaces an instruction. -/
def patch (at_ : Nat) (i : Instruction) : Build Unit :=
  modify fun code => code.setIfInBounds at_ i

/-- A fork that prefers going around when greedy and leaving when not. -/
def choice (greedy : Bool) (around leave : Nat) : Instruction :=
  if greedy then .fork around leave else .fork leave around

/-- Emits a block a number of times, each in front of the one before. -/
def times (block : Nat → Build Nat) : Nat → Nat → Build Nat
  | 0, next => return next
  | n + 1, next => do times block n (← block next)

/-- The first instruction of a pattern whose match is followed by `next`. -/
def compile : Pattern → Nat → Build Nat
  | .empty, next => return next
  | .chars set, next => emit (.chars set next)
  | .assert a, next => emit (.assert a next)
  | .seq p q, next => do compile p (← compile q next)
  | .alt p q, next => do
    let first ← compile p next
    let second ← compile q next
    emit (.fork first second)
  | .group index p, next => do
    let after ← emit (.save (2 * index + 1) next)
    let inner ← compile p after
    emit (.save (2 * index) inner)
  | .repeated p lo (some hi) greedy, next => do
    let attempt := fun after => do emit (choice greedy (← compile p after) next)
    let optional ← times attempt (hi - lo) next
    times (compile p) lo optional
  | .repeated p lo none greedy, next => do
    -- holds the place of the choice until the body is there
    let loop ← emit .accept
    let inner ← compile p loop
    patch loop (choice greedy inner next)
    if lo = 0 then
      -- as an optional `p+`, so that empty matches do not change what is preferred
      if p.matchesEmpty then emit (choice greedy inner next) else return loop
    else times (compile p) (lo - 1) inner

/-- The program of a pattern. -/
def ofPattern (p : Pattern) : Program :=
  let build : Build Nat := do
    let accept ← emit .accept
    let stop ← emit (.save 1 accept)
    let inner ← compile p stop
    emit (.save 0 inner)
  let (start, code) := build.run #[]
  { code, start, slots := 2 * (p.lastGroup + 1) }

end Program

end Lisp.Regex
