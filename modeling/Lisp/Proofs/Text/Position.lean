import Lisp.Text.Position
import Lisp.Text.Shebang
import Mathlib.Data.List.Induction
import Mathlib.Data.List.TakeWhile

/-!
# What a position says

A line and a column are a pair of counters. What they say about a text is how many newlines stand
before the place and how many characters stand between the last of these and the place. Both can be
told from the characters before the place alone, and more of these make a later position.

An interpreter line is cut off before a file is read, but not the newline behind it. The first
character that is read therefore leads to the beginning of the second line, in the file as in what
is left of it.

## Main definitions

* `Text.Position.Marks` — a position is the place behind some characters
* `Text.Position.Before` — a position is earlier in a text than another
* `Text.Cursor.skip` — a cursor behind the next so many characters

## Main results

* `Text.Position.marks_after` — counting while reading gives the place behind what has been read
* `Text.Position.before_after` — more characters lead further down
* `Text.Cursor.skip_ofString` — what a cursor has passed, what is left, and where it stands
* `Text.toList_dropShebang` — an interpreter line is a header without newlines, and what is left is
  nothing or begins with one
-/

namespace Lisp.Text

namespace Position

/-- A position is the place behind some characters: its line is one more than the number of their
newlines, and its column is the number of characters behind the last of these. -/
structure Marks (p : Position) (before : List Char) : Prop where
  line : p.line = 1 + before.count '\n'
  column : p.column = (before.reverse.takeWhile (· ≠ '\n')).length

theorem after_append (p : Position) (cs ds : List Char) :
    p.after (cs ++ ds) = (p.after cs).after ds := List.foldl_append

theorem Marks.advance {p : Position} {before : List Char} (h : p.Marks before) (c : Char) :
    (p.advance c).Marks (before ++ [c]) := by
  obtain ⟨line, column⟩ := h
  by_cases hc : c = '\n'
  · subst hc
    constructor
    · simp only [Position.advance, if_pos, List.count_append, List.count_singleton_self, line]
      omega
    · simp [Position.advance]
  · constructor
    · simp [Position.advance, hc, line]
    · simp [Position.advance, hc, column]

/-- Counting while reading gives the place behind what has been read. -/
theorem marks_after (cs : List Char) : (after {} cs).Marks cs := by
  induction cs using List.reverseRecOn with
  | nil => exact ⟨rfl, rfl⟩
  | append_singleton cs c ih =>
    rw [after_append]
    exact ih.advance c

/-- A position is earlier in a text than another: on an earlier line, or further left on the same
one. -/
def Before (p q : Position) : Prop := p.line < q.line ∨ p.line = q.line ∧ p.column < q.column

instance (p q : Position) : Decidable (p.Before q) :=
  inferInstanceAs (Decidable (p.line < q.line ∨ p.line = q.line ∧ p.column < q.column))

theorem Before.trans {p q r : Position} (h : p.Before q) (h' : q.Before r) : p.Before r := by
  unfold Before at *
  omega

theorem before_advance (p : Position) (c : Char) : p.Before (p.advance c) := by
  unfold Before advance
  split
  · exact .inl (Nat.lt_succ_self _)
  · exact .inr ⟨rfl, Nat.lt_succ_self _⟩

/-- More characters lead further down. -/
theorem before_after (p : Position) {cs : List Char} (h : cs ≠ []) : p.Before (p.after cs) := by
  induction cs generalizing p with
  | nil => exact absurd rfl h
  | cons c cs ih =>
    have step : p.Before (p.advance c) := before_advance p c
    by_cases hcs : cs = []
    · subst hcs
      exact step
    · exact step.trans (ih (p.advance c) hcs)

end Position

/-! ### Cursors -/

namespace Cursor

/-- The cursor behind the next so many characters. -/
def skip (c : Cursor) : Nat → Cursor
  | 0 => c
  | n + 1 => c.next.2.skip n

theorem skip_eq (c : Cursor) (n : Nat) :
    c.skip n = ⟨c.rest.drop n, c.position.after (c.rest.take n)⟩ := by
  induction n generalizing c with
  | zero => simp [skip, Position.after]
  | succ n ih =>
    rw [skip, ih]
    obtain ⟨rest, position⟩ := c
    cases rest with
    | nil =>
      -- at the end a cursor stays where it is
      simp [next]
    | cons x xs => rfl

/-- A cursor that has passed some characters of a text has the others left and stands behind those
it has passed. -/
theorem skip_ofString (s : String) (n : Nat) :
    ((ofString s).skip n).rest = s.toList.drop n ∧
      ((ofString s).skip n).position.Marks (s.toList.take n) := by
  rw [skip_eq]
  exact ⟨rfl, Position.marks_after _⟩

end Cursor

/-! ### Interpreter lines -/

theorem after_header {header : List Char} (h : '\n' ∉ header) (rest : List Char) :
    Position.after {} (header ++ '\n' :: rest) = Position.after {} ('\n' :: rest) := by
  -- the newline begins a column, so that of the header only its line would count
  have line : (Position.after {} header).line = 1 := by
    rw [(Position.marks_after header).line, List.count_eq_zero.2 h]
  have newline : (Position.after {} header).advance '\n' = ⟨2, 0⟩ := by
    simp [Position.advance, line]
  rw [Position.after_append]
  exact congrArg (Position.after · rest) newline

/-- An interpreter line is a header without newlines, and what is left of the text is nothing or
begins with one. A text that has no such line has no header. -/
theorem toList_dropShebang (s : String) :
    ∃ header, s.toList = header ++ (dropShebang s).toList ∧ '\n' ∉ header ∧
      (header = [] ∨ (dropShebang s).toList = [] ∨ ∃ rest, (dropShebang s).toList = '\n' :: rest) ∧
      (header ≠ [] ↔ ['#', '!'] <+: s.toList) := by
  unfold dropShebang
  split
  -- the header reaches up to the first newline
  · next rest h =>
    refine ⟨'#' :: '!' :: rest.takeWhile (· != '\n'), ?_, ?_, .inr ?_, ?_⟩
    · rw [h, String.toList_ofList]
      simp [List.takeWhile_append_dropWhile]
    · intro mem
      rcases List.mem_cons.1 mem with hc | mem
      · exact absurd hc (by decide)
      rcases List.mem_cons.1 mem with hc | mem
      · exact absurd hc (by decide)
      simpa using List.mem_takeWhile_imp mem
    · rw [String.toList_ofList]
      cases hrest : rest.dropWhile (· != '\n') with
      | nil => exact .inl rfl
      | cons c more =>
        have hc : ¬ (c != '\n') = true := by
          have := List.head_dropWhile_not (· != '\n') (l := rest) (by simp [hrest])
          simpa [hrest] using this
        exact .inr ⟨more, by simpa using hc⟩
    · simp [h]
  · next h =>
    refine ⟨[], rfl, by simp, .inl rfl, ?_⟩
    constructor
    · exact fun hne => absurd rfl hne
    · rintro ⟨rest, hrest⟩
      exact absurd hrest.symm (h rest)

end Lisp.Text
