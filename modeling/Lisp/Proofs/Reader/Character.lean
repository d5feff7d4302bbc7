import Lisp.Reader.Basic

/-!
# Classes of characters

Blanks stand apart from the characters of symbols and numbers, and so do brackets and commas. That
is why a token ends where the next blank or bracket stands.

## Main results

* `Reader.isSymbolChar_of_isBlank` — blanks belong to no symbol
* `Reader.isSeparator_of_isSymbolChar` — a symbol holds nothing that divides forms
-/

namespace Lisp.Reader

variable {c : Char}

theorem toNat_of_isSymbolChar (h : isSymbolChar c = true) : 33 ≤ c.toNat ∧ c.toNat ≤ 126 := by
  delta isSymbolChar Char.isAlphanum Char.isAlpha Char.isUpper Char.isLower Char.isDigit at h
  simp only [Bool.or_eq_true, Bool.and_eq_true, decide_eq_true_eq, ge_iff_le,
    UInt32.le_iff_toNat_le, Char.toNat_val, Char.reduceToNat, or_assoc] at h
  rcases h with h | h | h | h
  · omega
  · omega
  · omega
  · rcases h with rfl | rfl | rfl | rfl | rfl | rfl | rfl | rfl | rfl | rfl | rfl | rfl | rfl |
      rfl | rfl | rfl <;> decide

theorem toNat_of_isBlank (h : Text.isBlank c = true) : c.toNat ≤ 32 ∨ 133 ≤ c.toNat := by
  simp only [Text.isBlank, Bool.or_eq_true, Bool.and_eq_true, decide_eq_true_eq] at h
  omega

theorem isSeparator_of_isBlank (h : Text.isBlank c = true) : isSeparator c = true := by
  simp [isSeparator, h]

theorem isSymbolChar_of_isBlank (h : Text.isBlank c = true) : isSymbolChar c = false := by
  cases hc : isSymbolChar c with
  | false => rfl
  | true =>
    have := toNat_of_isSymbolChar hc
    have := toNat_of_isBlank h
    omega

theorem isSymbolChar_of_isDigit (h : c.isDigit = true) : isSymbolChar c = true := by
  simp [isSymbolChar, Char.isAlphanum, h]

/-- A character with a class that a given one lacks is another one. -/
theorem ne_of_class {p : Char → Bool} {d : Char} (h : p c = true) (hd : p d = false) : c ≠ d := by
  rintro rfl
  simp [hd] at h

theorem isSeparator_of_isSymbolChar (h : isSymbolChar c = true) : isSeparator c = false := by
  have hne : c ≠ ',' := ne_of_class h (by decide)
  cases hblank : Text.isBlank c with
  | false => simp [isSeparator, hblank, hne]
  | true => simp [isSymbolChar_of_isBlank hblank] at h

theorem isClosing_of_isSymbolChar (h : isSymbolChar c = true) : isClosing c = false := by
  have h₁ : c ≠ ')' := ne_of_class h (by decide)
  have h₂ : c ≠ ']' := ne_of_class h (by decide)
  have h₃ : c ≠ '\x7d' := ne_of_class h (by decide)
  simp [isClosing, h₁, h₂, h₃]

theorem isSeparator_of_isClosing (h : isClosing c = true) : isSeparator c = false := by
  simp only [isClosing, Bool.or_eq_true, decide_eq_true_eq] at h
  rcases h with (rfl | rfl) | rfl <;> decide

theorem isSymbolChar_of_isClosing (h : isClosing c = true) : isSymbolChar c = false := by
  simp only [isClosing, Bool.or_eq_true, decide_eq_true_eq] at h
  rcases h with (rfl | rfl) | rfl <;> decide

theorem isClosing_close (d : Delimiter) : isClosing d.close = true := by
  cases d <;> decide

end Lisp.Reader
