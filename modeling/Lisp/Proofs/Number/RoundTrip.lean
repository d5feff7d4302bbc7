import Lisp.Number.Parser
import Lisp.Number.Printer
import Lisp.Proofs.Number.Shortest
import Lisp.Proofs.Value.Same

/-!
# Numbers survive printing

A finite number prints as an optional minus sign, digits and, if it has a fractional part, a point
and more digits. Read again, this numeral gives the number back, except that negative zero comes
back as zero.

## Main definitions

* `Number.Numeral` — the digits before and behind the point of a numeral
* `Number.Numeral.chars` — a numeral as text
* `Number.StandsFor` — a numeral rounds to a number

## Main results

* `Number.Numeral.parseChars?_signed` — a numeral is read as the nearest double
* `Number.exists_numeral_renderChars` — a finite number prints as a numeral read as the same number
-/

namespace Lisp.Number

theorem splitSign_of_isDigit {c : Char} (cs : List Char) (h : c.isDigit = true) :
    splitSign (c :: cs) = (false, c :: cs) := by
  unfold splitSign
  split
  · next heq =>
    obtain ⟨rfl, -⟩ := List.cons.inj heq
    exact absurd h (by decide)
  · next heq =>
    obtain ⟨rfl, -⟩ := List.cons.inj heq
    exact absurd h (by decide)
  · rfl

/-- What begins with a digit is no word. -/
theorem ofList_map_toLower_ne {c d : Char} {cs ds : List Char} {word : String}
    (hc : c.isDigit = true) (hword : word.toList = d :: ds) (hd : d.isDigit = false) :
    String.ofList ((c :: cs).map Char.toLower) ≠ word := by
  have hbounds : 48 ≤ c.toNat ∧ c.toNat ≤ 57 := by
    simpa [Char.isDigit, UInt32.le_iff_toNat_le] using hc
  have hlower : c.toLower = c := by
    refine dif_neg fun h => ?_
    have : 65 ≤ c.toNat := UInt32.le_iff_toNat_le.1 h.1
    omega
  rw [List.map_cons, hlower]
  rintro rfl
  rw [String.toList_ofList] at hword
  obtain ⟨rfl, -⟩ := List.cons.inj hword
  simp [hc] at hd

theorem parseChars?_of_isDigit {c : Char} {cs rest : List Char} {negative : Bool}
    (split : splitSign cs = (negative, c :: rest)) (hc : c.isDigit = true) :
    parseChars? cs = (parseDecimal? (c :: rest)).map (·.toNumber negative) := by
  have inf : String.ofList ((c :: rest).map Char.toLower) ≠ "inf" :=
    ofList_map_toLower_ne hc rfl (by decide)
  have infinity : String.ofList ((c :: rest).map Char.toLower) ≠ "infinity" :=
    ofList_map_toLower_ne hc rfl (by decide)
  have nan : String.ofList ((c :: rest).map Char.toLower) ≠ "nan" :=
    ofList_map_toLower_ne hc rfl (by decide)
  unfold parseChars?
  rw [split]
  simp only [inf, infinity, nan, decide_false, Bool.or_self, Bool.false_eq_true, if_false]

/-- The digits before and behind the point of a numeral. -/
structure Numeral where
  whole : List Char
  fraction : List Char
  whole_ne_nil : whole ≠ []
  isDigit_whole : ∀ c ∈ whole, c.isDigit = true
  isDigit_fraction : ∀ c ∈ fraction, c.isDigit = true

namespace Numeral

variable (t : Numeral)

/-- A numeral as text; there is no point when nothing follows it. -/
def chars : List Char := t.whole ++ if t.fraction.isEmpty then [] else '.' :: t.fraction

/-- What a numeral denotes. -/
def decimal : Decimal := ⟨digitsValue 0 (t.whole ++ t.fraction), -t.fraction.length⟩

theorem exists_chars_eq_cons : ∃ c cs, t.chars = c :: cs ∧ c.isDigit = true := by
  obtain ⟨c, cs, h⟩ := List.exists_cons_of_ne_nil t.whole_ne_nil
  refine ⟨c, cs ++ if t.fraction.isEmpty then [] else '.' :: t.fraction, ?_, ?_⟩
  · simp [chars, h]
  · exact t.isDigit_whole c (by simp [h])

theorem spanDigits_append {ds rest : List Char} (h : ∀ c ∈ ds, c.isDigit = true)
    (hrest : ∀ c ∈ rest.head?, c.isDigit = false) : spanDigits (ds ++ rest) = (ds, rest) := by
  unfold spanDigits
  rw [List.takeWhile_append_of_pos h, List.dropWhile_append_of_pos h]
  cases rest with
  | nil => simp
  | cons c rest => simp [hrest c (by simp)]

theorem parseDecimal?_chars : parseDecimal? t.chars = some t.decimal := by
  obtain ⟨whole, fraction, hne, hwhole, hfraction⟩ := t
  unfold parseDecimal? chars decimal
  cases fraction with
  | nil =>
    have span : spanDigits (whole ++ []) = (whole, []) := spanDigits_append hwhole (by simp)
    rw [List.append_nil] at span
    simp [span, hne, parseExponent?, digitsValue]
  | cons c rest =>
    have span : spanDigits (whole ++ '.' :: c :: rest) = (whole, '.' :: c :: rest) :=
      spanDigits_append hwhole (by simp)
    have span' : spanDigits (c :: rest ++ []) = (c :: rest, []) :=
      spanDigits_append hfraction (by simp)
    rw [List.append_nil] at span'
    simp [span, span', parseExponent?, digitsValue]

theorem splitSign_signed (negative : Bool) :
    splitSign (signed negative t.chars) = (negative, t.chars) := by
  obtain ⟨c, cs, hchars, hdigit⟩ := t.exists_chars_eq_cons
  cases negative with
  | true => rfl
  | false =>
    simp only [signed, Bool.false_eq_true, if_false]
    rw [hchars, splitSign_of_isDigit cs hdigit]

/-- The text of a numeral with a sign is read as the nearest double. -/
theorem parseChars?_signed (negative : Bool) :
    parseChars? (signed negative t.chars) = some (t.decimal.toNumber negative) := by
  obtain ⟨c, cs, hchars, hdigit⟩ := t.exists_chars_eq_cons
  have split := t.splitSign_signed negative
  rw [hchars] at split
  rw [hchars, parseChars?_of_isDigit split hdigit, ← hchars, t.parseDecimal?_chars]
  rfl

end Numeral

theorem digitsValue_eq (acc : Nat) (ds : List Char) :
    digitsValue acc ds = Nat.ofDigitChars 10 ds acc := by
  rw [Nat.ofDigitChars_eq_foldl]
  rfl

namespace Decimal

theorem isDigit_of_mem_digitChars {n : Nat} {c : Char} (h : c ∈ digitChars n) :
    c.isDigit = true :=
  Nat.isDigit_of_mem_toDigits (by decide) (by decide) h

theorem digitChars_ne_nil (n : Nat) : digitChars n ≠ [] := Nat.toDigits_ne_nil

theorem ofDigitChars_digitChars (n : Nat) : Nat.ofDigitChars 10 (digitChars n) 0 = n :=
  Nat.ofDigitChars_ten_toDigits

end Decimal

theorem isDigit_of_mem_zeros {k : Nat} {c : Char} (h : c ∈ List.replicate k '0') :
    c.isDigit = true :=
  List.eq_of_mem_replicate h ▸ by decide

/-! ### Positional text -/

namespace Numeral

open Decimal

/-- The digits of a natural number as a numeral. -/
def ofNat (n : Nat) : Numeral where
  whole := digitChars n
  fraction := []
  whole_ne_nil := digitChars_ne_nil n
  isDigit_whole _ := isDigit_of_mem_digitChars
  isDigit_fraction := by simp

@[simp] theorem decimal_ofNat (n : Nat) : (ofNat n).decimal = ⟨n, 0⟩ := by
  simp [decimal, ofNat, digitsValue_eq, ofDigitChars_digitChars]

/-- The digits of a natural number, and zeros behind them. -/
def withZeros (n k : Nat) : Numeral where
  whole := digitChars n ++ List.replicate k '0'
  fraction := []
  whole_ne_nil := by simp [digitChars_ne_nil]
  isDigit_whole _ h := (List.mem_append.1 h).elim isDigit_of_mem_digitChars isDigit_of_mem_zeros
  isDigit_fraction := by simp

@[simp] theorem decimal_withZeros (n k : Nat) : (withZeros n k).decimal = ⟨10 ^ k * n, 0⟩ := by
  simp [decimal, withZeros, digitsValue_eq, Nat.ofDigitChars_append, ofDigitChars_digitChars,
    Nat.ofDigitChars_replicate_zero]

/-- The digits of a natural number with the point in front of the last ones. -/
def withPoint (n k : Nat) (h : k < (digitChars n).length) : Numeral where
  whole := (digitChars n).take ((digitChars n).length - k)
  fraction := (digitChars n).drop ((digitChars n).length - k)
  whole_ne_nil := by
    simp only [Ne, List.take_eq_nil_iff, digitChars_ne_nil, or_false]
    omega
  isDigit_whole _ h := isDigit_of_mem_digitChars (List.mem_of_mem_take h)
  isDigit_fraction _ h := isDigit_of_mem_digitChars (List.mem_of_mem_drop h)

@[simp] theorem decimal_withPoint (n k : Nat) (h : k < (digitChars n).length) :
    (withPoint n k h).decimal = ⟨n, -k⟩ := by
  have hlength : ((digitChars n).drop ((digitChars n).length - k)).length = k := by
    rw [List.length_drop]
    omega
  simp only [decimal, withPoint, List.take_append_drop, digitsValue_eq, ofDigitChars_digitChars,
    hlength]

/-- The digits of a natural number behind a zero, a point and more zeros. -/
def belowPoint (n k : Nat) : Numeral where
  whole := ['0']
  fraction := List.replicate (k - (digitChars n).length) '0' ++ digitChars n
  whole_ne_nil := by simp
  isDigit_whole := by simp
  isDigit_fraction _ h := (List.mem_append.1 h).elim isDigit_of_mem_zeros isDigit_of_mem_digitChars

@[simp] theorem decimal_belowPoint {n k : Nat} (h : (digitChars n).length ≤ k) :
    (belowPoint n k).decimal = ⟨n, -k⟩ := by
  have hlength : k - (digitChars n).length + (digitChars n).length = k := by omega
  simp only [decimal, belowPoint, digitsValue_eq, List.length_append, List.length_replicate,
    hlength]
  simp [Nat.ofDigitChars_append, Nat.ofDigitChars_cons, Nat.ofDigitChars_replicate_zero,
    ofDigitChars_digitChars]

end Numeral

/-- Positional text is a numeral of the same value. -/
theorem Decimal.exists_numeral_render (d : Decimal) :
    ∃ t : Numeral, d.render = t.chars ∧ t.decimal.value = d.value := by
  unfold render
  dsimp only
  split
  · next h =>
    -- no point: the zeros that follow are part of the digits
    obtain ⟨k, hk⟩ := Int.eq_ofNat_of_zero_le h
    refine ⟨.withZeros d.digits d.exponent.toNat, by simp [Numeral.chars, Numeral.withZeros], ?_⟩
    rw [Numeral.decimal_withZeros]
    simp [value, hk, mul_comm]
  · next h =>
    obtain ⟨k, hk⟩ : ∃ k : Nat, d.exponent = -(k + 1 : Nat) := ⟨(-d.exponent - 1).toNat, by omega⟩
    have places : (-d.exponent).toNat = k + 1 := by omega
    rw [places]
    split
    · next hlength =>
      refine ⟨.withPoint d.digits (k + 1) hlength, ?_, ?_⟩
      · have hfraction :
            (digitChars d.digits).drop ((digitChars d.digits).length - (k + 1)) ≠ [] := by
          rw [Ne, List.drop_eq_nil_iff]
          omega
        simp [Numeral.chars, Numeral.withPoint, hfraction]
      · rw [Numeral.decimal_withPoint, ← hk]
    · next hlength =>
      refine ⟨.belowPoint d.digits (k + 1), ?_, ?_⟩
      · simp [Numeral.chars, Numeral.belowPoint, digitChars_ne_nil]
      · rw [Numeral.decimal_belowPoint (by omega), ← hk]

section Finite

variable {x : Number} {negative : Bool} {m : Nat} {q : Int}

theorem value_truncate (h : dyadicIsInteger m q = true) : (truncate m q : ℚ) = m * 2 ^ q := by
  unfold truncate
  split
  · next hq => simp [two_zpow_of_nonneg hq]
  · next hq =>
    simp only [dyadicIsInteger, Bool.or_eq_true, decide_eq_true_eq, hq, false_or] at h
    obtain ⟨k, rfl⟩ := Nat.dvd_of_mod_eq_zero h
    rw [two_zpow_of_nonpos (by omega), Nat.mul_div_cancel_left k (by positivity)]
    push_cast
    field_simp

theorem isZero_of_exact (h : x.exact = .finite negative 0 q) : x.isZero = true := by
  have hbits := bits_of_exact h
  have hq : q = -1074 := by
    unfold exact at h
    split_ifs at h
    all_goals
      simp only [Exact.finite.injEq] at h
      omega
  have hmod : x.bits.toNat % 2 ^ 63 = 0 := by
    rw [hbits, hq]
    split <;> rfl
  simpa only [isZero, decide_eq_true_eq] using hmod

/-- An integral number below `10^15` prints as its digits, a negative one behind a minus sign. -/
theorem renderChars_of_integer (h : x.exact = .finite negative m q)
    (integral : dyadicIsInteger m q = true) (below : truncate m q < 10 ^ 15) :
    x.renderChars = signed (negative && m != 0) (Numeral.ofNat (truncate m q)).chars := by
  unfold renderChars
  rw [h]
  dsimp only
  rw [if_pos (by rw [integral, Bool.true_and]; exact decide_eq_true below)]
  simp [Numeral.chars, Numeral.ofNat]

/-- Any other finite number prints as the shortest numeral in its rounding interval. -/
theorem exists_numeral_of_shortest (h : x.exact = .finite negative m q)
    (other : ¬ (dyadicIsInteger m q = true ∧ truncate m q < 10 ^ 15)) :
    0 < m ∧ ∃ t : Numeral, x.renderChars = signed negative t.chars ∧
      t.decimal.value = (shortest m q).value := by
  have hm : 0 < m := by
    by_contra hzero
    obtain rfl := Nat.eq_zero_of_not_pos hzero
    simp [dyadicIsInteger, truncate] at other
  obtain ⟨t, hchars, hvalue⟩ := (shortest m q).exists_numeral_render
  refine ⟨hm, t, ?_, hvalue⟩
  unfold renderChars
  rw [h]
  simp only [Bool.and_eq_true, decide_eq_true_eq, other, if_false, hchars]

/-- A numeral behind a sign stands for the number `±m·2^q`: it denotes a rational that rounds to the
number, or both are zero and the sign is lost. -/
inductive StandsFor (negative : Bool) (m : Nat) (q : Int) (minus : Bool) (t : Numeral) : Prop where
  | zero (hm : m = 0) (hminus : minus = false) (hdigits : t.decimal.digits = 0)
  | near (hm : 0 < m) (hminus : minus = negative) (near : Near m q t.decimal.value)

/-- The text of a finite number is a numeral that stands for it, and denotes it exactly if it is
integral and below `10^15`. -/
theorem exists_numeral_standsFor (h : x.exact = .finite negative m q) :
    ∃ (minus : Bool) (t : Numeral), x.renderChars = signed minus t.chars ∧
      (dyadicIsInteger m q = true → truncate m q < 10 ^ 15 →
        t.fraction = [] ∧ t.decimal.value = m * 2 ^ q) ∧
      StandsFor negative m q minus t := by
  by_cases branch : dyadicIsInteger m q = true ∧ truncate m q < 10 ^ 15
  · obtain ⟨integral, below⟩ := branch
    have hvalue : (Numeral.ofNat (truncate m q)).decimal.value = m * 2 ^ q := by
      simp [Decimal.value, value_truncate integral]
    refine ⟨negative && m != 0, .ofNat (truncate m q), renderChars_of_integer h integral below,
      fun _ _ => ⟨rfl, hvalue⟩, ?_⟩
    rcases Nat.eq_zero_or_pos m with rfl | hm
    · exact .zero rfl (by simp) (by simp [truncate])
    · exact .near hm (by simp [Nat.ne_of_gt hm]) (hvalue ▸ near_exactly hm)
  · obtain ⟨hm, t, hchars, hvalue⟩ := exists_numeral_of_shortest h branch
    exact ⟨negative, t, hchars, fun integral below => absurd ⟨integral, below⟩ branch,
      .near hm rfl (hvalue ▸ near_shortest hm)⟩

/-- A numeral that stands for a number is read as the same number, and as the number itself unless
it is zero. -/
theorem StandsFor.toNumber {minus : Bool} {t : Numeral} (stands : StandsFor negative m q minus t)
    (h : x.exact = .finite negative m q) :
    x.same (t.decimal.toNumber minus) = true ∧ (m ≠ 0 → t.decimal.toNumber minus = x) := by
  cases stands with
  | zero hm hminus hdigits =>
    have hzero : t.decimal.toNumber minus = Number.zero := by
      rw [hminus]
      simp only [Decimal.toNumber, hdigits, if_true]
      decide
    rw [hzero]
    exact ⟨same_iff.2 (.inr (.inl ⟨isZero_of_exact (hm ▸ h), by decide⟩)), fun hne => absurd hm hne⟩
  | near hm hminus near =>
    have hnumber : t.decimal.toNumber minus = x := by
      rw [hminus]
      exact Decimal.toNumber_of_near h hm near
    rw [hnumber]
    exact ⟨same_refl x, fun _ => rfl⟩

/-- A finite number prints as a numeral that is read as the same number. -/
theorem exists_numeral_renderChars (h : x.exact = .finite negative m q) :
    ∃ (minus : Bool) (t : Numeral), x.renderChars = signed minus t.chars ∧
      x.same (t.decimal.toNumber minus) = true := by
  obtain ⟨minus, t, hchars, -, stands⟩ := exists_numeral_standsFor h
  exact ⟨minus, t, hchars, (stands.toNumber h).1⟩

end Finite

end Lisp.Number
