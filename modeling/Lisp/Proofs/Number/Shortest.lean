import Lisp.Number.Decimal
import Lisp.Proofs.Number.Rounding

/-!
# Numerals near a double

The search for the shortest numeral looks only at numerals that round to the double, and falls back
on the double written out in full. So whatever it finds has the double as its nearest one.

## Main definitions

* `Number.Decimal.value` — the rational that a numeral denotes

## Main results

* `Number.Decimal.toNumber_of_near` — a numeral near a double is read as that double
* `Number.near_shortest` — the shortest numeral of a double is near it
-/

namespace Lisp.Number

variable {m : Nat} {q : Int}

/-! ### The value of a numeral -/

namespace Decimal

variable {d : Decimal}

/-- The rational that a numeral denotes. -/
def value (d : Decimal) : ℚ := d.digits * 10 ^ d.exponent

theorem num_div_den (d : Decimal) : (d.num : ℚ) / d.den = d.value := by
  unfold num den value
  rcases le_total 0 d.exponent with h | h
  · obtain ⟨n, hn⟩ := Int.eq_ofNat_of_zero_le h
    simp [hn]
  · obtain ⟨n, hn⟩ := Int.exists_eq_neg_ofNat h
    simp [hn, div_eq_mul_inv]

theorem den_pos (d : Decimal) : 0 < d.den := by
  unfold den
  positivity

theorem width_bounds {n : Nat} (h : 0 < n) :
    (10 : ℚ) ^ ((width n : Int) - 1) ≤ n ∧ (n : ℚ) < 10 ^ (width n : Int) := by
  have hpos : 0 < width n := Nat.length_toDigits_pos
  have high : n < 10 ^ width n := (Nat.length_toDigits_le_iff (by omega) hpos).1 le_rfl
  refine ⟨?_, by exact_mod_cast high⟩
  obtain ⟨k, hk⟩ : ∃ k, width n = k + 1 := ⟨width n - 1, by omega⟩
  have low : 10 ^ k ≤ n := by
    rcases Nat.eq_zero_or_pos k with rfl | hkpos
    · exact h
    · by_contra hlt
      have : width n ≤ k := (Nat.length_toDigits_le_iff (by omega) hkpos).2 (by omega)
      omega
  rw [hk]
  push_cast
  rw [add_sub_cancel_right]
  exact_mod_cast low

/-- The leading digit of a numeral stands just below its value. -/
theorem value_bounds (h : 0 < d.digits) :
    (10 : ℚ) ^ (d.exponent + width d.digits - 1) ≤ d.value ∧
      d.value < 10 ^ (d.exponent + width d.digits) := by
  obtain ⟨low, high⟩ := width_bounds h
  have split : ∀ k : Int, (10 : ℚ) ^ (d.exponent + k) = 10 ^ k * 10 ^ d.exponent := by
    intro k
    rw [add_comm, zpow_add₀ (by norm_num)]
  unfold value
  constructor
  · rw [add_sub_assoc, split]
    gcongr
  · rw [split]
    gcongr

end Decimal

/-! ### The range of doubles -/

theorem two_pow_le_ten_pow : (2 : ℚ) ^ (1023 : Int) ≤ 10 ^ (308 : Int) := by
  have h : (2 : ℚ) ^ 93 ≤ 10 ^ 28 := by norm_num
  calc (2 : ℚ) ^ (1023 : Int) = (2 ^ 93) ^ 11 := by rw [← pow_mul]; rfl
    _ ≤ (10 ^ 28) ^ 11 := by gcongr
    _ = 10 ^ (308 : Int) := by rw [← pow_mul]; rfl

theorem lt_of_near {v : ℚ} (canonical : Canonical m q) (near : Near m q v) :
    v < 10 ^ (310 : Int) := by
  calc v < 2 ^ (q + 53) := near.lt canonical.lt
    _ ≤ 2 ^ (1024 : Int) := zpow_le_zpow_right₀ one_le_two (by have := canonical.exponent_le; omega)
    _ = 2 * 2 ^ (1023 : Int) := by rw [← zpow_one_add₀ two_ne_zero]; rfl
    _ ≤ 10 ^ (2 : Int) * 10 ^ (308 : Int) := by
      gcongr
      · norm_num
      · exact two_pow_le_ten_pow
    _ = 10 ^ (310 : Int) := by rw [← zpow_add₀ (by norm_num)]; rfl

theorem ge_of_near {v : ℚ} (canonical : Canonical m q) (near : Near m q v) :
    (10 : ℚ) ^ (-330 : Int) ≤ v := by
  -- the least double is worth four units of `2 ^ -1076`, and half of that is still near it
  have hend : (2 : ℚ) ≤ lowEnd m q := by
    have := lowEnd_ge (q := q) canonical.pos
    have : (1 : ℚ) ≤ m := by exact_mod_cast canonical.pos
    linarith
  have hunit : (2 : ℚ) ^ (-1076 : Int) ≤ 2 ^ (q - 2) :=
    zpow_le_zpow_right₀ one_le_two (by have := canonical.le_exponent; omega)
  have hinv : (10 : ℚ) ^ (-308 : Int) ≤ 2 ^ (-1023 : Int) := by
    rw [zpow_neg, zpow_neg]
    exact inv_anti₀ (by positivity) two_pow_le_ten_pow
  calc (10 : ℚ) ^ (-330 : Int) = 10 ^ (-22 : Int) * 10 ^ (-308 : Int) := by
        rw [← zpow_add₀ (by norm_num)]; rfl
    _ ≤ 2 ^ (-52 : Int) * 2 ^ (-1023 : Int) := by
      gcongr
      norm_num
    _ = 2 * 2 ^ (-1076 : Int) := by
      rw [← zpow_add₀ two_ne_zero, ← zpow_one_add₀ two_ne_zero]; rfl
    _ ≤ lowEnd m q * 2 ^ (q - 2) := by gcongr
    _ ≤ v := near.low

/-- A numeral near a double is read as that double. -/
theorem Decimal.toNumber_of_near {x : Number} {negative : Bool} {d : Decimal}
    (h : x.exact = .finite negative m q) (hm : 0 < m) (near : Near m q d.value) :
    d.toNumber negative = x := by
  have canonical := canonical_of_exact h hm
  -- the shortcuts for numerals out of range are not taken
  have hdigits : 0 < d.digits := by
    have hpos := near.pos hm
    by_contra hzero
    simp [value, Nat.eq_zero_of_not_pos hzero] at hpos
  obtain ⟨low, high⟩ := value_bounds hdigits
  have hle : d.exponent + width d.digits - 1 < 310 :=
    (zpow_lt_zpow_iff_right₀ (by norm_num : (1 : ℚ) < 10)).1
      (low.trans_lt (lt_of_near canonical near))
  have hge : -330 < d.exponent + width d.digits :=
    (zpow_lt_zpow_iff_right₀ (by norm_num : (1 : ℚ) < 10)).1
      ((ge_of_near canonical near).trans_lt high)
  unfold toNumber
  rw [if_neg (by omega), if_neg (by omega), if_neg (by omega)]
  exact pack_of_near h hm d.den_pos (d.num_div_den ▸ near)

/-! ### The search for the shortest numeral -/

theorem near_exactly (hm : 0 < m) : Near m q (m * 2 ^ q) := by
  have hp : (0 : ℚ) < 2 ^ (q - 2) := by positivity
  have hlow : lowEnd m q < 4 * m := by
    unfold lowEnd
    split_ifs <;> omega
  have low : (lowEnd m q : ℚ) * 2 ^ (q - 2) < m * 2 ^ q := by
    have : (lowEnd m q : ℚ) < 4 * m := by exact_mod_cast hlow
    rw [two_zpow_sub_two q]
    nlinarith
  have high : (m : ℚ) * 2 ^ q < (4 * m + 2 : Nat) * 2 ^ (q - 2) := by
    rw [two_zpow_sub_two q]
    push_cast
    nlinarith
  exact ⟨low.le, high.le, fun h => absurd h low.ne, fun h => absurd h high.ne⟩

/-- A power of a base without negative exponents on either side. -/
theorem pow_toNat_mul_zpow {b : ℚ} (hb : b ≠ 0) (e : Int) :
    b ^ (-e).toNat * b ^ e = b ^ e.toNat := by
  rcases le_total 0 e with h | h
  · obtain ⟨n, rfl⟩ := Int.eq_ofNat_of_zero_le h
    simp
  · obtain ⟨n, rfl⟩ := Int.exists_eq_neg_ofNat h
    simp [hb]

namespace Interval

variable {i : Interval} {d : Nat} {e : Int}

/-- The two natural numbers to compare stand in the ratio of the two rationals. -/
theorem scales_eq (i : Interval) (d : Nat) (e : Int) :
    ∃ c : ℚ, 0 < c ∧ ∀ n : Nat, ((i.scales n d e).1 : ℚ) = c * (n * 2 ^ (i.q - 2)) ∧
      ((i.scales n d e).2 : ℚ) = c * (d * 10 ^ e) := by
  have two := pow_toNat_mul_zpow (two_ne_zero (α := ℚ)) (i.q - 2)
  have ten := pow_toNat_mul_zpow (b := 10) (by norm_num) e
  refine ⟨2 ^ (-(i.q - 2)).toNat * 10 ^ (-e).toNat, by positivity, fun n => ⟨?_, ?_⟩⟩
  · simp only [scales, Nat.cast_mul, Nat.cast_pow, Nat.cast_ofNat]
    rw [← two]
    ring
  · simp only [scales, Nat.cast_mul, Nat.cast_pow, Nat.cast_ofNat]
    rw [← ten]
    ring

theorem scales_le_iff (i : Interval) (n d : Nat) (e : Int) :
    (i.scales n d e).1 ≤ (i.scales n d e).2 ↔ (n : ℚ) * 2 ^ (i.q - 2) ≤ d * 10 ^ e := by
  obtain ⟨c, hc, hscales⟩ := i.scales_eq d e
  rw [← Nat.cast_le (α := ℚ), (hscales n).1, (hscales n).2]
  exact mul_le_mul_iff_right₀ hc

theorem scales_lt_iff (i : Interval) (n d : Nat) (e : Int) :
    (i.scales n d e).1 < (i.scales n d e).2 ↔ (n : ℚ) * 2 ^ (i.q - 2) < d * 10 ^ e := by
  obtain ⟨c, hc, hscales⟩ := i.scales_eq d e
  rw [← Nat.cast_lt (α := ℚ), (hscales n).1, (hscales n).2]
  exact mul_lt_mul_iff_right₀ hc

theorem near_of_contains (h : (around m q).contains d e = true) :
    Near m q (Decimal.value ⟨d, e⟩) := by
  have low_le := scales_le_iff (around m q) (lowEnd m q) d e
  have low_lt := scales_lt_iff (around m q) (lowEnd m q) d e
  -- at the high end the comparisons go the other way
  have high_le := not_congr (scales_lt_iff (around m q) (4 * m + 2) d e)
  have high_lt := not_congr (scales_le_iff (around m q) (4 * m + 2) d e)
  rw [not_lt, not_lt] at high_le
  rw [not_le, not_le] at high_lt
  have hlow : (around m q).low = lowEnd m q := rfl
  have hhigh : (around m q).high = 4 * m + 2 := rfl
  unfold contains at h
  rw [hlow, hhigh] at h
  unfold Decimal.value
  -- an even significand takes the ends of its interval in, an odd one leaves them out
  split at h
  · next even =>
    simp only [Bool.and_eq_true, decide_eq_true_eq, low_le, high_le] at h
    exact ⟨h.1, h.2, fun _ => even, fun _ => even⟩
  · simp only [Bool.and_eq_true, decide_eq_true_eq, low_lt, high_lt] at h
    exact ⟨h.1.le, h.2.le, fun heq => absurd heq h.1.ne, fun heq => absurd heq h.2.ne⟩

theorem contains_of_onGrid {r : Decimal} (h : i.onGrid? e = some r) :
    i.contains r.digits r.exponent = true := by
  unfold onGrid? at h
  dsimp only at h
  split_ifs at h with both lt lower upper
  all_goals
    obtain rfl := Option.some.inj h
    simp_all

theorem value_exactly (i : Interval) : i.exactly.value = i.m * 2 ^ i.q := by
  unfold exactly
  split
  · next h => simp [Decimal.value, two_zpow_of_nonneg h]
  · next h =>
    have five : (5 : ℚ) ^ (-i.q).toNat * 5 ^ i.q = 1 := by
      rw [pow_toNat_mul_zpow (by norm_num), Int.toNat_of_nonpos (by omega), pow_zero]
    simp only [Decimal.value, Nat.cast_mul, Nat.cast_pow, Nat.cast_ofNat]
    calc (i.m : ℚ) * 5 ^ (-i.q).toNat * 10 ^ i.q
        = i.m * (5 ^ (-i.q).toNat * 5 ^ i.q) * 2 ^ i.q := by
          rw [show (10 : ℚ) = 5 * 2 by norm_num, mul_zpow]
          ring
      _ = i.m * 2 ^ i.q := by rw [five, mul_one]

end Interval

/-- The shortest numeral of a double is near it. -/
theorem near_shortest (hm : 0 < m) : Near m q (shortest m q).value := by
  unfold shortest
  dsimp only
  cases h : (List.range 18).findSome? fun n : Nat =>
      (Interval.around m q).onGrid? ((Interval.around m q).leadingPlace - n) with
  | none =>
    rw [Option.getD_none, Interval.value_exactly]
    exact near_exactly hm
  | some d =>
    obtain ⟨n, -, hn⟩ := List.exists_of_findSome?_eq_some h
    exact Interval.near_of_contains (Interval.contains_of_onGrid hn)

end Lisp.Number
