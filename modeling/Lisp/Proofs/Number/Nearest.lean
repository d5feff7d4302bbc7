import Lisp.Proofs.Number.Shortest
import Mathlib.Algebra.Order.Group.Abs
import Mathlib.Tactic.GCongr

/-!
# The nearest double

A rational rounds to a double if it lies between the middles of the gaps on both sides of it. That
is the same as to say that no other double is nearer. The gap below a power of two is half as wide
as the one above, except at the bottom of the range, and this is where the two sides differ.

## Main definitions

* `Number.signedValue` — a magnitude behind a sign

## Main results

* `Number.Canonical.le_of_lt`, `Number.Canonical.ge_of_gt` — the doubles beside a double
* `Number.Near.nearest` — a rational that rounds to a double is at least as near to it as to others
-/

namespace Lisp.Number

/-- A magnitude behind a sign. -/
def signedValue (negative : Bool) (v : ℚ) : ℚ := if negative then -v else v

theorem abs_signedValue_sub (negative : Bool) (v w : ℚ) :
    |signedValue negative v - signedValue negative w| = |v - w| := by
  cases negative with
  | false => rfl
  | true =>
    simp only [signedValue, if_true]
    rw [neg_sub_neg, abs_sub_comm]

/-- Magnitudes behind different signs are as far apart as they are from zero together. -/
theorem abs_signedValue_sub_of_ne {negative negative' : Bool} (h : negative' ≠ negative) {v w : ℚ}
    (hv : 0 ≤ v) (hw : 0 ≤ w) :
    |signedValue negative v - signedValue negative' w| = v + w := by
  cases negative with
  | false =>
    obtain rfl : negative' = true := by simpa using h
    simp only [signedValue, Bool.false_eq_true, if_false, if_true, sub_neg_eq_add]
    exact abs_of_nonneg (add_nonneg hv hw)
  | true =>
    obtain rfl : negative' = false := by simpa using h
    simp only [signedValue, Bool.false_eq_true, if_false, if_true]
    rw [abs_of_nonpos (by linarith)]
    ring

section

variable {m m' : Nat} {q q' : Int} {v : ℚ}

/-- A double with at least the exponent of another one is a multiple of its last place. -/
theorem exists_multiple (m' : Nat) (h : q ≤ q') :
    ∃ k : Nat, (m' : ℚ) * 2 ^ q' = k * 2 ^ q := by
  obtain ⟨n, hn⟩ := Int.eq_ofNat_of_zero_le (sub_nonneg.2 h)
  refine ⟨m' * 2 ^ n, ?_⟩
  have hq' : q' = n + q := by omega
  rw [hq', zpow_add₀ two_ne_zero, zpow_natCast]
  push_cast
  ring

/-- A double with a smaller exponent than another one has at most half of a last place for each unit
of its significand. -/
theorem le_of_exponent_lt (hm' : m' < 2 ^ 53) (h : q' < q) :
    (m' : ℚ) * 2 ^ q' ≤ (2 ^ 54 - 2) * 2 ^ (q - 2) := by
  have hsignificand : (m' : ℚ) ≤ 2 ^ 53 - 1 := by
    have : m' + 1 ≤ 2 ^ 53 := hm'
    have : ((m' + 1 : Nat) : ℚ) ≤ 2 ^ 53 := by exact_mod_cast this
    push_cast at this
    linarith
  have hpower : (2 : ℚ) ^ q' ≤ 2 ^ (q - 1) := zpow_le_zpow_right₀ one_le_two (by omega)
  calc (m' : ℚ) * 2 ^ q' ≤ (2 ^ 53 - 1) * 2 ^ (q - 1) := by gcongr
    _ = (2 ^ 54 - 2) * 2 ^ (q - 2) := by
      rw [show q - 1 = (q - 2) + (1 : Nat) by omega, zpow_add₀ two_ne_zero, zpow_natCast]
      ring

/-- The next double above is a whole last place away. -/
theorem Canonical.ge_of_gt (canonical : Canonical m q) (hm' : m' < 2 ^ 53) (hq' : -1074 ≤ q')
    (h : (m : ℚ) * 2 ^ q < m' * 2 ^ q') : (4 * m + 4 : ℚ) * 2 ^ (q - 2) ≤ m' * 2 ^ q' := by
  have hp : (0 : ℚ) < 2 ^ (q - 2) := by positivity
  have hunit : (2 : ℚ) ^ q = 4 * 2 ^ (q - 2) := two_zpow_sub_two q
  rcases le_or_gt q q' with hle | hlt
  · obtain ⟨k, hk⟩ := exists_multiple m' hle
    rw [hk] at h ⊢
    have : m < k := by exact_mod_cast lt_of_mul_lt_mul_right h (by positivity)
    have : (m : ℚ) + 1 ≤ k := by exact_mod_cast this
    rw [hunit]
    nlinarith
  · -- doubles of a smaller exponent are not above
    have hnormal : 2 ^ 52 ≤ m := canonical.normal.resolve_left (by omega)
    have hnormal' : (2 : ℚ) ^ 52 ≤ m := by exact_mod_cast hnormal
    have := le_of_exponent_lt hm' hlt
    rw [hunit] at h
    nlinarith

/-- The next double below is as far away as twice the lower end of the rounding interval. -/
theorem Canonical.le_of_lt (canonical : Canonical m q) (hm' : m' < 2 ^ 53) (hq' : -1074 ≤ q')
    (h : (m' : ℚ) * 2 ^ q' < m * 2 ^ q) :
    (m' : ℚ) * 2 ^ q' ≤ (2 * lowEnd m q - 4 * m) * 2 ^ (q - 2) := by
  have hp : (0 : ℚ) < 2 ^ (q - 2) := by positivity
  have hunit : (2 : ℚ) ^ q = 4 * 2 ^ (q - 2) := two_zpow_sub_two q
  have hend : (4 * m - 2 : ℚ) ≤ lowEnd m q := lowEnd_ge canonical.pos
  rcases le_or_gt q q' with hle | hlt
  · obtain ⟨k, hk⟩ := exists_multiple m' hle
    rw [hk] at h ⊢
    have : k < m := by exact_mod_cast lt_of_mul_lt_mul_right h (by positivity)
    have : (k : ℚ) + 1 ≤ m := by exact_mod_cast this
    rw [hunit]
    nlinarith
  · have hnormal : 2 ^ 52 ≤ m := canonical.normal.resolve_left (by omega)
    have hlow : (2 ^ 54 - 2 : ℚ) ≤ 2 * lowEnd m q - 4 * m := by
      rcases Nat.eq_or_lt_of_le hnormal with hpower | habove
      · -- below a power of two the gap is half as wide
        have : lowEnd m q = 4 * 2 ^ 52 - 1 := by
          rw [lowEnd, if_pos ⟨hpower.symm, by omega⟩, ← hpower]
        rw [this, ← hpower]
        norm_num
      · have : (2 ^ 52 + 1 : ℚ) ≤ m := by exact_mod_cast habove
        linarith
    calc (m' : ℚ) * 2 ^ q' ≤ (2 ^ 54 - 2) * 2 ^ (q - 2) := le_of_exponent_lt hm' hlt
      _ ≤ (2 * lowEnd m q - 4 * m) * 2 ^ (q - 2) := by gcongr

/-- A rational that rounds to a double is at least as near to it as to any other. -/
theorem Near.nearest (near : Near m q v) (canonical : Canonical m q) (hm' : m' < 2 ^ 53)
    (hq' : -1074 ≤ q') : |v - m * 2 ^ q| ≤ |v - m' * 2 ^ q'| := by
  have hunit : (m : ℚ) * 2 ^ q = 4 * m * 2 ^ (q - 2) := by
    rw [two_zpow_sub_two q]
    ring
  have hlow : (lowEnd m q : ℚ) * 2 ^ (q - 2) ≤ v := near.low
  have hhigh : v ≤ (4 * m + 2) * 2 ^ (q - 2) := by exact_mod_cast near.high
  rcases lt_trichotomy ((m : ℚ) * 2 ^ q) (m' * 2 ^ q') with habove | heq | hbelow
  · -- the high end is the middle between the two
    have := canonical.ge_of_gt hm' hq' habove
    rw [abs_sub_comm v (m' * 2 ^ q')]
    refine (abs_sub_le_iff.2 ⟨?_, ?_⟩).trans (le_abs_self _)
    · linarith
    · linarith
  · rw [heq]
  · -- the low end is
    have := canonical.le_of_lt hm' hq' hbelow
    refine (abs_sub_le_iff.2 ⟨?_, ?_⟩).trans (le_abs_self _)
    · linarith
    · linarith

end

/-- The significand and the exponent of a double are in range. -/
theorem bounds_of_exact {x : Number} {negative : Bool} {m : Nat} {q : Int}
    (h : x.exact = .finite negative m q) : m < 2 ^ 53 ∧ -1074 ≤ q := by
  rcases Nat.eq_zero_or_pos m with rfl | hm
  · refine ⟨by norm_num, ?_⟩
    unfold exact at h
    split_ifs at h
    all_goals
      simp only [Exact.finite.injEq] at h
      omega
  · have canonical := canonical_of_exact h hm
    exact ⟨canonical.lt, canonical.le_exponent⟩

/-- A numeral that rounds to a number denotes, with its sign, a rational at least as near to the
number as to any other finite one. -/
theorem nearest_of_near {x y : Number} {negative negative' : Bool} {m m' : Nat} {q q' : Int} {v : ℚ}
    (hx : x.exact = .finite negative m q) (hm : 0 < m) (near : Near m q v)
    (hy : y.exact = .finite negative' m' q') :
    |signedValue negative v - signedValue negative (m * 2 ^ q)| ≤
      |signedValue negative v - signedValue negative' (m' * 2 ^ q')| := by
  have canonical := canonical_of_exact hx hm
  obtain ⟨hm', hq'⟩ := bounds_of_exact hy
  rw [abs_signedValue_sub]
  by_cases hsign : negative' = negative
  · rw [hsign, abs_signedValue_sub]
    exact near.nearest canonical hm' hq'
  · -- numbers of the other sign lie behind zero
    have hv : 0 < v := near.pos hm
    have hw : (0 : ℚ) ≤ m' * 2 ^ q' := by positivity
    have zero : |v - m * 2 ^ q| ≤ |v - (0 : Nat) * 2 ^ (-1074 : Int)| :=
      near.nearest canonical (by norm_num) (Int.le_refl _)
    rw [Nat.cast_zero, zero_mul, sub_zero, abs_of_pos hv] at zero
    rw [abs_signedValue_sub_of_ne hsign hv.le hw]
    linarith

end Lisp.Number
