import Lisp.Number.Basic
import Mathlib.Algebra.Order.Field.Power
import Mathlib.Algebra.Order.Field.Rat
import Mathlib.Tactic.FieldSimp
import Mathlib.Tactic.Linarith
import Mathlib.Tactic.NormNum
import Mathlib.Tactic.Positivity
import Mathlib.Tactic.Ring

/-!
# Rounding to the nearest double

Every rational that lies nearer to a double than to its neighbours is packed into that double. The
reals that round to `m·2^q` reach half a unit up and half a unit down, but only a quarter down where
the gap below is half as wide. The ends belong to it when `m` is even.

## Main definitions

* `Number.Canonical` — the significands and exponents of positive doubles
* `Number.Near` — the rationals that round to `m·2^q`

## Main results

* `Number.packBits_of_near` — what is near a double is packed into its bits
* `Number.pack_of_near` — the same with a sign
-/

namespace Lisp.Number

variable {num den r m : Nat} {q e : Int} {v : ℚ}

/-! ### Rounding a quotient -/

/-- The only integers in reach of a quotient are its floor and the next one. -/
theorem roundDiv_eq (hden : 0 < den) (low : 2 * (r * den) ≤ 2 * num + den)
    (high : 2 * num ≤ 2 * (r * den) + den)
    (tie : 2 * (r * den) = 2 * num + den ∨ 2 * num = 2 * (r * den) + den → r % 2 = 0) :
    roundDiv num den = r := by
  have hnum : den * (num / den) + num % den = num := Nat.div_add_mod num den
  have hrem : num % den < den := Nat.mod_lt num hden
  have hcomm : r * den = den * r := Nat.mul_comm r den
  have below : num / den ≤ r := by
    by_contra h
    have : den * (r + 1) ≤ den * (num / den) := Nat.mul_le_mul_left den (by omega)
    rw [Nat.mul_add] at this
    omega
  have above : r ≤ num / den + 1 := by
    by_contra h
    have : den * (num / den + 2) ≤ den * r := Nat.mul_le_mul_left den (by omega)
    rw [Nat.mul_add] at this
    omega
  rw [hcomm] at low high tie
  unfold roundDiv
  dsimp only
  rcases Nat.eq_or_lt_of_le below with hr | hr
  · rw [hr] at hnum ⊢
    split_ifs <;> omega
  · obtain rfl : r = num / den + 1 := by omega
    rw [Nat.mul_add] at low high tie
    split_ifs <;> omega

theorem roundDiv_of_near (hden : 0 < den) (low : (r : ℚ) - 1 / 2 ≤ num / den)
    (high : (num : ℚ) / den ≤ r + 1 / 2)
    (tie : (r : ℚ) - 1 / 2 = num / den ∨ (num : ℚ) / den = r + 1 / 2 → r % 2 = 0) :
    roundDiv num den = r := by
  have hpos : (0 : ℚ) < den := by exact_mod_cast hden
  rw [le_div_iff₀ hpos] at low
  rw [div_le_iff₀ hpos] at high
  rw [eq_div_iff hpos.ne', div_eq_iff hpos.ne'] at tie
  refine roundDiv_eq hden ?_ ?_ ?_
  · have : (2 * (r * den) : ℚ) ≤ 2 * num + den := by linarith
    exact_mod_cast this
  · have : (2 * num : ℚ) ≤ 2 * (r * den) + den := by linarith
    exact_mod_cast this
  · rintro (h | h)
    · have : (2 * (r * den) : ℚ) = 2 * num + den := by exact_mod_cast h
      exact tie (.inl (by linarith))
    · have : (2 * num : ℚ) = 2 * (r * den) + den := by exact_mod_cast h
      exact tie (.inr (by linarith))

theorem two_zpow_of_nonneg (h : 0 ≤ q) : (2 : ℚ) ^ q = ((2 ^ q.toNat : Nat) : ℚ) := by
  obtain ⟨n, rfl⟩ := Int.eq_ofNat_of_zero_le h
  simp

theorem two_zpow_of_nonpos (h : q ≤ 0) : (2 : ℚ) ^ q = ((2 ^ (-q).toNat : Nat) : ℚ)⁻¹ := by
  rw [← two_zpow_of_nonneg (by omega), zpow_neg, inv_inv]

theorem scaled_of_near (hden : 0 < den) (low : (r : ℚ) - 1 / 2 ≤ num / den / 2 ^ q)
    (high : (num : ℚ) / den / 2 ^ q ≤ r + 1 / 2)
    (tie : (r : ℚ) - 1 / 2 = num / den / 2 ^ q ∨ (num : ℚ) / den / 2 ^ q = r + 1 / 2 →
      r % 2 = 0) :
    scaled num den q = r := by
  unfold scaled
  split
  · next h =>
    have hq : (num : ℚ) / den / 2 ^ q = num / ((den * 2 ^ q.toNat : Nat) : ℚ) := by
      rw [two_zpow_of_nonneg h, div_div, Nat.cast_mul]
    rw [hq] at low high tie
    exact roundDiv_of_near (by positivity) low high tie
  · next h =>
    have hq : (num : ℚ) / den / 2 ^ q = ((num * 2 ^ (-q).toNat : Nat) : ℚ) / den := by
      rw [two_zpow_of_nonpos (by omega), div_inv_eq_mul, Nat.cast_mul, div_mul_eq_mul_div]
    rw [hq] at low high tie
    exact roundDiv_of_near hden low high tie

/-! ### The leading bit of a quotient -/

theorem log2_bounds {n : Nat} (h : 0 < n) :
    (2 : ℚ) ^ (n.log2 : Int) ≤ n ∧ (n : ℚ) < 2 ^ ((n.log2 : Int) + 1) := by
  have low : 2 ^ n.log2 ≤ n := Nat.log2_self_le (by omega)
  have high : n < 2 ^ (n.log2 + 1) := Nat.lt_log2_self
  constructor
  · exact_mod_cast low
  · exact_mod_cast high

theorem div_lt_two_zpow_iff (hden : 0 < den) :
    (num : ℚ) / den < 2 ^ e ↔
      if e ≥ 0 then num < den * 2 ^ e.toNat else num * 2 ^ (-e).toNat < den := by
  have hpos : (0 : ℚ) < den := by exact_mod_cast hden
  split
  · next h =>
    rw [two_zpow_of_nonneg h, div_lt_iff₀ hpos, mul_comm]
    exact_mod_cast Iff.rfl
  · next h =>
    rw [two_zpow_of_nonpos (by omega), ← one_div, div_lt_div_iff₀ hpos (by positivity), one_mul]
    exact_mod_cast Iff.rfl

theorem floorLog2_bounds (hnum : 0 < num) (hden : 0 < den) :
    (2 : ℚ) ^ floorLog2 num den ≤ num / den ∧ (num : ℚ) / den < 2 ^ (floorLog2 num den + 1) := by
  have hpos : (0 : ℚ) < den := by exact_mod_cast hden
  obtain ⟨lowNum, highNum⟩ := log2_bounds hnum
  obtain ⟨lowDen, highDen⟩ := log2_bounds hden
  -- the difference of the two logarithms is at most one too high
  have low : (2 : ℚ) ^ ((num.log2 : Int) - den.log2 - 1) ≤ num / den := by
    rw [le_div_iff₀ hpos]
    calc (2 : ℚ) ^ ((num.log2 : Int) - den.log2 - 1) * den
        ≤ 2 ^ ((num.log2 : Int) - den.log2 - 1) * 2 ^ ((den.log2 : Int) + 1) := by gcongr
      _ = 2 ^ (num.log2 : Int) := by rw [← zpow_add₀ two_ne_zero]; congr 1; omega
      _ ≤ num := lowNum
  have high : (num : ℚ) / den < 2 ^ ((num.log2 : Int) - den.log2 + 1) := by
    rw [div_lt_iff₀ hpos]
    calc (num : ℚ) < 2 ^ ((num.log2 : Int) + 1) := highNum
      _ = 2 ^ ((num.log2 : Int) - den.log2 + 1) * 2 ^ (den.log2 : Int) := by
        rw [← zpow_add₀ two_ne_zero]; congr 1; omega
      _ ≤ 2 ^ ((num.log2 : Int) - den.log2 + 1) * den := by gcongr
  have below : (num : ℚ) / den < 2 ^ ((num.log2 : Int) - den.log2) ↔ _ :=
    div_lt_two_zpow_iff hden
  unfold floorLog2
  dsimp only
  by_cases h : (num : ℚ) / den < 2 ^ ((num.log2 : Int) - den.log2)
  · rw [if_pos (below.1 h), Int.sub_add_cancel]
    exact ⟨low, h⟩
  · rw [if_neg fun hlt => h (below.2 hlt)]
    exact ⟨not_lt.1 h, high⟩

theorem floorLog2_eq (hnum : 0 < num) (hden : 0 < den) (low : (2 : ℚ) ^ e ≤ num / den)
    (high : (num : ℚ) / den < 2 ^ (e + 1)) : floorLog2 num den = e := by
  obtain ⟨low', high'⟩ := floorLog2_bounds hnum hden
  have h₁ : e < floorLog2 num den + 1 :=
    (zpow_lt_zpow_iff_right₀ one_lt_two).1 (low.trans_lt high')
  have h₂ : floorLog2 num den < e + 1 :=
    (zpow_lt_zpow_iff_right₀ one_lt_two).1 (low'.trans_lt high)
  omega

/-! ### What is near a double -/

/-- The significands and exponents of positive doubles. -/
structure Canonical (m : Nat) (q : Int) : Prop where
  pos : 0 < m
  lt : m < 2 ^ 53
  le_exponent : -1074 ≤ q
  exponent_le : q ≤ 971
  normal : q = -1074 ∨ 2 ^ 52 ≤ m

/-- How far down, in quarters of a unit, the reals reach that round to `m·2^q`. -/
def lowEnd (m : Nat) (q : Int) : Nat :=
  if m = 2 ^ 52 ∧ q > -1074 then 4 * m - 1 else 4 * m - 2

/-- The rationals that round to `m·2^q`, the ends included if `m` is even. -/
structure Near (m : Nat) (q : Int) (v : ℚ) : Prop where
  low : (lowEnd m q : ℚ) * 2 ^ (q - 2) ≤ v
  high : v ≤ (4 * m + 2 : Nat) * 2 ^ (q - 2)
  low_tie : (lowEnd m q : ℚ) * 2 ^ (q - 2) = v → m % 2 = 0
  high_tie : v = (4 * m + 2 : Nat) * 2 ^ (q - 2) → m % 2 = 0

theorem two_zpow_sub_two (q : Int) : (2 : ℚ) ^ q = 4 * 2 ^ (q - 2) := by
  rw [zpow_sub₀ two_ne_zero]
  norm_num
  field_simp

theorem two_zpow_add (q : Int) (n : Nat) : (2 : ℚ) ^ (q + n) = 2 ^ (n + 2) * 2 ^ (q - 2) := by
  rw [zpow_add₀ two_ne_zero, two_zpow_sub_two q, zpow_natCast]
  ring

theorem lowEnd_ge (hm : 0 < m) : (4 * m - 2 : ℚ) ≤ lowEnd m q := by
  have : 4 * m ≤ lowEnd m q + 2 := by
    unfold lowEnd
    split_ifs <;> omega
  have : (4 * m : ℚ) ≤ lowEnd m q + 2 := by exact_mod_cast this
  linarith

namespace Near

theorem pos (h : Near m q v) (hm : 0 < m) : 0 < v := by
  have : 0 < lowEnd m q := by
    unfold lowEnd
    split_ifs <;> omega
  have : (0 : ℚ) < lowEnd m q := by exact_mod_cast this
  exact lt_of_lt_of_le (by positivity) h.low

theorem lt (h : Near m q v) (hm : m < 2 ^ 53) : v < 2 ^ (q + 53) := by
  have hp : (0 : ℚ) < 2 ^ (q - 2) := by positivity
  have hnat : 4 * m + 2 < 2 ^ 55 := by omega
  have : ((4 * m + 2 : Nat) : ℚ) < 2 ^ 55 := by exact_mod_cast hnat
  calc v ≤ (4 * m + 2 : Nat) * 2 ^ (q - 2) := h.high
    _ < 2 ^ 55 * 2 ^ (q - 2) := by gcongr
    _ = 2 ^ (q + 53) := (two_zpow_add q 53).symm

end Near

theorem scaled_of_quarters (hden : 0 < den)
    (low : (4 * r - 2 : ℚ) * 2 ^ (q - 2) ≤ num / den)
    (high : (num : ℚ) / den ≤ (4 * r + 2) * 2 ^ (q - 2))
    (tie : (4 * r - 2 : ℚ) * 2 ^ (q - 2) = num / den ∨
      (num : ℚ) / den = (4 * r + 2) * 2 ^ (q - 2) → r % 2 = 0) :
    scaled num den q = r := by
  have hp : (0 : ℚ) < 2 ^ q := by positivity
  have unit := two_zpow_sub_two q
  apply scaled_of_near hden
  · rw [le_div_iff₀ hp, unit]
    linarith
  · rw [div_le_iff₀ hp, unit]
    linarith
  · rw [eq_div_iff hp.ne', div_eq_iff hp.ne', unit]
    rintro (h | h)
    · exact tie (.inl (by linarith))
    · exact tie (.inr (by linarith))

theorem packBits_of_scaled (hnum : 0 < num)
    (exponent : max (-1074) (floorLog2 num den - 52) = q) (significand : scaled num den q = r) :
    packBits num den = min ((q + 1074).toNat * 2 ^ 52 + r) (2047 * 2 ^ 52) := by
  simp only [packBits, Nat.ne_of_gt hnum, if_false, exponent, significand]

/-- A quotient near a double is packed into its bits if its leading bit is where the double has it,
or if the double is at the bottom. -/
theorem packBits_of_near_inside (canonical : Canonical m q) (hnum : 0 < num) (hden : 0 < den)
    (near : Near m q ((num : ℚ) / den)) (inside : (2 : ℚ) ^ (q + 52) ≤ num / den ∨ q = -1074) :
    packBits num den = (q + 1074).toNat * 2 ^ 52 + m := by
  obtain ⟨hpos, hlt, hq, hq', normal⟩ := canonical
  have exponent : max (-1074) (floorLog2 num den - 52) = q := by
    rcases inside with h | h
    · rw [floorLog2_eq hnum hden h (by simpa [add_assoc] using near.lt hlt)]
      omega
    · have : floorLog2 num den < q + 53 := by
        apply (zpow_lt_zpow_iff_right₀ (one_lt_two (α := ℚ))).1
        exact (floorLog2_bounds hnum hden).1.trans_lt (near.lt hlt)
      omega
  have hle : (4 * m - 2 : ℚ) * 2 ^ (q - 2) ≤ lowEnd m q * 2 ^ (q - 2) := by
    gcongr
    exact lowEnd_ge hpos
  have significand : scaled num den q = m := by
    refine scaled_of_quarters hden (hle.trans near.low) (by exact_mod_cast near.high) ?_
    rintro (h | h)
    · exact near.low_tie (le_antisymm near.low (h ▸ hle))
    · exact near.high_tie (by exact_mod_cast h)
  rw [packBits_of_scaled hnum exponent significand]
  omega

/-- A quotient in the last quarter below a power of two, where doubles are twice as dense, is packed
into the bits of that power. -/
theorem packBits_of_near_below (hnum : 0 < num) (hden : 0 < den) (hq : -1074 < q) (hq' : q ≤ 971)
    (low : (2 ^ 54 - 1 : ℚ) * 2 ^ (q - 2) ≤ num / den) (high : (num : ℚ) / den < 2 ^ (q + 52)) :
    packBits num den = (q + 1074).toNat * 2 ^ 52 + 2 ^ 52 := by
  have hp : (0 : ℚ) < 2 ^ (q - 2) := by positivity
  have exponent : max (-1074) (floorLog2 num den - 52) = q - 1 := by
    have half : (2 : ℚ) ^ (q + 51) = 2 ^ 53 * 2 ^ (q - 2) := two_zpow_add q 51
    have above : (2 : ℚ) ^ (q + 51) ≤ num / den := by
      rw [half]
      linarith
    rw [floorLog2_eq hnum hden above (by simpa [add_assoc] using high)]
    omega
  have significand : scaled num den (q - 1) = 2 ^ 53 := by
    have half : (2 : ℚ) ^ (q - 2) = 2 * 2 ^ (q - 1 - 2) := by
      rw [← zpow_one_add₀ two_ne_zero]
      congr 1
      omega
    have top : (2 : ℚ) ^ (q + 52) = 2 ^ 54 * 2 ^ (q - 2) := two_zpow_add q 52
    rw [top] at high
    rw [half] at low high
    refine scaled_of_quarters hden ?_ ?_ (fun _ => by norm_num)
    · norm_num at low ⊢
      linarith
    · norm_num at high ⊢
      linarith
  rw [packBits_of_scaled hnum exponent significand]
  omega

/-- What is near a double is packed into its bits. -/
theorem packBits_of_near (canonical : Canonical m q) (hden : 0 < den)
    (near : Near m q ((num : ℚ) / den)) : packBits num den = (q + 1074).toNat * 2 ^ 52 + m := by
  have hden' : (0 : ℚ) < den := by exact_mod_cast hden
  have hnum : 0 < num := by
    have := near.pos canonical.pos
    rw [div_pos_iff_of_pos_right hden'] at this
    exact_mod_cast this
  by_cases inside : (2 : ℚ) ^ (q + 52) ≤ num / den ∨ q = -1074
  · exact packBits_of_near_inside canonical hnum hden near inside
  · -- only the reals that round to a power of two reach below the place of its leading bit
    push Not at inside
    have hp : (0 : ℚ) < 2 ^ (q - 2) := by positivity
    have bottom : (2 : ℚ) ^ (q + 52) = 2 ^ 54 * 2 ^ (q - 2) := two_zpow_add q 52
    obtain ⟨-, hlt, hq, hq', normal⟩ := canonical
    obtain ⟨rfl, hlow⟩ : m = 2 ^ 52 ∧ lowEnd m q = 4 * m - 1 := by
      have : (lowEnd m q : ℚ) < 2 ^ 54 :=
        lt_of_mul_lt_mul_right (near.low.trans_lt (bottom ▸ inside.1)) hp.le
      have : lowEnd m q < 2 ^ 54 := by exact_mod_cast this
      unfold lowEnd at this ⊢
      split_ifs at this ⊢ <;> omega
    have low : (2 ^ 54 - 1 : ℚ) * 2 ^ (q - 2) ≤ num / den := by
      have := near.low
      rw [hlow] at this
      norm_num at this ⊢
      exact this
    exact packBits_of_near_below hnum hden (by omega) hq' low inside.1

/-! ### Doubles by their bits -/

section Exact

variable {x : Number} {negative : Bool}

theorem bits_of_exact (h : x.exact = .finite negative m q) :
    x.bits.toNat = (q + 1074).toNat * 2 ^ 52 + m + if negative then 2 ^ 63 else 0 := by
  have hlt : x.bits.toNat < 2 ^ 64 := x.bits.toNat_lt
  unfold exact at h
  unfold exponentField fractionField isNegative at h
  split_ifs at h with h₁ h₂ h₃
  all_goals
    simp only [Exact.finite.injEq] at h
    obtain ⟨rfl, rfl, rfl⟩ := h
    simp only [decide_eq_true_eq]
    split_ifs <;> omega

theorem canonical_of_exact (h : x.exact = .finite negative m q) (hm : 0 < m) : Canonical m q := by
  unfold exact at h
  unfold exponentField fractionField at h
  split_ifs at h with h₁ h₂ h₃
  all_goals
    simp only [Exact.finite.injEq] at h
    obtain ⟨-, rfl, rfl⟩ := h
    constructor <;> omega

theorem packBits_le (num den : Nat) : packBits num den ≤ 2047 * 2 ^ 52 := by
  unfold packBits
  split_ifs
  · omega
  · exact Nat.min_le_right _ _

theorem pack_eq_iff {num den : Nat} :
    pack negative num den = x ↔
      x.bits.toNat = packBits num den + if negative then 2 ^ 63 else 0 := by
  have hle := packBits_le num den
  obtain ⟨bits⟩ := x
  have hsize : (packBits num den + if negative then 2 ^ 63 else 0) < 2 ^ 64 := by
    split_ifs <;> omega
  unfold pack
  rw [mk.injEq, ← UInt64.toNat_inj, UInt64.toNat_ofNat_of_lt' hsize]
  exact eq_comm

/-- What is near a double is packed into it. -/
theorem pack_of_near (h : x.exact = .finite negative m q) (hm : 0 < m) (hden : 0 < den)
    (near : Near m q ((num : ℚ) / den)) : pack negative num den = x := by
  rw [pack_eq_iff, packBits_of_near (canonical_of_exact h hm) hden near]
  exact bits_of_exact h

end Exact

end Lisp.Number
