import Mathlib.Algebra.Order.Field.Power
import Mathlib.Tactic.FieldSimp
import Mathlib.Tactic.Linarith
import Mathlib.Tactic.NormNum
import Mathlib.Tactic.Positivity
import Mathlib.Tactic.Ring
import TaskEngine.Json.Number

/-!
# Rounding to doubles

A quotient is rounded on the grid of doubles of its own size, so the result is off by at most half a
step of that grid. Three bounds follow: a quotient up to the largest double has a nearest one, a
quotient that is rounded to less than the third largest double is less than it, and a natural number
grows by at most one part in `2 ^ 53`.
-/

namespace TaskEngine.Number

namespace Binary64

/-- The magnitude of a double. -/
def magnitude (x : Binary64) : ℚ := x.significand * (2 : ℚ) ^ x.exponent

/-! ## One step of the grid -/

/-- A rounded quotient is off by at most one half. -/
theorem divRoundEven_bounds (num : Nat) {den : Nat} (h : 0 < den) :
    2 * num ≤ (2 * divRoundEven num den + 1) * den ∧
      2 * divRoundEven num den * den ≤ 2 * num + den := by
  have hmod := Nat.mod_lt num h
  have hdiv := Nat.div_add_mod num den
  have hlow : (2 * (num / den) + 1) * den = 2 * (den * (num / den)) + den := by ring
  have hhigh : (2 * (num / den + 1) + 1) * den = 2 * (den * (num / den)) + 3 * den := by ring
  have hlow' : 2 * (num / den) * den = 2 * (den * (num / den)) := by ring
  have hhigh' : 2 * (num / den + 1) * den = 2 * (den * (num / den)) + 2 * den := by ring
  simp only [divRoundEven]
  split
  · rw [hlow, hlow']
    omega
  · split
    · rw [hhigh, hhigh']
      omega
    · split
      · rw [hlow, hlow']
        omega
      · rw [hhigh, hhigh']
        omega

/-- The significand to which a quotient is rounded at an exponent. -/
def roundAt (e : Int) (num den : Nat) : Nat :=
  if 0 ≤ e then divRoundEven num (den * 2 ^ e.toNat) else divRoundEven (num * 2 ^ (-e).toNat) den

/-- Rounding at an exponent is off by at most half a unit. -/
theorem roundAt_bounds (e : Int) (num : Nat) {den : Nat} (h : 0 < den) :
    (num : ℚ) / den ≤ (roundAt e num den + 1 / 2) * (2 : ℚ) ^ e ∧
      (roundAt e num den - 1 / 2) * (2 : ℚ) ^ e ≤ (num : ℚ) / den := by
  have hden : (0 : ℚ) < den := by exact_mod_cast h
  have hpow : (0 : ℚ) < (2 : ℚ) ^ e := by positivity
  rw [div_le_iff₀ hden, le_div_iff₀ hden]
  rw [roundAt]
  split
  · rename_i he
    obtain ⟨low, high⟩ := divRoundEven_bounds num (Nat.mul_pos h (Nat.two_pow_pos e.toNat))
    have hcast : ((2 : ℚ) ^ e) = ((2 ^ e.toNat : Nat) : ℚ) := by
      rw [Nat.cast_pow, Nat.cast_ofNat, ← zpow_natCast, Int.toNat_of_nonneg he]
    have hlow : (2 * num : ℚ) ≤ (2 * (divRoundEven num (den * 2 ^ e.toNat) : ℚ) + 1) *
        (den * ((2 ^ e.toNat : Nat) : ℚ)) := by exact_mod_cast low
    have hhigh : 2 * (divRoundEven num (den * 2 ^ e.toNat) : ℚ) *
        (den * ((2 ^ e.toNat : Nat) : ℚ)) ≤ 2 * num + den * ((2 ^ e.toNat : Nat) : ℚ) := by
      exact_mod_cast high
    rw [hcast]
    constructor <;> linarith
  · rename_i he
    obtain ⟨low, high⟩ := divRoundEven_bounds (num * 2 ^ (-e).toNat) h
    have hcast : ((2 : ℚ) ^ e)⁻¹ = ((2 ^ (-e).toNat : Nat) : ℚ) := by
      rw [Nat.cast_pow, Nat.cast_ofNat, ← zpow_natCast, Int.toNat_of_nonneg (by omega), zpow_neg]
    have hlow : (2 * (num * ((2 ^ (-e).toNat : Nat) : ℚ)) : ℚ) ≤
        (2 * (divRoundEven (num * 2 ^ (-e).toNat) den : ℚ) + 1) * den := by exact_mod_cast low
    have hhigh : 2 * (divRoundEven (num * 2 ^ (-e).toNat) den : ℚ) * den ≤
        2 * (num * ((2 ^ (-e).toNat : Nat) : ℚ)) + den := by exact_mod_cast high
    rw [← hcast] at hlow hhigh
    -- Both bounds are scaled back by the power of two.
    have hscaled : (num : ℚ) = num * ((2 : ℚ) ^ e)⁻¹ * (2 : ℚ) ^ e := by field_simp
    constructor
    · have := mul_le_mul_of_nonneg_right hlow hpow.le
      nlinarith [hscaled]
    · have := mul_le_mul_of_nonneg_right hhigh hpow.le
      nlinarith [hscaled]

/-- A quotient lies between the powers of two next to the difference of its logarithms. -/
theorem ratio_between {num den : Nat} (hnum : num ≠ 0) (hden : den ≠ 0) :
    (2 : ℚ) ^ ((num.log2 : Int) - den.log2 - 1) ≤ (num : ℚ) / den ∧
      (num : ℚ) / den < (2 : ℚ) ^ ((num.log2 : Int) - den.log2 + 1) := by
  have hpos : (0 : ℚ) < den := by exact_mod_cast Nat.pos_of_ne_zero hden
  have numLow : (2 : ℚ) ^ (num.log2 : Int) ≤ num := by exact_mod_cast Nat.log2_self_le hnum
  have numHigh : (num : ℚ) < 2 ^ ((num.log2 : Int) + 1) := by exact_mod_cast Nat.lt_log2_self
  have denLow : (2 : ℚ) ^ (den.log2 : Int) ≤ den := by exact_mod_cast Nat.log2_self_le hden
  have denHigh : (den : ℚ) < 2 ^ ((den.log2 : Int) + 1) := by exact_mod_cast Nat.lt_log2_self
  rw [le_div_iff₀ hpos, div_lt_iff₀ hpos]
  constructor
  · calc (2 : ℚ) ^ ((num.log2 : Int) - den.log2 - 1) * den
        ≤ 2 ^ ((num.log2 : Int) - den.log2 - 1) * 2 ^ ((den.log2 : Int) + 1) := by gcongr
      _ = 2 ^ (num.log2 : Int) := by rw [← zpow_add₀ two_ne_zero]; congr 1; ring
      _ ≤ num := numLow
  · calc (num : ℚ) < 2 ^ ((num.log2 : Int) + 1) := numHigh
      _ = 2 ^ ((num.log2 : Int) - den.log2 + 1) * 2 ^ (den.log2 : Int) := by
        rw [← zpow_add₀ two_ne_zero]; congr 1; ring
      _ ≤ 2 ^ ((num.log2 : Int) - den.log2 + 1) * den := by gcongr

/-- The comparison by which the exponent is corrected. -/
theorem tooSmall_iff (e : Int) (num : Nat) {den : Nat} (h : 0 < den) :
    (if 0 ≤ e then decide (den * 2 ^ e.toNat * 2 ^ 53 ≤ num)
      else decide (den * 2 ^ 53 ≤ num * 2 ^ (-e).toNat)) = true ↔
      (2 : ℚ) ^ (e + 53) ≤ (num : ℚ) / den := by
  have hden : (0 : ℚ) < den := by exact_mod_cast h
  have hpow : (0 : ℚ) < (2 : ℚ) ^ e := by positivity
  rw [le_div_iff₀ hden, zpow_add₀ two_ne_zero]
  split
  · rename_i he
    rw [show ((2 : ℚ) ^ e) = ((2 ^ e.toNat : Nat) : ℚ) by
      rw [Nat.cast_pow, Nat.cast_ofNat, ← zpow_natCast, Int.toNat_of_nonneg he]]
    rw [decide_eq_true_iff, ← Nat.cast_le (α := ℚ)]
    push_cast
    ring_nf
  · rename_i he
    rw [decide_eq_true_iff, ← Nat.cast_le (α := ℚ)]
    push_cast
    rw [show ((2 : ℚ) ^ (-e).toNat) = ((2 : ℚ) ^ e)⁻¹ by
      rw [← zpow_natCast, Int.toNat_of_nonneg (by omega), zpow_neg]]
    rw [← div_eq_mul_inv, le_div_iff₀ hpow]
    ring_nf

/-- The exponent at which a quotient is rounded fits its size. -/
theorem roundingExponent_spec {num den : Nat} (hnum : 0 < num) (hden : 0 < den) :
    -1074 ≤ roundingExponent num den ∧
      (num : ℚ) / den < (2 : ℚ) ^ (roundingExponent num den + 53) ∧
      (roundingExponent num den = -1074 ∨
        (2 : ℚ) ^ (roundingExponent num den + 52) ≤ (num : ℚ) / den) := by
  obtain ⟨low, high⟩ := ratio_between hnum.ne' hden.ne'
  simp only [roundingExponent, Nat.pow_eq]
  generalize hguess : max ((num.log2 : Int) - den.log2 - 53) (-1074) = guess
  simp only [tooSmall_iff guess num hden]
  split
  · rename_i h
    refine ⟨by omega, high.trans_le ?_, .inr ?_⟩
    · exact zpow_le_zpow_right₀ one_le_two (by omega)
    · rwa [show guess + 1 + 52 = guess + 53 by ring]
  · rename_i h
    refine ⟨by omega, not_le.mp h, ?_⟩
    rcases eq_or_ne guess (-1074) with hleast | hmore
    · exact .inl hleast
    · exact .inr ((zpow_le_zpow_right₀ one_le_two (by omega)).trans low)

/-- The rank of the nearest double puts its exponent and its significand together. -/
theorem nearestRank_eq (num den : Nat) :
    nearestRank num den = (roundingExponent num den + 1074).toNat * 2 ^ 52 +
      roundAt (roundingExponent num den) num den := by
  simp only [nearestRank, roundAt, Nat.pow_eq]

/-- Natural numbers compare as they do with half a unit to spare. -/
theorem le_of_halves {a b : Nat} (h : (a : ℚ) - 1 / 2 < b + 1 / 2) : a ≤ b := by
  have hlt : (a : ℚ) < ((b + 1 : Nat) : ℚ) := by
    push_cast
    linarith
  exact Nat.lt_succ_iff.mp (Nat.cast_lt.mp hlt)

/-- The significand of a rounded quotient has at most one digit too many, and so many that it is
normal unless the quotient is among the smallest. -/
theorem roundAt_roundingExponent {num den : Nat} (hnum : 0 < num) (hden : 0 < den) :
    roundAt (roundingExponent num den) num den ≤ 2 ^ 53 ∧
      (roundingExponent num den = -1074 ∨
        2 ^ 52 ≤ roundAt (roundingExponent num den) num den) := by
  obtain ⟨-, high, low⟩ := roundingExponent_spec hnum hden
  obtain ⟨above, below⟩ := roundAt_bounds (roundingExponent num den) num hden
  generalize roundingExponent num den = e at *
  generalize roundAt e num den = m at *
  have hpow : (0 : ℚ) < (2 : ℚ) ^ e := by positivity
  constructor
  · rw [zpow_add₀ two_ne_zero, mul_comm] at high
    have hlt : (m : ℚ) - 1 / 2 < 2 ^ (53 : Int) :=
      lt_of_mul_lt_mul_right (below.trans_lt high) hpow.le
    refine le_of_halves (hlt.trans ?_)
    norm_num
  · refine low.imp_right fun low => ?_
    rw [zpow_add₀ two_ne_zero, mul_comm] at low
    have hle : (2 : ℚ) ^ (52 : Int) ≤ m + 1 / 2 :=
      le_of_mul_le_mul_right (low.trans above) hpow
    refine le_of_halves (lt_of_lt_of_le ?_ hle)
    norm_num

/-- The largest finite double. -/
def largest : ℚ := (2 ^ 53 - 1) * 2 ^ (971 : Int)

/-- The third largest finite double. -/
def thirdLargest : ℚ := (2 ^ 53 - 3) * 2 ^ (971 : Int)

/-- A quotient up to the largest double is rounded to one. -/
theorem nearestRank_lt {num den : Nat} (hnum : 0 < num) (hden : 0 < den)
    (h : (num : ℚ) / den ≤ largest) : nearestRank num den < rankBound := by
  obtain ⟨hleast, -, low⟩ := roundingExponent_spec hnum hden
  obtain ⟨hround, -⟩ := roundAt_roundingExponent hnum hden
  obtain ⟨-, below⟩ := roundAt_bounds (roundingExponent num den) num hden
  rw [nearestRank_eq, rankBound, Nat.pow_eq]
  generalize roundingExponent num den = e at *
  generalize roundAt e num den = m at *
  have hexponent : e ≤ 971 := by
    by_contra hlarge
    have low := (low.resolve_left (by omega)).trans h
    have hstep : (2 : ℚ) ^ (1024 : Int) ≤ 2 ^ (e + 52) :=
      zpow_le_zpow_right₀ one_le_two (by omega)
    have hlargest : largest < 2 ^ (1024 : Int) := by
      rw [largest, show (1024 : Int) = 53 + 971 by rfl, zpow_add₀ two_ne_zero]
      exact mul_lt_mul_of_pos_right (by norm_num) (by positivity)
    exact absurd (hstep.trans low) hlargest.not_ge
  rcases hexponent.lt_or_eq with hless | rfl
  · have : (e + 1074).toNat ≤ 2044 := by omega
    omega
  · have hle : (m : ℚ) - 1 / 2 ≤ 2 ^ 53 - 1 :=
      le_of_mul_le_mul_right (below.trans h) (by positivity)
    have hm : m ≤ 2 ^ 53 - 1 := le_of_halves (hle.trans_lt (by norm_num))
    omega

/-- A quotient from the third largest double on is rounded to that or more. -/
theorem le_nearestRank {num den : Nat} (hnum : 0 < num) (hden : 0 < den)
    (h : thirdLargest ≤ (num : ℚ) / den) : rankBound - 3 ≤ nearestRank num den := by
  obtain ⟨hleast, high, -⟩ := roundingExponent_spec hnum hden
  obtain ⟨-, hnormal⟩ := roundAt_roundingExponent hnum hden
  obtain ⟨above, -⟩ := roundAt_bounds (roundingExponent num den) num hden
  rw [nearestRank_eq, rankBound, Nat.pow_eq]
  generalize roundingExponent num den = e at *
  generalize roundAt e num den = m at *
  have hexponent : 971 ≤ e := by
    by_contra hsmall
    have hstep : (2 : ℚ) ^ (e + 53) ≤ 2 ^ (1023 : Int) :=
      zpow_le_zpow_right₀ one_le_two (by omega)
    have hlarge : (2 : ℚ) ^ (1023 : Int) ≤ thirdLargest := by
      rw [thirdLargest, show (1023 : Int) = 52 + 971 by rfl, zpow_add₀ two_ne_zero]
      exact mul_le_mul_of_nonneg_right (by norm_num) (by positivity)
    exact absurd (h.trans_lt (high.trans_le hstep)) hlarge.not_gt
  rcases hexponent.lt_or_eq with hmore | rfl
  · have := hnormal.resolve_left (by omega)
    have : 2046 ≤ (e + 1074).toNat := by omega
    omega
  · have hle : (2 : ℚ) ^ 53 - 3 ≤ m + 1 / 2 :=
      le_of_mul_le_mul_right (h.trans above) (by positivity)
    have hm : 2 ^ 53 - 3 ≤ m := le_of_halves (lt_of_lt_of_le (by norm_num) hle)
    omega

/-! ## Magnitudes -/

/-- The magnitude of the double that an exponent and a significand put together. -/
theorem magnitude_of_rank {x : Binary64} {k m : Nat} (hrank : x.rank = k * 2 ^ 52 + m)
    (hround : m ≤ 2 ^ 53) (hnormal : k = 0 ∨ 2 ^ 52 ≤ m) :
    x.magnitude = m * (2 : ℚ) ^ ((k : Int) - 1074) := by
  rw [magnitude, significand, exponent, hrank, Nat.pow_eq]
  by_cases hsmall : k * 2 ^ 52 + m < 2 ^ 52
  · have hk : k = 0 := by omega
    subst hk
    simp only [if_pos hsmall]
    norm_num
  · simp only [if_neg hsmall]
    rcases hround.lt_or_eq with hless | rfl
    · obtain ⟨low, rfl⟩ : ∃ low, m = 2 ^ 52 + low := ⟨m - 2 ^ 52, by omega⟩
      have hmod : (k * 2 ^ 52 + (2 ^ 52 + low)) % 2 ^ 52 = low := by omega
      have hdiv : (k * 2 ^ 52 + (2 ^ 52 + low)) / 2 ^ 52 = k + 1 := by omega
      rw [hmod, hdiv, show ((k + 1 : Nat) : Int) - 1075 = k - 1074 by push_cast; ring, add_comm low]
    · have hmod : (k * 2 ^ 52 + 2 ^ 53) % 2 ^ 52 = 0 := by omega
      have hdiv : (k * 2 ^ 52 + 2 ^ 53) / 2 ^ 52 = k + 2 := by omega
      rw [hmod, hdiv, show ((k + 2 : Nat) : Int) - 1075 = (k : Int) - 1074 + 1 by push_cast; ring,
        zpow_add_one₀ two_ne_zero]
      push_cast
      ring

/-- The double of a natural number exceeds it by at most one part in `2 ^ 53`. -/
theorem exists_ofRatio?_one (negative : Bool) {n : Nat} (h : (n : ℚ) ≤ largest) :
    ∃ x, ofRatio? negative n 1 = some x ∧ x.magnitude ≤ n * (1 + 1 / 2 ^ 53) := by
  rcases Nat.eq_zero_or_pos n with rfl | hpos
  · refine ⟨⟨negative, 0, by decide⟩, rfl, ?_⟩
    simp [magnitude, significand]
  have hrank := nearestRank_lt hpos Nat.one_pos (by simpa using h)
  refine ⟨⟨negative, nearestRank n 1, hrank⟩, by rw [ofRatio?, if_neg hpos.ne', dif_pos hrank], ?_⟩
  obtain ⟨hleast, high, low⟩ := roundingExponent_spec hpos Nat.one_pos
  obtain ⟨hround, hnormal⟩ := roundAt_roundingExponent hpos Nat.one_pos
  obtain ⟨-, below⟩ := roundAt_bounds (roundingExponent n 1) n Nat.one_pos
  have heq := nearestRank_eq n 1
  generalize roundingExponent n 1 = e at *
  generalize roundAt e n 1 = m at *
  rw [Nat.cast_one, div_one] at high low below
  have hone : (1 : ℚ) ≤ n := by exact_mod_cast hpos
  -- A number from one on is far above the smallest doubles.
  have he : e ≠ -1074 := by
    rintro rfl
    exact absurd (hone.trans_lt high) (zpow_le_one_of_nonpos₀ one_le_two (by norm_num)).not_gt
  have low := low.resolve_left he
  rw [magnitude_of_rank heq hround (hnormal.imp_left fun h => absurd h he),
    show (((e + 1074).toNat : Nat) : Int) - 1074 = e by omega]
  rw [zpow_add₀ two_ne_zero, mul_comm] at low
  norm_num at low ⊢
  linarith

/-- The magnitude is the quotient by which a double is computed with. -/
theorem ratio_eq_magnitude (x : Binary64) :
    0 < x.ratio.2 ∧ (x.ratio.1 : ℚ) / x.ratio.2 = x.magnitude := by
  simp only [ratio, magnitude, Nat.pow_eq]
  split
  · rename_i h
    refine ⟨Nat.one_pos, ?_⟩
    push_cast
    rw [div_one, ← zpow_natCast, Int.toNat_of_nonneg h]
  · rename_i h
    refine ⟨Nat.two_pow_pos _, ?_⟩
    push_cast
    rw [← zpow_natCast, Int.toNat_of_nonneg (by omega), zpow_neg, div_inv_eq_mul]

/-- Magnitudes whose product does not exceed the largest double can be multiplied. -/
theorem isSome_mul? {x y : Binary64} (h : x.magnitude * y.magnitude ≤ largest) :
    (x.mul? y).isSome = true := by
  obtain ⟨hx, hxratio⟩ := x.ratio_eq_magnitude
  obtain ⟨hy, hyratio⟩ := y.ratio_eq_magnitude
  rw [← hxratio, ← hyratio, div_mul_div_comm] at h
  rw [mul?, ofRatio?]
  split
  · rfl
  · rename_i hzero
    have hrank := nearestRank_lt (Nat.pos_of_ne_zero hzero) (Nat.mul_pos hx hy)
      (by push_cast; exact h)
    rw [dif_pos hrank]
    rfl

end Binary64

end TaskEngine.Number
