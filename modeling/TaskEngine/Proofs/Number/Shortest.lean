import TaskEngine.Number.Shortest
import TaskEngine.Proofs.Number.Rounding

/-!
# Values of shortest digits

The digits that are written for a double read back as that double, or are its exact expansion.
Either way their value is positive, and below the third largest double when the double itself is.
-/

namespace TaskEngine.Number

/-- The value of a decimal. -/
def Decimal.value (d : Decimal) : ℚ := d.digits * (10 : ℚ) ^ d.scale

/-- Zeros at the end are moved without a change of the value. -/
theorem Decimal.value_stripZeros (fuel : Nat) (d : Decimal) :
    (d.stripZeros fuel).value = d.value := by
  induction fuel generalizing d with
  | zero => rfl
  | succ fuel ih =>
    rw [stripZeros]
    split
    · rename_i h
      rw [ih, value, value]
      have hdigits : (d.digits : ℚ) = (d.digits / 10 : Nat) * 10 := by
        exact_mod_cast (Nat.div_mul_cancel (Nat.dvd_of_mod_eq_zero h.2)).symm
      rw [hdigits, zpow_add_one₀ (by norm_num)]
      ring
    · rfl

namespace Binary64

/-- A decimal that is nearest to a double is positive with it, and stays below the third largest. -/
theorem value_of_readsBackAs {d : Decimal} {x : Binary64} (h : d.readsBackAs x = true)
    (hzero : x.rank ≠ 0) : 0 < d.value ∧ (x.rank < rankBound - 3 → d.value < thirdLargest) := by
  have hdigits : d.digits ≠ 0 := by
    intro hnone
    have hread : ofDecimal? false d.digits d.scale = some zero := by
      rw [hnone, ofDecimal?]
      split
      · rw [Nat.zero_mul]
        rfl
      · rfl
    rw [Decimal.readsBackAs, hread] at h
    exact hzero (Option.some.inj (beq_iff_eq.mp h)).symm
  have hpos : 0 < d.value := by
    rw [Decimal.value]
    have : (0 : ℚ) < d.digits := by exact_mod_cast Nat.pos_of_ne_zero hdigits
    positivity
  refine ⟨hpos, fun hless => ?_⟩
  -- The decimal as the quotient that is rounded.
  obtain ⟨num, den, hnum, hden, hratio, hrounded⟩ : ∃ num den : Nat, 0 < num ∧ 0 < den ∧
      d.value = (num : ℚ) / den ∧ ofDecimal? false d.digits d.scale = ofRatio? false num den := by
    have hdigits := Nat.pos_of_ne_zero hdigits
    simp only [ofDecimal?, Decimal.value, Nat.pow_eq]
    split
    · rename_i hscale
      refine ⟨_, 1, by positivity, Nat.one_pos, ?_, rfl⟩
      push_cast
      rw [div_one, ← zpow_natCast, Int.toNat_of_nonneg hscale]
    · refine ⟨_, _, hdigits, by positivity, ?_, rfl⟩
      push_cast
      rw [← zpow_natCast, Int.toNat_of_nonneg (by omega), zpow_neg, div_inv_eq_mul]
  by_contra hlarge
  have hbound := le_nearestRank hnum hden (by rw [← hratio]; exact not_lt.mp hlarge)
  rw [Decimal.readsBackAs, hrounded, ofRatio?, if_neg hnum.ne'] at h
  split at h
  · have hrank : nearestRank num den = x.rank := Option.some.inj (beq_iff_eq.mp h)
    exact absurd (hrank ▸ hless) hbound.not_gt
  · simp at h

/-- The exact expansion has the value of the double. -/
theorem value_exactDecimal (x : Binary64) : x.exactDecimal.value = x.magnitude := by
  simp only [exactDecimal, magnitude, Nat.pow_eq]
  split
  · rename_i h
    rw [Decimal.value]
    push_cast
    rw [mul_one, ← zpow_natCast, Int.toNat_of_nonneg h]
  · rename_i h
    rw [Decimal.value]
    push_cast
    rw [← zpow_natCast, Int.toNat_of_nonneg (by omega), zpow_neg, show (10 : ℚ) = 5 * 2 by norm_num,
      mul_zpow]
    field_simp

/-- The rank as an exponent and a significand. -/
theorem exists_rank_eq (x : Binary64) : ∃ k m : Nat, x.rank = k * 2 ^ 52 + m ∧ m < 2 ^ 53 ∧
    (k = 0 ∨ 2 ^ 52 ≤ m) := by
  refine ⟨x.rank / 2 ^ 52 - 1, x.rank - (x.rank / 2 ^ 52 - 1) * 2 ^ 52, ?_, ?_, ?_⟩ <;> omega

/-- Doubles below the third largest in rank are below it in value, and positive from rank one on. -/
theorem magnitude_bounds {x : Binary64} (hzero : x.rank ≠ 0) :
    0 < x.magnitude ∧ (x.rank < rankBound - 3 → x.magnitude < thirdLargest) := by
  obtain ⟨k, m, hrank, hround, hnormal⟩ := x.exists_rank_eq
  have hfinite := x.finite
  rw [magnitude_of_rank hrank hround.le hnormal]
  rw [rankBound, Nat.pow_eq] at hfinite ⊢
  constructor
  · have : (0 : ℚ) < m := by
      rw [Nat.cast_pos]
      omega
    positivity
  · intro hless
    rw [hrank] at hless
    rcases Nat.lt_or_ge k 2045 with hk | hk
    · calc (m : ℚ) * 2 ^ ((k : Int) - 1074) ≤ 2 ^ 53 * 2 ^ (970 : Int) := by
            refine mul_le_mul (by exact_mod_cast hround.le)
              (zpow_le_zpow_right₀ one_le_two (by omega)) (by positivity) (by positivity)
        _ < thirdLargest := by
          rw [thirdLargest, show (971 : Int) = 1 + 970 by rfl, zpow_add₀ two_ne_zero, ← mul_assoc]
          exact mul_lt_mul_of_pos_right (by norm_num) (by positivity)
    · have hk : k = 2045 := by omega
      subst hk
      have hm : m < 2 ^ 53 - 3 := by omega
      have hcast : (m : ℚ) < (2 ^ 53 - 3 : Nat) := by exact_mod_cast hm
      rw [thirdLargest, show (((2045 : Nat) : Int) - 1074) = 971 by rfl]
      refine mul_lt_mul_of_pos_right (hcast.trans_eq ?_) (by positivity)
      norm_num

/-- What is found on a grid reads back. -/
theorem readsBackAs_of_withDigits? {x : Binary64} {count : Nat} {d : Decimal}
    (h : x.withDigits? count = some d) : d.readsBackAs x = true := by
  simp only [withDigits?] at h
  split at h
  · cases h
  · rename_i hlow _
    cases h
    exact hlow
  · rename_i hhigh
    cases h
    exact hhigh
  · rename_i hlow hhigh
    split_ifs at h
    · cases h
      exact hlow
    · cases h
      exact hhigh
    · cases h
      exact hlow
    · cases h
      exact hhigh

/-- The digits that are written for a double have a value like its own. -/
theorem value_shortest {x : Binary64} (hzero : x.rank ≠ 0) :
    0 < x.shortest.value ∧ (x.rank < rankBound - 3 → x.shortest.value < thirdLargest) := by
  rw [shortest, if_neg hzero, Decimal.value_stripZeros]
  cases hfound : (List.range 17).findSome? fun count => x.withDigits? (count + 1) with
  | none =>
    rw [Option.getD_none, value_exactDecimal]
    exact magnitude_bounds hzero
  | some d =>
    obtain ⟨count, -, hd⟩ := List.exists_of_findSome?_eq_some hfound
    exact value_of_readsBackAs (readsBackAs_of_withDigits? hd) hzero

/-- A double that is not zero has digits other than zero. -/
theorem digits_shortest_ne_zero {x : Binary64} (hzero : x.rank ≠ 0) : x.shortest.digits ≠ 0 := by
  intro hnone
  have hpos := (value_shortest hzero).1
  rw [Decimal.value, hnone] at hpos
  simp at hpos

end Binary64

end TaskEngine.Number
