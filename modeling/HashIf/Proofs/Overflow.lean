import HashIf.Proofs.Numerals

/-!
# `HashIf.Proofs.Overflow`: which decimals are too large for a double

A decimal is rounded to a finite double exactly if it is less than half a unit above the largest one.  At the
greatest exponent the decision is the last rounding of the mantissa: the mantissa below the carry is odd, so
a tie is rounded up and is infinite already.

## Contents
- `le_roundHalfEven_iff`: rounding up to an even number.
- `Binary64.overflowBound`: half a unit above the largest double.
- `Binary64.ofRatio_finite_iff`, `Binary64.ofDecimal_finite_iff`: what is finite.
-/

namespace HashIf

/-- **A fraction is rounded up to an even number exactly from half a unit below it on.** -/
theorem le_roundHalfEven_iff {a b n : Nat} (hb : 0 < b) (heven : n % 2 = 0) :
    n ≤ roundHalfEven a b ↔ (2 * n : ℚ) - 1 ≤ 2 * ((a : ℚ) / b) := by
  have hdiv : a = b * (a / b) + a % b := (Nat.div_add_mod a b).symm
  have hmod : a % b < b := Nat.mod_lt a hb
  have hbq : (0 : ℚ) < b := Nat.cast_pos.mpr hb
  have hcast : (2 * n : ℚ) - 1 ≤ 2 * ((a : ℚ) / b) ↔ 2 * n * b ≤ 2 * a + b := by
    rw [← mul_div_assoc, le_div_iff₀ hbq, sub_mul, one_mul, sub_le_iff_le_add]
    exact_mod_cast Iff.rfl
  rw [hcast]
  unfold roundHalfEven
  dsimp only
  generalize a / b = q at *
  generalize a % b = r at *
  subst hdiv
  rcases Nat.lt_trichotomy n (q + 1) with hlt | rfl | hgt
  · have hle : n * b ≤ b * q := by
      rw [Nat.mul_comm b q]
      exact Nat.mul_le_mul_right b (Nat.le_of_lt_succ hlt)
    have h1 : n ≤ if 2 * r < b then q else if b < 2 * r then q + 1 else if q % 2 = 0 then q else q + 1 := by
      split_ifs <;> omega
    rw [Nat.mul_assoc]
    exact iff_of_true h1 (by omega)
  · have hodd : q % 2 ≠ 0 := by omega
    have hmul : 2 * (q + 1) * b = 2 * (b * q) + 2 * b := by ring
    rw [hmul]
    split_ifs <;> omega
  · have hle : 2 * (q + 2) * b ≤ 2 * n * b := Nat.mul_le_mul_right b (by omega)
    have hmul : 2 * (q + 2) * b = 2 * (b * q) + 4 * b := by ring
    rw [hmul] at hle
    refine iff_of_false ?_ (by omega)
    split_ifs <;> omega

namespace Binary64

/-- Half a unit above the largest double: `2 ^ 1024 - 2 ^ 970`. -/
def overflowBound : ℚ := (2 * mantissaBound - 1) * 2 ^ (maxExponent - 1)

section

variable {num den : Nat}

theorem roundingExponent_bounds (hnum : 0 < num) (hden : 0 < den) :
    (num : ℚ) / den < 2 ^ (roundingExponent num den + 53)
      ∧ (minExponent < roundingExponent num den →
        (2 : ℚ) ^ (roundingExponent num den + 52) ≤ (num : ℚ) / den) := by
  have hle := le_max_left (floorLog2 num den - 52) minExponent
  constructor
  · refine lt_of_lt_of_le (lt_floorLog2 hden) (zpow_le_zpow_right₀ (by norm_num) ?_)
    unfold roundingExponent
    omega
  · intro h
    refine le_trans (zpow_le_zpow_right₀ (by norm_num) ?_) (floorLog2_le hnum hden)
    unfold roundingExponent at h ⊢
    omega

/-- At the greatest exponent the mantissa has a bit too many exactly from the bound on. -/
theorem roundingMantissa_eq_bound_iff (hden : 0 < den)
    (hexp : roundingExponent num den = maxExponent) :
    roundingMantissa num den = mantissaBound ↔ overflowBound ≤ (num : ℚ) / den := by
  have hle : roundingMantissa num den ≤ mantissaBound := roundingMantissa_le hden
  have hround : mantissaBound ≤ roundingMantissa num den ↔ _ :=
    le_roundHalfEven_iff (scaleRatio_snd_pos (by decide) num hden _) (by decide)
  have htwice : 2 * ((num : ℚ) / den / 2 ^ maxExponent) = (num : ℚ) / den / 2 ^ (maxExponent - 1) := by
    rw [zpow_sub_one₀ (by norm_num)]
    field_simp
  rw [scaled_value, hexp, htwice, le_div_iff₀ (zpow_pos (by norm_num) _)] at hround
  rw [overflowBound, ← hround]
  exact ⟨fun h => h.ge, fun h => le_antisymm hle h⟩

theorem two_zpow_le_overflowBound : (2 : ℚ) ^ (maxExponent + 52) ≤ overflowBound := by
  have hsplit : (2 : ℚ) ^ (maxExponent + 52) = 2 ^ (53 : Int) * 2 ^ (maxExponent - 1) := by
    rw [← zpow_add₀ (by norm_num)]
    congr 1
  rw [hsplit, overflowBound]
  exact mul_le_mul_of_nonneg_right (by norm_num [mantissaBound]) (zpow_nonneg (by norm_num) _)

theorem overflowBound_le_two_zpow : overflowBound ≤ (2 : ℚ) ^ (maxExponent + 53) := by
  have hsplit : (2 : ℚ) ^ (maxExponent + 53) = 2 ^ (54 : Int) * 2 ^ (maxExponent - 1) := by
    rw [← zpow_add₀ (by norm_num)]
    congr 1
  rw [hsplit, overflowBound]
  exact mul_le_mul_of_nonneg_right (by norm_num [mantissaBound]) (zpow_nonneg (by norm_num) _)

/-- **A fraction is rounded to a finite double exactly if it is below the bound.** -/
theorem ofRatio_finite_iff (hnum : 0 < num) (hden : 0 < den) (negative : Bool) :
    (∃ s m e, ofRatio negative num den = .finite s m e) ↔ (num : ℚ) / den < overflowBound := by
  obtain ⟨hlt, hge⟩ := roundingExponent_bounds hnum hden
  rw [ofRatio_eq hnum]
  rcases lt_trichotomy (roundingExponent num den) maxExponent with hexp | hexp | hexp
  · -- Even a carry stays within the exponents.
    have hbelow : (num : ℚ) / den < overflowBound := by
      refine lt_of_lt_of_le hlt (le_trans (zpow_le_zpow_right₀ (by norm_num) ?_) two_zpow_le_overflowBound)
      omega
    have hcarry : ¬ maxExponent < roundingExponent num den + 1 := by omega
    have hplain : ¬ maxExponent < roundingExponent num den := by omega
    rw [if_neg hcarry, if_neg hplain]
    refine iff_of_true ?_ hbelow
    split
    · exact ⟨_, _, _, rfl⟩
    · exact ⟨_, _, _, rfl⟩
  · -- A carry leaves the exponents, and nothing else does.
    have hcarry : maxExponent < roundingExponent num den + 1 := by omega
    have hplain : ¬ maxExponent < roundingExponent num den := by omega
    rw [if_pos hcarry, if_neg hplain, ← not_le]
    by_cases hfull : roundingMantissa num den = mantissaBound
    · rw [if_pos hfull]
      refine iff_of_false (by simp) (not_not.mpr ?_)
      exact (roundingMantissa_eq_bound_iff hden hexp).mp hfull
    · rw [if_neg hfull]
      refine iff_of_true ⟨_, _, _, rfl⟩ ?_
      exact mt (roundingMantissa_eq_bound_iff hden hexp).mpr hfull
  · have habove : overflowBound ≤ (num : ℚ) / den := by
      have hmin : minExponent < maxExponent := by decide
      refine le_trans (overflowBound_le_two_zpow.trans (zpow_le_zpow_right₀ (by norm_num) ?_))
        (hge (hmin.trans hexp))
      omega
    have hcarry : maxExponent < roundingExponent num den + 1 := by omega
    rw [if_pos hcarry, if_pos hexp, ite_self]
    exact iff_of_false (by simp) (not_lt.mpr habove)

end

/-- **A decimal is rounded to a finite double exactly if its value is below the bound.** -/
theorem ofDecimal_finite_iff (d : Decimal) (negative : Bool) :
    (∃ s m e, ofDecimal negative d = .finite s m e) ↔ d.value < overflowBound := by
  have hpos : (0 : ℚ) < overflowBound := lt_of_lt_of_le (zpow_pos (by norm_num) _) two_zpow_le_overflowBound
  by_cases hd : d.digits = 0
  · rw [Decimal.value_eq_zero.mpr hd, ofDecimal, if_pos hd]
    exact iff_of_true ⟨_, _, _, rfl⟩ hpos
  by_cases htop : 310 ≤ d.point
  · have habove : overflowBound ≤ d.value := by
      calc overflowBound ≤ 2 ^ (maxExponent + 53) := overflowBound_le_two_zpow
        _ = mantissaBound * 2 ^ maxExponent := by
            rw [zpow_add₀ (by norm_num)]
            norm_num [mantissaBound]
            ring
        _ ≤ 10 ^ (309 : Int) := largest_lt_ten_pow.le
        _ ≤ 10 ^ (d.point - 1) := zpow_le_zpow_right₀ (by norm_num) (by omega)
        _ ≤ d.value := Decimal.le_value hd
    have hinfinite : ofDecimal negative d = .infinite negative := by
      unfold ofDecimal
      rw [if_neg hd]
      exact if_pos htop
    rw [hinfinite]
    exact iff_of_false (by simp) (not_lt.mpr habove)
  by_cases hbottom : d.point ≤ -324
  · have hbelow : d.value < overflowBound := by
      calc d.value < 10 ^ d.point := d.value_lt
        _ ≤ 10 ^ (-324 : Int) := zpow_le_zpow_right₀ (by norm_num) hbottom
        _ ≤ 2 ^ minExponent := ten_pow_lt_least.le
        _ ≤ 2 ^ (maxExponent + 52) := zpow_le_zpow_right₀ (by norm_num) (by decide)
        _ ≤ overflowBound := two_zpow_le_overflowBound
    have hzero : ofDecimal negative d = zero negative := by
      unfold ofDecimal
      rw [if_neg hd]
      exact (if_neg htop).trans (if_pos hbottom)
    rw [hzero]
    exact iff_of_true ⟨_, _, _, rfl⟩ hbelow
  · obtain ⟨num, den, hden, hvalue, heq⟩ :=
      ofDecimal_eq_ofRatio hd (not_le.mp hbottom) (not_le.mp htop) negative
    have hnum : 0 < num := by
      rw [Nat.pos_iff_ne_zero]
      rintro rfl
      rw [Nat.cast_zero, zero_div] at hvalue
      exact hd (Decimal.value_eq_zero.mp hvalue.symm)
    rw [heq, ← hvalue]
    exact ofRatio_finite_iff hnum hden negative

end Binary64

end HashIf
