import HashIf.Decimal.Binary64
import Mathlib.Algebra.Order.Field.Power
import Mathlib.Algebra.Order.Field.Rat
import Mathlib.Data.Nat.Cast.Order.Field
import Mathlib.Tactic.FieldSimp
import Mathlib.Tactic.Linarith
import Mathlib.Tactic.NormNum
import Mathlib.Tactic.Positivity
import Mathlib.Tactic.Ring

/-!
# `HashIf.Proofs.Rounding`: rounding a fraction to a double

Rounding works on numerators and denominators, and what it does depends on the rational number only.
The doubles that it gives are canonical, and a canonical double is rounded to itself.

## Contents
- `floorLog2_le`, `lt_floorLog2`, `floorLog2_eq`: the binary exponent of a fraction.
- `roundHalfEven_congr`, `ofRatio_congr`: equal fractions are rounded alike.
- `Canonical`, `ofRatio_canonical`: the doubles that rounding gives.
- `ofRatio_of_canonical`: a fraction that is a canonical double is rounded to it.
-/

namespace HashIf

/-! ## Powers and fractions -/

/-- A scaled fraction has the value of the fraction divided by the power. -/
theorem scaleRatio_div {base : Nat} (hbase : 0 < base) (num den : Nat) (e : Int) :
    ((scaleRatio base num den e).1 : ℚ) / (scaleRatio base num den e).2
      = (num : ℚ) / den / (base : ℚ) ^ e := by
  have hne : (base : ℚ) ≠ 0 := Nat.cast_ne_zero.mpr (Nat.pos_iff_ne_zero.mp hbase)
  unfold scaleRatio
  split
  · rename_i he
    obtain ⟨k, rfl⟩ := Int.eq_ofNat_of_zero_le he
    simp only [Int.toNat_natCast, Nat.pow_eq, Nat.cast_mul, Nat.cast_pow, zpow_natCast]
    rw [div_div]
  · rename_i he
    obtain ⟨k, hk⟩ := Int.eq_ofNat_of_zero_le (show 0 ≤ -e by omega)
    obtain rfl : e = -(k : Int) := by omega
    simp only [neg_neg, Int.toNat_natCast, Nat.pow_eq, Nat.cast_mul, Nat.cast_pow, zpow_neg,
      zpow_natCast, div_inv_eq_mul]
    rw [mul_div_right_comm]

theorem scaleRatio_snd_pos {base : Nat} (hbase : 0 < base) (num : Nat) {den : Nat} (hden : 0 < den)
    (e : Int) : 0 < (scaleRatio base num den e).2 := by
  unfold scaleRatio
  split
  · exact Nat.mul_pos hden (Nat.pow_pos hbase)
  · exact hden

/-- The comparison with a power is a comparison of rational numbers. -/
theorem powLeRatio_iff {base : Nat} (hbase : 0 < base) (num : Nat) {den : Nat} (hden : 0 < den)
    (e : Int) : powLeRatio base num den e = true ↔ (base : ℚ) ^ e ≤ (num : ℚ) / den := by
  have hpos : (0 : ℚ) < (scaleRatio base num den e).2 :=
    Nat.cast_pos.mpr (scaleRatio_snd_pos hbase num hden e)
  have hpow : (0 : ℚ) < (base : ℚ) ^ e := zpow_pos (Nat.cast_pos.mpr hbase) e
  have hdiv := scaleRatio_div hbase num den e
  unfold powLeRatio
  rw [decide_eq_true_iff, ← @Nat.cast_le ℚ, ← one_le_div hpos, hdiv, one_le_div hpow]

/-! ## The binary exponent of a fraction -/

theorem two_zpow_log2_le {n : Nat} (hn : 0 < n) : (2 : ℚ) ^ (Nat.log2 n : Int) ≤ n := by
  rw [zpow_natCast]
  exact_mod_cast Nat.log2_self_le (Nat.pos_iff_ne_zero.mp hn)

theorem lt_two_zpow_log2 (n : Nat) : (n : ℚ) < 2 ^ ((Nat.log2 n : Int) + 1) := by
  have h : n < 2 ^ (Nat.log2 n + 1) := Nat.lt_log2_self
  calc (n : ℚ) < ((2 ^ (Nat.log2 n + 1) : Nat) : ℚ) := Nat.cast_lt.mpr h
    _ = 2 ^ ((Nat.log2 n : Int) + 1) := by
      rw [Nat.cast_pow, Nat.cast_ofNat, ← zpow_natCast, Nat.cast_add, Nat.cast_one]

section

variable {num den : Nat}

/-- The power of two at the exponent is at most the fraction. -/
theorem floorLog2_le (hnum : 0 < num) (hden : 0 < den) :
    (2 : ℚ) ^ floorLog2 num den ≤ (num : ℚ) / den := by
  have hd : (0 : ℚ) < den := Nat.cast_pos.mpr hden
  unfold floorLog2
  dsimp only
  split
  · rename_i h
    exact_mod_cast (powLeRatio_iff (by decide) num hden _).mp h
  · rw [le_div_iff₀ hd]
    calc (2 : ℚ) ^ ((Nat.log2 num : Int) - Nat.log2 den - 1) * den
        ≤ 2 ^ ((Nat.log2 num : Int) - Nat.log2 den - 1) * 2 ^ ((Nat.log2 den : Int) + 1) :=
          mul_le_mul_of_nonneg_left (lt_two_zpow_log2 den).le (zpow_nonneg (by norm_num) _)
      _ = 2 ^ (Nat.log2 num : Int) := by
          rw [← zpow_add₀ (by norm_num)]
          congr 1
          omega
      _ ≤ num := two_zpow_log2_le hnum

/-- The next power of two is above the fraction. -/
theorem lt_floorLog2 (hden : 0 < den) : (num : ℚ) / den < 2 ^ (floorLog2 num den + 1) := by
  have hd : (0 : ℚ) < den := Nat.cast_pos.mpr hden
  unfold floorLog2
  dsimp only
  split
  · rw [div_lt_iff₀ hd]
    calc (num : ℚ) < 2 ^ ((Nat.log2 num : Int) + 1) := lt_two_zpow_log2 num
      _ = 2 ^ ((Nat.log2 num : Int) - Nat.log2 den + 1) * 2 ^ (Nat.log2 den : Int) := by
          rw [← zpow_add₀ (by norm_num)]
          congr 1
          omega
      _ ≤ 2 ^ ((Nat.log2 num : Int) - Nat.log2 den + 1) * den :=
          mul_le_mul_of_nonneg_left (two_zpow_log2_le hden) (zpow_nonneg (by norm_num) _)
  · rename_i h
    rw [powLeRatio_iff (by decide) num hden, not_le] at h
    rw [sub_add_cancel]
    exact_mod_cast h

/-- **The exponent is determined by its two powers.** -/
theorem floorLog2_eq (hnum : 0 < num) (hden : 0 < den) {e : Int}
    (hle : (2 : ℚ) ^ e ≤ (num : ℚ) / den) (hlt : (num : ℚ) / den < 2 ^ (e + 1)) :
    floorLog2 num den = e := by
  have h₁ : e < floorLog2 num den + 1 :=
    (zpow_lt_zpow_iff_right₀ (by norm_num)).mp (lt_of_le_of_lt hle (lt_floorLog2 hden))
  have h₂ : floorLog2 num den < e + 1 :=
    (zpow_lt_zpow_iff_right₀ (by norm_num)).mp (lt_of_le_of_lt (floorLog2_le hnum hden) hlt)
  omega

end

/-! ## Rounding to a natural number -/

theorem roundHalfEven_mul_left {c : Nat} (hc : 0 < c) (num den : Nat) :
    roundHalfEven (c * num) (c * den) = roundHalfEven num den := by
  unfold roundHalfEven
  simp only [Nat.mul_div_mul_left _ _ hc, Nat.mul_mod_mul_left, Nat.mul_left_comm 2 c,
    Nat.mul_lt_mul_left hc]

/-- **Equal fractions are rounded to the same number.** -/
theorem roundHalfEven_congr {a b a' b' : Nat} (hb : 0 < b) (hb' : 0 < b')
    (h : (a : ℚ) / b = (a' : ℚ) / b') : roundHalfEven a b = roundHalfEven a' b' := by
  have hcross : a * b' = a' * b := by
    rw [div_eq_div_iff (Nat.cast_ne_zero.mpr hb.ne') (Nat.cast_ne_zero.mpr hb'.ne')] at h
    exact_mod_cast h
  calc roundHalfEven a b = roundHalfEven (b' * a) (b' * b) := (roundHalfEven_mul_left hb' a b).symm
    _ = roundHalfEven (b * a') (b * b') := by
        rw [Nat.mul_comm b' a, hcross, Nat.mul_comm a' b, Nat.mul_comm b' b]
    _ = roundHalfEven a' b' := roundHalfEven_mul_left hb a' b'

/-- A natural number is rounded to itself. -/
theorem roundHalfEven_of_eq {a b n : Nat} (hb : 0 < b) (h : (a : ℚ) / b = n) :
    roundHalfEven a b = n := by
  have hone : roundHalfEven a b = roundHalfEven n 1 :=
    roundHalfEven_congr hb Nat.one_pos (by rw [h, Nat.cast_one, div_one])
  rw [hone]
  unfold roundHalfEven
  simp only [Nat.div_one, Nat.mod_one, Nat.mul_zero, Nat.one_pos, if_true]

theorem div_le_roundHalfEven (a b : Nat) : a / b ≤ roundHalfEven a b := by
  unfold roundHalfEven
  dsimp only
  split_ifs <;> omega

theorem roundHalfEven_le (a b : Nat) : roundHalfEven a b ≤ a / b + 1 := by
  unfold roundHalfEven
  dsimp only
  split_ifs <;> omega

theorem le_roundHalfEven {a b n : Nat} (hb : 0 < b) (h : (n : ℚ) ≤ (a : ℚ) / b) :
    n ≤ roundHalfEven a b := by
  rw [le_div_iff₀ (Nat.cast_pos.mpr hb)] at h
  have hdiv : n ≤ a / b := (Nat.le_div_iff_mul_le hb).mpr (by exact_mod_cast h)
  exact hdiv.trans (div_le_roundHalfEven a b)

theorem roundHalfEven_le_of_lt {a b n : Nat} (hb : 0 < b) (h : (a : ℚ) / b < n) :
    roundHalfEven a b ≤ n := by
  rw [div_lt_iff₀ (Nat.cast_pos.mpr hb)] at h
  have hdiv : a / b < n := (Nat.div_lt_iff_lt_mul hb).mpr (by exact_mod_cast h)
  exact (roundHalfEven_le a b).trans hdiv

namespace Binary64

/-! ## Rounding to a double -/

/-- The exponent of the double that a fraction is rounded to, before a carry. -/
def roundingExponent (num den : Nat) : Int := max (floorLog2 num den - 52) minExponent

/-- The mantissa that a fraction is rounded to, before a carry. -/
def roundingMantissa (num den : Nat) : Nat :=
  let s := scaleRatio 2 num den (roundingExponent num den)
  roundHalfEven s.1 s.2

theorem ofRatio_eq {num : Nat} (hnum : 0 < num) (negative : Bool) (den : Nat) :
    ofRatio negative num den =
      if roundingMantissa num den = mantissaBound then
        if maxExponent < roundingExponent num den + 1 then .infinite negative
        else .finite negative (mantissaBound / 2) (roundingExponent num den + 1)
      else if maxExponent < roundingExponent num den then .infinite negative
      else .finite negative (roundingMantissa num den) (roundingExponent num den) := by
  unfold ofRatio
  rw [if_neg hnum.ne']
  dsimp only
  rw [← roundingExponent, ← roundingMantissa]
  by_cases hcarry : roundingMantissa num den = mantissaBound
  · rw [if_pos hcarry, if_pos hcarry]
  · rw [if_neg hcarry, if_neg hcarry]

/-- The mantissa is the fraction in units of its last place, rounded. -/
theorem scaled_value (num den : Nat) :
    ((scaleRatio 2 num den (roundingExponent num den)).1 : ℚ)
        / (scaleRatio 2 num den (roundingExponent num den)).2
      = (num : ℚ) / den / 2 ^ roundingExponent num den := by
  exact_mod_cast @scaleRatio_div 2 (by decide) num den (roundingExponent num den)

section

variable {num den num' den' : Nat}

/-- **Equal fractions are rounded to the same double.** -/
theorem ofRatio_congr (hden : 0 < den) (hden' : 0 < den')
    (h : (num : ℚ) / den = (num' : ℚ) / den') (negative : Bool) :
    ofRatio negative num den = ofRatio negative num' den' := by
  have hd : (den : ℚ) ≠ 0 := Nat.cast_ne_zero.mpr hden.ne'
  have hd' : (den' : ℚ) ≠ 0 := Nat.cast_ne_zero.mpr hden'.ne'
  by_cases hnum : num = 0
  · have hzero : (num' : ℚ) / den' = 0 := by rw [← h, hnum, Nat.cast_zero, zero_div]
    have hnum' : num' = 0 := by exact_mod_cast (div_eq_zero_iff.mp hzero).resolve_right hd'
    rw [hnum, hnum']
    rfl
  have hnum' : num' ≠ 0 := by
    intro hzero
    rw [hzero, Nat.cast_zero, zero_div, div_eq_zero_iff] at h
    exact hnum (by exact_mod_cast h.resolve_right hd)
  have hpos : 0 < num := Nat.pos_of_ne_zero hnum
  have hpos' : 0 < num' := Nat.pos_of_ne_zero hnum'
  -- Exponent and mantissa are fixed by inequalities between rational numbers.
  have hlog : floorLog2 num den = floorLog2 num' den' :=
    floorLog2_eq hpos hden (h ▸ floorLog2_le hpos' hden') (h ▸ lt_floorLog2 hden')
  have hexp : roundingExponent num den = roundingExponent num' den' := by
    unfold roundingExponent
    rw [hlog]
  have hmant : roundingMantissa num den = roundingMantissa num' den' := by
    refine roundHalfEven_congr (scaleRatio_snd_pos (by decide) num hden _)
      (scaleRatio_snd_pos (by decide) num' hden' _) ?_
    rw [scaled_value, scaled_value, h, hexp]
  rw [ofRatio_eq hpos, ofRatio_eq hpos', hexp, hmant]

/-- A mantissa and an exponent as rounding gives them: all the bits of the mantissa are used unless the
    exponent is the least one. -/
structure Canonical (m : Nat) (e : Int) : Prop where
  mantissa_lt : m < mantissaBound
  exponent_ge : minExponent ≤ e
  exponent_le : e ≤ maxExponent
  normal : mantissaBound / 2 ≤ m ∨ e = minExponent

/-- The mantissa has at most one bit too many, and that only by a carry. -/
theorem roundingMantissa_le (hden : 0 < den) : roundingMantissa num den ≤ mantissaBound := by
  refine roundHalfEven_le_of_lt (scaleRatio_snd_pos (by decide) num hden _) ?_
  rw [scaled_value, div_lt_iff₀ (zpow_pos (by norm_num) _)]
  calc (num : ℚ) / den < 2 ^ (floorLog2 num den + 1) := lt_floorLog2 hden
    _ ≤ 2 ^ (53 + roundingExponent num den) := by
        refine zpow_le_zpow_right₀ (by norm_num) ?_
        have := le_max_left (floorLog2 num den - 52) minExponent
        unfold roundingExponent
        omega
    _ = (mantissaBound : ℚ) * 2 ^ roundingExponent num den := by
        rw [zpow_add₀ (by norm_num)]
        norm_num [mantissaBound]

/-- The leading bit of the mantissa is used unless the exponent is the least one. -/
theorem le_roundingMantissa (hnum : 0 < num) (hden : 0 < den)
    (h : roundingExponent num den ≠ minExponent) :
    mantissaBound / 2 ≤ roundingMantissa num den := by
  have hexp : roundingExponent num den = floorLog2 num den - 52 := by
    unfold roundingExponent at h ⊢
    omega
  refine le_roundHalfEven (scaleRatio_snd_pos (by decide) num hden _) ?_
  rw [scaled_value, le_div_iff₀ (zpow_pos (by norm_num) _), hexp]
  calc ((mantissaBound / 2 : Nat) : ℚ) * 2 ^ (floorLog2 num den - 52)
      = 2 ^ floorLog2 num den := by
        rw [zpow_sub₀ (by norm_num)]
        norm_num [mantissaBound]
        ring
    _ ≤ (num : ℚ) / den := floorLog2_le hnum hden

/-- **What rounding gives is canonical**, and keeps the sign. -/
theorem ofRatio_canonical (hden : 0 < den) {negative s : Bool} {m : Nat} {e : Int}
    (h : ofRatio negative num den = .finite s m e) : s = negative ∧ Canonical m e := by
  by_cases hnum : num = 0
  · unfold ofRatio at h
    rw [if_pos hnum] at h
    cases h
    exact ⟨rfl, by decide, le_refl _, by decide, .inr rfl⟩
  have hpos : 0 < num := Nat.pos_of_ne_zero hnum
  have hge : minExponent ≤ roundingExponent num den := le_max_right _ _
  rw [ofRatio_eq hpos] at h
  split at h
  · split at h
    · cases h
    · rename_i hle
      cases h
      exact ⟨rfl, by decide, by omega, not_lt.mp hle, .inl (le_refl _)⟩
  · rename_i hcarry
    split at h
    · cases h
    · rename_i hle
      cases h
      refine ⟨rfl, lt_of_le_of_ne (roundingMantissa_le hden) hcarry, hge, not_lt.mp hle, ?_⟩
      by_cases hmin : roundingExponent num den = minExponent
      · exact .inr hmin
      · exact .inl (le_roundingMantissa hpos hden hmin)

/-- **A fraction that is a canonical double is rounded to it.** -/
theorem ofRatio_of_canonical {m : Nat} {e : Int} (hc : Canonical m e) (hm : 0 < m) (hden : 0 < den)
    (h : (num : ℚ) / den = m * 2 ^ e) (negative : Bool) :
    ofRatio negative num den = .finite negative m e := by
  have hd : (0 : ℚ) < den := Nat.cast_pos.mpr hden
  have hm' : (0 : ℚ) < m := Nat.cast_pos.mpr hm
  have hpow : (0 : ℚ) < 2 ^ e := zpow_pos (by norm_num) e
  have hnum : 0 < num := by
    have : (0 : ℚ) < (num : ℚ) / den := h ▸ mul_pos hm' hpow
    exact_mod_cast (div_pos_iff_of_pos_right hd).mp this
  -- The exponent of the fraction is that of the mantissa, shifted.
  have hlog : floorLog2 num den = (Nat.log2 m : Int) + e := by
    refine floorLog2_eq hnum hden ?_ ?_
    · rw [h, zpow_add₀ (by norm_num)]
      exact mul_le_mul_of_nonneg_right (two_zpow_log2_le hm) hpow.le
    · rw [h, add_right_comm, zpow_add₀ (by norm_num)]
      exact mul_lt_mul_of_pos_right (lt_two_zpow_log2 m) hpow
  have hbits : Nat.log2 m ≤ 52 := by
    have : Nat.log2 m < 53 := (Nat.log2_lt hm.ne').mpr hc.mantissa_lt
    omega
  -- A full mantissa fixes the exponent; a shorter one is only possible at the least exponent.
  have hexp : roundingExponent num den = e := by
    have hge := hc.exponent_ge
    unfold roundingExponent
    rw [hlog]
    rcases hc.normal with hnormal | hmin
    · have : 52 ≤ Nat.log2 m := (Nat.le_log2 hm.ne').mpr hnormal
      omega
    · omega
  have hmant : roundingMantissa num den = m := by
    refine roundHalfEven_of_eq (scaleRatio_snd_pos (by decide) num hden _) ?_
    rw [scaled_value, h, hexp, mul_div_cancel_right₀ _ hpow.ne']
  have hlt := hc.mantissa_lt
  rw [ofRatio_eq hnum, hmant, hexp, if_neg hlt.ne, if_neg (not_lt.mpr hc.exponent_le)]

end

end Binary64

end HashIf
