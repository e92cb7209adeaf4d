import HashIf.Number
import HashIf.Proofs.Rounding
import Mathlib.Data.List.TakeWhile

/-!
# `HashIf.Proofs.Numerals`: a number reads back from its text

A decimal is read by its value: two decimals of the same value are read as the same double.  The digits
that are written for a double are found by a search that tests each candidate, and behind the search
stands the exact expansion, which reads back because the double is canonical.  Setting the digits out
around a point and reading them again keeps the value.

## Contents
- `ofDigits_append`, `ofDigits_lt`, `digitCount_le_iff`: rows of digits.
- `Decimal.value`, `ofDecimal_congr`: the double of a decimal depends on its value.
- `ofDecimal_shortest`: the shortest digits of a double read back.
- `Decimal.SetOut`, `Decimal.setOut_positional`: digits around a point have the value of the decimal.
- `Number.Readable`, `Number.Readable.ofNumeral_plain`: the text of a number is a numeral for it.
-/

namespace HashIf

/-! ## Rows of digits -/

theorem ofDigits_append (xs ys : List Char) :
    ofDigits (xs ++ ys) = ofDigits xs * 10 ^ ys.length + ofDigits ys := by
  have h := @Nat.ofDigitChars_eq_ofDigitChars_zero ys (ofDigits xs)
  have happend := @Nat.ofDigitChars_append 10 xs ys 0
  rw [Nat.mul_comm] at h
  exact happend.trans h

theorem ofDigits_toDigits (n : Nat) : ofDigits (Nat.toDigits 10 n) = n :=
  Nat.ofDigitChars_ten_toDigits

theorem ofDigits_zeros (n : Nat) : ofDigits (zeros n) = 0 := by
  have h := @Nat.ofDigitChars_replicate_zero 10 0 n
  rw [Nat.mul_zero] at h
  exact h

theorem isDigit_toDigits {n : Nat} {c : Char} (h : c ∈ Nat.toDigits 10 n) : c.isDigit = true :=
  Nat.isDigit_of_mem_toDigits (by decide) (by decide) h

theorem isDigit_zeros {n : Nat} {c : Char} (h : c ∈ zeros n) : c.isDigit = true := by
  rw [List.eq_of_mem_replicate h]
  rfl

theorem digit_le_nine {c : Char} (h : c.isDigit = true) : c.toNat - 0x30 ≤ 9 := by
  have hle : c.toNat ≤ 57 := (Bool.and_eq_true_iff.mp h).2 |> of_decide_eq_true
  omega

/-- A row of digits denotes less than the power of ten of its length. -/
theorem ofDigits_lt {ds : List Char} (h : ∀ c ∈ ds, c.isDigit = true) :
    ofDigits ds < 10 ^ ds.length := by
  induction ds with
  | nil => decide
  | cons c cs ih =>
      obtain ⟨hc, hcs⟩ := List.forall_mem_cons.mp h
      have hdigit := digit_le_nine hc
      have hone : ofDigits [c] = c.toNat - 0x30 := Nat.zero_add _
      have hlt := ih hcs
      rw [← List.singleton_append, ofDigits_append, hone, List.length_append, Nat.pow_add]
      -- Nine times the power and less than one more are less than ten times the power.
      have hmul : (c.toNat - 0x30) * 10 ^ cs.length ≤ 9 * 10 ^ cs.length :=
        Nat.mul_le_mul_right _ hdigit
      simp only [List.length_singleton, Nat.pow_one]
      omega

theorem digitCount_le_iff {n k : Nat} (hk : 0 < k) : digitCount n ≤ k ↔ n < 10 ^ k :=
  Nat.length_toDigits_le_iff (by decide) hk

theorem digitCount_pos (n : Nat) : 0 < digitCount n := Nat.length_toDigits_pos

theorem lt_ten_pow_digitCount (n : Nat) : n < 10 ^ digitCount n :=
  (digitCount_le_iff (digitCount_pos n)).mp (Nat.le_refl _)

theorem ten_pow_digitCount_le {n : Nat} (hn : 0 < n) : 10 ^ (digitCount n - 1) ≤ n := by
  have hpos := digitCount_pos n
  by_cases hone : digitCount n = 1
  · rw [hone]
    exact hn
  · have hk : 0 < digitCount n - 1 := by omega
    have h : ¬ digitCount n ≤ digitCount n - 1 := by omega
    rw [digitCount_le_iff hk] at h
    exact Nat.not_lt.mp h

/-! ## Decimals and their values -/

/-- The rational number that a decimal denotes. -/
def Decimal.value (d : Decimal) : ℚ := d.digits * 10 ^ d.exponent

namespace Decimal

theorem value_eq_zero {d : Decimal} : d.value = 0 ↔ d.digits = 0 := by
  unfold value
  rw [mul_eq_zero, or_iff_left (zpow_ne_zero _ (by norm_num)), Nat.cast_eq_zero]

/-- The value is below the power of ten at the point. -/
theorem value_lt (d : Decimal) : d.value < 10 ^ d.point := by
  unfold value point
  rw [zpow_add₀ (by norm_num), zpow_natCast]
  refine mul_lt_mul_of_pos_right ?_ (zpow_pos (by norm_num) _)
  exact_mod_cast lt_ten_pow_digitCount d.digits

/-- The value is at least the power of ten in front of the point. -/
theorem le_value {d : Decimal} (h : d.digits ≠ 0) : (10 : ℚ) ^ (d.point - 1) ≤ d.value := by
  have hpos := digitCount_pos d.digits
  have hexp : d.point - 1 = ((digitCount d.digits - 1 : Nat) : Int) + d.exponent := by
    unfold point
    omega
  unfold value
  rw [hexp, zpow_add₀ (by norm_num), zpow_natCast]
  refine mul_le_mul_of_nonneg_right ?_ (zpow_nonneg (by norm_num) _)
  exact_mod_cast ten_pow_digitCount_le (Nat.pos_of_ne_zero h)

/-- The place of the point depends on the value only. -/
theorem point_congr {d d' : Decimal} (h : d.value = d'.value) (hd : d.digits ≠ 0)
    (hd' : d'.digits ≠ 0) : d.point = d'.point := by
  have h₁ : d.point - 1 < d'.point :=
    (zpow_lt_zpow_iff_right₀ (by norm_num)).mp (lt_of_le_of_lt (le_value hd) (h ▸ d'.value_lt))
  have h₂ : d'.point - 1 < d.point :=
    (zpow_lt_zpow_iff_right₀ (by norm_num)).mp (lt_of_le_of_lt (le_value hd') (h ▸ d.value_lt))
  omega

theorem value_stripZeros (fuel digits : Nat) (exponent : Int) :
    (stripZeros fuel digits exponent).value = (⟨digits, exponent⟩ : Decimal).value := by
  fun_induction stripZeros fuel digits exponent with
  | case1 => rfl
  | case2 k d e h ih =>
      have hd : d = 10 * (d / 10) := by omega
      have hcast : (d : ℚ) = 10 * (d / 10 : Nat) := by exact_mod_cast hd
      rw [ih]
      unfold value
      rw [zpow_add_one₀ (by norm_num), hcast]
      ring
  | case3 => rfl

/-- The form without trailing zeros has the same value. -/
theorem value_normalize (d : Decimal) : d.normalize.value = d.value := by
  unfold normalize
  split
  · rename_i h
    rw [value_eq_zero.mpr h]
    exact value_eq_zero.mpr rfl
  · exact value_stripZeros _ _ _

end Decimal

namespace Binary64

/-- Within the range of doubles a decimal is rounded as the fraction that it is. -/
theorem ofDecimal_eq_ofRatio {d : Decimal} (hd : d.digits ≠ 0) (hlow : -324 < d.point)
    (hhigh : d.point < 310) (negative : Bool) :
    ∃ num den : Nat, 0 < den ∧ (num : ℚ) / den = d.value
      ∧ ofDecimal negative d = ofRatio negative num den := by
  have htop : ¬ 310 ≤ (digitCount d.digits : Int) + d.exponent := not_le.mpr hhigh
  have hbottom : ¬ (digitCount d.digits : Int) + d.exponent ≤ -324 := not_le.mpr hlow
  unfold ofDecimal Decimal.value
  simp only [if_neg hd, if_neg htop, if_neg hbottom]
  by_cases he : 0 ≤ d.exponent
  · obtain ⟨k, hk⟩ := Int.eq_ofNat_of_zero_le he
    refine ⟨_, 1, Nat.one_pos, ?_, if_pos he⟩
    rw [hk, Int.toNat_natCast, Nat.pow_eq, Nat.cast_mul, Nat.cast_pow, zpow_natCast, Nat.cast_one,
      div_one, Nat.cast_ofNat]
  · obtain ⟨k, hk⟩ := Int.eq_ofNat_of_zero_le (show 0 ≤ -d.exponent by omega)
    have hexp : d.exponent = -(k : Int) := by omega
    refine ⟨_, _, ?_, ?_, if_neg he⟩
    · exact Nat.pow_pos (by decide)
    · rw [hk, Int.toNat_natCast, Nat.pow_eq, Nat.cast_pow, hexp, zpow_neg, zpow_natCast,
        div_eq_mul_inv, Nat.cast_ofNat]

/-- **The double of a decimal depends on its value only.** -/
theorem ofDecimal_congr {d d' : Decimal} (h : d.value = d'.value) (negative : Bool) :
    ofDecimal negative d = ofDecimal negative d' := by
  by_cases hd : d.digits = 0
  · have hd' : d'.digits = 0 := Decimal.value_eq_zero.mp (h ▸ Decimal.value_eq_zero.mpr hd)
    unfold ofDecimal
    rw [if_pos hd, if_pos hd']
  have hd' : d'.digits ≠ 0 := fun hzero =>
    hd (Decimal.value_eq_zero.mp (h.trans (Decimal.value_eq_zero.mpr hzero)))
  have hpoint := Decimal.point_congr h hd hd'
  -- Out of range both are infinite or both are zero, since the points agree.
  by_cases hrange : -324 < d.point ∧ d.point < 310
  · obtain ⟨num, den, hden, hvalue, heq⟩ := ofDecimal_eq_ofRatio hd hrange.1 hrange.2 negative
    obtain ⟨num', den', hden', hvalue', heq'⟩ :=
      ofDecimal_eq_ofRatio hd' (hpoint ▸ hrange.1) (hpoint ▸ hrange.2) negative
    rw [heq, heq']
    exact ofRatio_congr hden hden' (hvalue.trans (h.trans hvalue'.symm)) negative
  · have hsame : (digitCount d.digits : Int) + d.exponent = digitCount d'.digits + d'.exponent := hpoint
    unfold Decimal.point at hrange
    unfold ofDecimal
    simp only [if_neg hd, if_neg hd', ← hsame]
    by_cases htop : 310 ≤ (digitCount d.digits : Int) + d.exponent
    · rw [if_pos htop, if_pos htop]
    · have hbottom : (digitCount d.digits : Int) + d.exponent ≤ -324 := by omega
      rw [if_neg htop, if_neg htop, if_pos hbottom, if_pos hbottom]

/-- **The double of a decimal is canonical**, and keeps the sign. -/
theorem ofDecimal_canonical {d : Decimal} {negative s : Bool} {m : Nat} {e : Int}
    (h : ofDecimal negative d = .finite s m e) : s = negative ∧ Canonical m e := by
  have hzero : ∀ {b}, zero b = .finite s m e → s = b ∧ Canonical m e := by
    intro b hb
    cases hb
    exact ⟨rfl, by decide, le_refl _, by decide, .inr rfl⟩
  unfold ofDecimal at h
  dsimp only at h
  split at h
  · exact hzero h
  split at h
  · cases h
  split at h
  · exact hzero h
  split at h
  · exact ofRatio_canonical Nat.one_pos h
  · exact ofRatio_canonical (Nat.pow_pos (by decide)) h

/-! ## The shortest digits -/

theorem readsBack_iff {m : Nat} {e : Int} {d : Decimal} :
    readsBack m e d = true ↔ ofDecimal false d = .finite false m e := decide_eq_true_iff

/-- What the search finds on a grid reads back. -/
theorem readsBack_of_nearestOnGrid? {m : Nat} {e grid : Int} {d : Decimal}
    (h : nearestOnGrid? m e grid = some d) : readsBack m e d = true := by
  unfold nearestOnGrid? at h
  dsimp only at h
  split at h
  · split_ifs at h <;> cases h <;> assumption
  · cases h
    assumption
  · cases h
    assumption
  · cases h

theorem readsBack_of_searchGrids {m count : Nat} {e grid : Int} {d : Decimal}
    (h : searchGrids m e count grid = some d) : readsBack m e d = true := by
  induction count generalizing grid with
  | zero => cases h
  | succ k ih =>
      rw [searchGrids, Option.or_eq_some_iff] at h
      rcases h with h | ⟨-, h⟩
      · exact readsBack_of_nearestOnGrid? h
      · exact ih h

theorem value_exactDecimal (m : Nat) (e : Int) : (exactDecimal m e).value = m * 2 ^ e := by
  unfold exactDecimal
  split
  · rename_i he
    obtain ⟨k, rfl⟩ := Int.eq_ofNat_of_zero_le he
    simp only [Decimal.value, Int.toNat_natCast, Nat.pow_eq, Nat.cast_mul, Nat.cast_pow, zpow_zero,
      mul_one, zpow_natCast, Nat.cast_ofNat]
  · rename_i he
    obtain ⟨k, hk⟩ := Int.eq_ofNat_of_zero_le (show 0 ≤ -e by omega)
    obtain rfl : e = -(k : Int) := by omega
    have hten : (10 : ℚ) ^ k = 2 ^ k * 5 ^ k := by rw [← mul_pow]; norm_num
    simp only [Decimal.value, neg_neg, Int.toNat_natCast, Nat.pow_eq, Nat.cast_mul, Nat.cast_pow,
      zpow_neg, zpow_natCast, Nat.cast_ofNat, hten]
    field_simp

/-- All doubles are below `10 ^ 309`. -/
theorem largest_lt_ten_pow : (mantissaBound : ℚ) * 2 ^ maxExponent < 10 ^ (309 : Int) := by
  have hnat : mantissaBound * 2 ^ 971 < 10 ^ 309 := by decide +kernel
  have h := (@Nat.cast_lt ℚ _ _ _ _ _ _ _).mpr hnat
  rw [Nat.cast_mul, Nat.cast_pow, Nat.cast_pow] at h
  rw [maxExponent, zpow_ofNat, zpow_ofNat]
  exact h

/-- All doubles above zero are above `10 ^ (-324)`. -/
theorem ten_pow_lt_least : (10 : ℚ) ^ (-324 : Int) < 2 ^ minExponent := by
  have hnat : 2 ^ 1074 < 10 ^ 324 := by decide +kernel
  have h := (@Nat.cast_lt ℚ _ _ _ _ _ _ _).mpr hnat
  rw [Nat.cast_pow, Nat.cast_pow] at h
  rw [minExponent, zpow_neg, zpow_neg, zpow_ofNat, zpow_ofNat]
  exact (inv_lt_inv₀ (pow_pos (by norm_num) _) (pow_pos (by norm_num) _)).mpr h

/-- The exact expansion of a canonical double reads back: its point is in the range of doubles. -/
theorem ofDecimal_exactDecimal {m : Nat} {e : Int} (hc : Canonical m e) (hm : 0 < m) :
    ofDecimal false (exactDecimal m e) = .finite false m e := by
  have hvalue := value_exactDecimal m e
  have hm' : (1 : ℚ) ≤ m := by exact_mod_cast hm
  have hpow : (0 : ℚ) < 2 ^ e := zpow_pos (by norm_num) e
  have hd : (exactDecimal m e).digits ≠ 0 := by
    intro hzero
    rw [Decimal.value_eq_zero.mpr hzero] at hvalue
    exact (mul_pos (by linarith) hpow).ne hvalue
  have hhigh : (exactDecimal m e).point < 310 := by
    have hlt : (10 : ℚ) ^ ((exactDecimal m e).point - 1) < 10 ^ (309 : Int) :=
      calc (10 : ℚ) ^ ((exactDecimal m e).point - 1) ≤ m * 2 ^ e := hvalue ▸ Decimal.le_value hd
        _ ≤ mantissaBound * 2 ^ maxExponent := by
            refine mul_le_mul ?_ ?_ hpow.le (Nat.cast_nonneg _)
            · exact_mod_cast hc.mantissa_lt.le
            · exact zpow_le_zpow_right₀ (by norm_num) hc.exponent_le
        _ < 10 ^ (309 : Int) := largest_lt_ten_pow
    have := (zpow_lt_zpow_iff_right₀ (by norm_num)).mp hlt
    omega
  have hlow : -324 < (exactDecimal m e).point := by
    have hlt : (10 : ℚ) ^ (-324 : Int) < 10 ^ (exactDecimal m e).point :=
      calc (10 : ℚ) ^ (-324 : Int) < 2 ^ minExponent := ten_pow_lt_least
        _ ≤ 2 ^ e := zpow_le_zpow_right₀ (by norm_num) hc.exponent_ge
        _ ≤ m * 2 ^ e := le_mul_of_one_le_left hpow.le hm'
        _ < 10 ^ (exactDecimal m e).point := hvalue ▸ (exactDecimal m e).value_lt
    exact (zpow_lt_zpow_iff_right₀ (by norm_num)).mp hlt
  obtain ⟨num, den, hden, hratio, heq⟩ := ofDecimal_eq_ofRatio hd hlow hhigh false
  rw [heq]
  exact ofRatio_of_canonical hc hm hden (hratio.trans hvalue) false

/-- **The shortest digits of a canonical double read back.** -/
theorem ofDecimal_shortest {m : Nat} {e : Int} (hc : Canonical m e) (hm : 0 < m) :
    ofDecimal false (shortest m e) = .finite false m e := by
  unfold shortest
  rw [if_neg hm.ne']
  dsimp only
  rw [ofDecimal_congr (Decimal.value_normalize _)]
  cases hsearch : searchGrids m e 17 (floorLog10 (ratio m e).1 (ratio m e).2) with
  | some d => exact readsBack_iff.mp (readsBack_of_searchGrids hsearch)
  | none => exact ofDecimal_exactDecimal hc hm

end Binary64

/-! ## Digits around a point -/

namespace Decimal

theorem read?_point {whole fraction : List Char} (hwhole : ∀ c ∈ whole, c.isDigit = true)
    (hfraction : ∀ c ∈ fraction, c.isDigit = true) (hne : whole ≠ []) :
    read? (whole ++ '.' :: fraction)
      = some ⟨ofDigits (whole ++ fraction), -(fraction.length : Int)⟩ := by
  have htake : (whole ++ '.' :: fraction).takeWhile Char.isDigit = whole := by
    rw [List.takeWhile_append_of_pos hwhole, List.takeWhile_cons_of_neg (by decide), List.append_nil]
  have hdrop : (whole ++ '.' :: fraction).dropWhile Char.isDigit = '.' :: fraction := by
    rw [List.dropWhile_append_of_pos hwhole, List.dropWhile_cons_of_neg (by decide)]
  have htake' : fraction.takeWhile Char.isDigit = fraction := List.takeWhile_eq_self_iff.mpr hfraction
  have hdrop' : fraction.dropWhile Char.isDigit = [] := List.dropWhile_eq_nil_iff.mpr hfraction
  have hempty : whole.isEmpty = false := List.isEmpty_eq_false_iff.mpr hne
  unfold read?
  simp only [htake, hdrop, htake', hdrop', hempty, Bool.false_and, Bool.false_eq_true, if_false,
    readExponent?, Option.map_some, Int.zero_sub]

/-- The text is a row of digits around a point that has the value of the decimal. -/
def SetOut (d : Decimal) (cs : List Char) : Prop :=
  ∃ whole fraction, cs = whole ++ '.' :: fraction ∧ whole ≠ []
    ∧ (∀ c ∈ whole ++ fraction, c.isDigit = true)
    ∧ (⟨ofDigits (whole ++ fraction), -(fraction.length : Int)⟩ : Decimal).value = d.value

theorem length_toDigits_add (d : Decimal) :
    ((Nat.toDigits 10 d.digits).length : Int) + d.exponent = d.point := rfl

/-- A decimal below one: all digits stand behind the point. -/
theorem setOut_fraction {d : Decimal} (h : d.point ≤ 0) :
    SetOut d ('0' :: '.' :: (zeros (-d.point).toNat ++ Nat.toDigits 10 d.digits)) := by
  refine ⟨['0'], _, rfl, List.cons_ne_nil _ _, ?_, ?_⟩
  · intro c hc
    rcases List.mem_append.mp hc with hc | hc
    · rw [List.mem_singleton.mp hc]
      rfl
    rcases List.mem_append.mp hc with hc | hc
    · exact isDigit_zeros hc
    · exact isDigit_toDigits hc
  · have hdigits : ofDigits (['0'] ++ (zeros (-d.point).toNat ++ Nat.toDigits 10 d.digits))
        = d.digits := by
      rw [ofDigits_append, ofDigits_append, ofDigits_zeros, ofDigits_toDigits]
      simp only [show ofDigits ['0'] = 0 from rfl, Nat.zero_mul, Nat.zero_add]
    have hexp : -((zeros (-d.point).toNat ++ Nat.toDigits 10 d.digits).length : Int)
        = d.exponent := by
      have hlen := d.length_toDigits_add
      rw [List.length_append, show (zeros (-d.point).toNat).length = _ from List.length_replicate]
      omega
    rw [hdigits, hexp]

/-- An integer: its exponent has become zeros in front of the point. -/
theorem setOut_whole {d : Decimal} (hpoint : 0 < d.point)
    (hwhole : (Nat.toDigits 10 d.digits).length ≤ d.point.toNat) :
    SetOut d (Nat.toDigits 10 d.digits
      ++ zeros (d.point.toNat - (Nat.toDigits 10 d.digits).length) ++ ['.', '0']) := by
  refine ⟨_, ['0'], rfl, List.append_ne_nil_of_left_ne_nil Nat.toDigits_ne_nil _, ?_, ?_⟩
  · intro c hc
    rcases List.mem_append.mp hc with hc | hc
    · rcases List.mem_append.mp hc with hc | hc
      · exact isDigit_toDigits hc
      · exact isDigit_zeros hc
    · rw [List.mem_singleton.mp hc]
      rfl
  · have hlen := d.length_toDigits_add
    obtain ⟨k, hk⟩ := Int.eq_ofNat_of_zero_le (show 0 ≤ d.exponent by omega)
    have hzeros : d.point.toNat - (Nat.toDigits 10 d.digits).length = k := by omega
    rw [hzeros, ofDigits_append, ofDigits_append, ofDigits_zeros, ofDigits_toDigits]
    simp only [value, hk, zeros, List.length_replicate, List.length_singleton,
      show ofDigits ['0'] = 0 from rfl, Nat.add_zero, Nat.cast_mul, Nat.cast_pow, zpow_neg,
      zpow_natCast, Nat.cast_ofNat]
    field_simp

/-- Any other decimal: the point stands among the digits. -/
theorem setOut_mixed {d : Decimal} (hpoint : 0 < d.point)
    (hmixed : d.point.toNat < (Nat.toDigits 10 d.digits).length) :
    SetOut d ((Nat.toDigits 10 d.digits).take d.point.toNat
      ++ '.' :: (Nat.toDigits 10 d.digits).drop d.point.toNat) := by
  refine ⟨_, _, rfl, ?_, ?_, ?_⟩
  · intro hnil
    have hlen := congrArg List.length hnil
    rw [List.length_take, List.length_nil] at hlen
    omega
  · rw [List.take_append_drop]
    intro c hc
    exact isDigit_toDigits hc
  · have hexp : -(((Nat.toDigits 10 d.digits).drop d.point.toNat).length : Int) = d.exponent := by
      have hlen := d.length_toDigits_add
      rw [List.length_drop]
      omega
    rw [List.take_append_drop, ofDigits_toDigits, hexp]

/-- **Digits are set out around a point** so that they have the value of the decimal. -/
theorem setOut_positional (d : Decimal) : SetOut d d.positional := by
  unfold positional
  dsimp only
  split
  · rename_i h
    exact setOut_fraction h
  · rename_i hpoint
    split
    · rename_i hwhole
      exact setOut_whole (not_le.mp hpoint) hwhole
    · rename_i hmixed
      exact setOut_mixed (not_le.mp hpoint) (not_le.mp hmixed)

end Decimal

/-! ## Numbers -/

namespace Number

/-- Some numeral denotes the number. -/
def Readable (v : Number) : Prop := ∃ cs, ofNumeral cs = .ok v

theorem integer_le {m bound k : Nat} {e : Int} (hm : m ≤ bound) (he : e ≤ k) :
    (Binary64.ratio m e).1 / (Binary64.ratio m e).2 ≤ bound * 2 ^ k := by
  unfold Binary64.ratio
  split
  · rw [Nat.div_one]
    exact Nat.mul_le_mul hm (Nat.pow_le_pow_right (by decide) (by omega))
  · calc m / Nat.pow 2 (-e).toNat ≤ m := Nat.div_le_self _ _
      _ ≤ bound := hm
      _ ≤ bound * 2 ^ k := Nat.le_mul_of_pos_right _ (Nat.pow_pos (by decide))

/-- The integer part of a double has few digits. -/
theorem digitCount_integer {m : Nat} {e : Int} (hc : Binary64.Canonical m e) :
    digitCount ((Binary64.ratio m e).1 / (Binary64.ratio m e).2) ≤ digitLimit := by
  have hle := @integer_le m Binary64.mantissaBound 971 e hc.mantissa_lt.le hc.exponent_le
  have hlargest : Binary64.mantissaBound * 2 ^ 971 < 10 ^ 309 := by decide +kernel
  have hcount := (digitCount_le_iff (by decide)).mpr (lt_of_le_of_lt hle hlargest)
  exact hcount.trans (by decide)

theorem isIntegral_zero (e : Int) : (Binary64.finite false 0 e).isIntegral = true := by
  have hnum : (Binary64.ratio 0 e).1 = 0 := by
    unfold Binary64.ratio
    split
    · exact Nat.zero_mul _
    · rfl
  unfold Binary64.isIntegral
  dsimp only
  rw [hnum, Nat.zero_mod]
  rfl

/-- **What numerals denote**: a natural number that is not too long, or a canonical double that is no
    integer. -/
theorem Readable.cases {v : Number} (h : v.Readable) :
    (∃ n : Nat, digitCount n ≤ digitLimit ∧ v = .int n)
      ∨ ∃ m e, Binary64.Canonical m e ∧ 0 < m ∧ (Binary64.finite false m e).isIntegral = false
        ∧ v = .float (.finite false m e) := by
  obtain ⟨cs, h⟩ := h
  unfold ofNumeral at h
  split at h
  · rename_i hdigits
    obtain ⟨hne, hall⟩ := Bool.and_eq_true_iff.mp hdigits
    split at h
    · cases h
    rename_i hlen
    cases h
    have hpos : 0 < cs.length := by
      rw [List.length_pos_iff]
      rintro rfl
      cases hne
    have hlt := ofDigits_lt (List.all_eq_true.mp hall)
    exact .inl ⟨_, ((digitCount_le_iff hpos).mpr hlt).trans (not_lt.mp hlen), rfl⟩
  · split at h
    · cases h
    split at h
    · rename_i s m e hread
      obtain ⟨rfl, hc⟩ := Binary64.ofDecimal_canonical hread
      cases h
      unfold ofBinary64
      split
      · exact .inl ⟨_, digitCount_integer hc, rfl⟩
      · rename_i hint
        refine .inr ⟨m, e, hc, ?_, Bool.eq_false_iff.mpr hint, rfl⟩
        rw [Nat.pos_iff_ne_zero]
        rintro rfl
        exact hint (isIntegral_zero e)
    · cases h

/-- The characters of a natural number. -/
theorem plain_int (n : Nat) : (plain (.int n)).toList = Nat.toDigits 10 n := Nat.toList_repr

theorem plain_float {x : Binary64} {m : Nat} {e : Int} (hx : x = .finite false m e)
    (hint : x.isIntegral = false) :
    (plain (.float x)).toList = (Binary64.shortest m e).positional := by
  subst hx
  simp only [plain, Binary64.plain, hint, Bool.false_eq_true, if_false, Binary64.signed,
    String.toList_ofList]

/-- **The text of a number is a numeral for it.** -/
theorem Readable.ofNumeral_plain {v : Number} (h : v.Readable) :
    ofNumeral v.plain.toList = .ok v := by
  rcases h.cases with ⟨n, hn, rfl⟩ | ⟨m, e, hc, hm, hint, rfl⟩
  · have hdigits : (!(Nat.toDigits 10 n).isEmpty && (Nat.toDigits 10 n).all Char.isDigit) = true := by
      rw [Bool.and_eq_true_iff, List.all_eq_true, Bool.not_eq_true', List.isEmpty_eq_false_iff]
      exact ⟨Nat.toDigits_ne_nil, fun c hc => isDigit_toDigits hc⟩
    have hlen : ¬ digitLimit < (Nat.toDigits 10 n).length := not_lt.mpr hn
    unfold ofNumeral
    rw [plain_int, if_pos hdigits, if_neg hlen, ofDigits_toDigits]
  · obtain ⟨whole, fraction, heq, hne, hdigits, hvalue⟩ := (Binary64.shortest m e).setOut_positional
    obtain ⟨hwhole, hfraction⟩ := List.forall_mem_append.mp hdigits
    have hpoint : ((whole ++ '.' :: fraction).all Char.isDigit) = false := by
      rw [List.all_append, List.all_cons]
      simp
    have hread := (Binary64.ofDecimal_congr hvalue false).trans (Binary64.ofDecimal_shortest hc hm)
    unfold ofNumeral
    rw [plain_float rfl hint, heq, hpoint, Bool.and_false, if_neg Bool.false_ne_true,
      Decimal.read?_point hwhole hfraction hne]
    simp only [hread, ofBinary64, hint, Bool.false_eq_true, if_false]

/-- The text of a number starts with a digit and has nothing else than digits and a point. -/
theorem Readable.plain_chars {v : Number} (h : v.Readable) :
    (∃ c cs, v.plain.toList = c :: cs ∧ c.isDigit = true)
      ∧ ∀ c ∈ v.plain.toList, c.isDigit = true ∨ c = '.' := by
  have hhead : ∀ {ds : List Char}, ds ≠ [] → (∀ c ∈ ds, c.isDigit = true) →
      ∀ rest, ∃ c cs, ds ++ rest = c :: cs ∧ c.isDigit = true := by
    intro ds hne hds rest
    match ds with
    | [] => exact absurd rfl hne
    | c :: cs => exact ⟨c, cs ++ rest, rfl, hds c List.mem_cons_self⟩
  rcases h.cases with ⟨n, hn, rfl⟩ | ⟨m, e, hc, hm, hint, rfl⟩
  · rw [plain_int]
    refine ⟨?_, fun c hc => .inl (isDigit_toDigits hc)⟩
    have := hhead (@Nat.toDigits_ne_nil n 10) (fun c hc => isDigit_toDigits hc) []
    rwa [List.append_nil] at this
  · obtain ⟨whole, fraction, heq, hne, hdigits, -⟩ := (Binary64.shortest m e).setOut_positional
    obtain ⟨hwhole, hfraction⟩ := List.forall_mem_append.mp hdigits
    rw [plain_float rfl hint, heq]
    refine ⟨hhead hne hwhole _, fun c hc => ?_⟩
    rcases List.mem_append.mp hc with hc | hc
    · exact .inl (hwhole c hc)
    rcases List.mem_cons.mp hc with rfl | hc
    · exact .inr rfl
    · exact .inl (hfraction c hc)

end Number

end HashIf
