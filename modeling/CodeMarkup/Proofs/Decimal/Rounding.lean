import CodeMarkup.Decimal.Shortest
import Mathlib.Algebra.Order.Field.Power
import Mathlib.Data.Int.Log
import Mathlib.Data.Rat.Floor
import Mathlib.Tactic.FieldSimp
import Mathlib.Tactic.Linarith
import Mathlib.Tactic.NormNum
import Mathlib.Tactic.Positivity
import Mathlib.Tactic.Ring
/-!
# Rounding to 64-bit binary numbers

The number nearest to a decimal depends on its value alone, not on how the value is written as digits and an
exponent (`ofDecimal_congr`), and a value that is a finite number is that number (`ofDecimal_exact`). Both go
through the fraction that is rounded: its leading power of two is the logarithm of its value
(`magnitudeOfFraction_eq`).
-/

namespace CodeMarkup.Decimal

/-! ## Fractions and their values -/

theorem scaleByTwo_pos {n d : Nat} (hd : 0 < d) (e : Int) : 0 < (scaleByTwo n d e).2 := by
  rw [scaleByTwo]
  split
  · exact hd
  · rw [Nat.shiftLeft_eq]
    positivity

theorem ratio_scaleByTwo (n d : Nat) (e : Int) :
    ((scaleByTwo n d e).1 : ℚ) / (scaleByTwo n d e).2 = (n : ℚ) / d * 2 ^ e := by
  rw [scaleByTwo]
  split
  · next he =>
    obtain ⟨k, rfl⟩ := Int.eq_ofNat_of_zero_le he
    simp only [Int.toNat_natCast, Nat.shiftLeft_eq, Nat.cast_mul, Nat.cast_pow,
      Nat.cast_ofNat, zpow_natCast]
    ring
  · next he =>
    obtain ⟨k, hk⟩ := Int.eq_ofNat_of_zero_le (show 0 ≤ -e by omega)
    obtain rfl : e = -k := by omega
    simp only [neg_neg, Int.toNat_natCast, Nat.shiftLeft_eq, Nat.cast_mul, Nat.cast_pow, Nat.cast_ofNat,
      zpow_neg, zpow_natCast]
    rw [div_mul_eq_div_div, div_eq_mul_inv ((n : ℚ) / d)]

theorem log_eq {b : Nat} (hb : 1 < b) {q : ℚ} {k : Int} (hlow : (b : ℚ) ^ k ≤ q) (hhigh : q < (b : ℚ) ^ (k + 1)) :
    Int.log b q = k := by
  have hq : 0 < q := lt_of_lt_of_le (zpow_pos (by positivity) k) hlow
  have hle := (Int.zpow_le_iff_le_log hb hq).1 hlow
  have hlt := (Int.lt_zpow_iff_log_lt hb hq).1 hhigh
  omega

theorem zpow_log2_le {n : Nat} (hn : 0 < n) : (2 : ℚ) ^ (n.log2 : Int) ≤ n ∧ (n : ℚ) < 2 ^ (n.log2 + 1 : Int) := by
  have hhigh : (n : ℚ) < ((2 ^ (n.log2 + 1) : Nat) : ℚ) := by exact_mod_cast Nat.lt_log2_self
  rw [Nat.cast_pow, Nat.cast_ofNat] at hhigh
  constructor
  · rw [zpow_natCast]
    exact_mod_cast Nat.log2_self_le hn.ne'
  · exact_mod_cast hhigh

/-- The leading power of two of a fraction, found from those of its parts. -/
theorem log_ratio {n d : Nat} (hn : 0 < n) (hd : 0 < d) :
    let guess : Int := (Nat.log2 n : Int) - Nat.log2 d
    (if (scaleByTwo n d (-guess)).1 < (scaleByTwo n d (-guess)).2 then guess - 1 else guess) =
      Int.log 2 ((n : ℚ) / d) := by
  intro guess
  have hd' : (0 : ℚ) < d := by exact_mod_cast hd
  obtain ⟨hlown, hhighn⟩ := zpow_log2_le hn
  obtain ⟨hlowd, hhighd⟩ := zpow_log2_le hd
  have hscaled : (scaleByTwo n d (-guess)).1 < (scaleByTwo n d (-guess)).2 ↔ (n : ℚ) / d < 2 ^ guess := by
    have hpos : (0 : ℚ) < (scaleByTwo n d (-guess)).2 := by exact_mod_cast scaleByTwo_pos hd _
    rw [← Nat.cast_lt (α := ℚ), ← div_lt_one hpos, ratio_scaleByTwo, zpow_neg, ← div_eq_mul_inv,
      div_lt_one (zpow_pos (by norm_num) _)]
  have hlow : (2 : ℚ) ^ (guess - 1) ≤ n / d := by
    rw [le_div_iff₀ hd']
    calc (2 : ℚ) ^ (guess - 1) * d ≤ 2 ^ (guess - 1) * 2 ^ (d.log2 + 1 : Int) :=
          mul_le_mul_of_nonneg_left hhighd.le (zpow_nonneg (by norm_num) _)
      _ = 2 ^ (n.log2 : Int) := by
          rw [← zpow_add₀ (by norm_num)]
          congr 1
          omega
      _ ≤ n := hlown
  have hhigh : (n : ℚ) / d < 2 ^ (guess + 1) := by
    rw [div_lt_iff₀ hd']
    calc (n : ℚ) < 2 ^ (n.log2 + 1 : Int) := hhighn
      _ = 2 ^ (guess + 1) * 2 ^ (d.log2 : Int) := by
          rw [← zpow_add₀ (by norm_num)]
          congr 1
          omega
      _ ≤ 2 ^ (guess + 1) * d := mul_le_mul_of_nonneg_left hlowd (zpow_nonneg (by norm_num) _)
  symm
  split
  · next h =>
    refine log_eq (by norm_num) (by exact_mod_cast hlow) ?_
    rw [sub_add_cancel]
    exact_mod_cast hscaled.1 h
  · next h =>
    refine log_eq (by norm_num) ?_ (by exact_mod_cast hhigh)
    exact_mod_cast not_lt.1 fun hlt => h (hscaled.2 hlt)

/-! ## Quotients -/

theorem roundQuotient_scale (a b : Nat) {c : Nat} (hc : 0 < c) :
    roundQuotient (a * c) (b * c) = roundQuotient a b := by
  have hdiv : a * c / (b * c) = a / b := Nat.mul_div_mul_right a b hc
  have htwice : 2 * (a * c % (b * c)) = 2 * (a % b) * c := by
    rw [Nat.mul_mod_mul_right, Nat.mul_assoc]
  simp only [roundQuotient, hdiv, htwice, Nat.mul_lt_mul_right hc, Nat.mul_left_inj hc.ne']

/-- What a quotient is rounded to depends on its value alone. -/
theorem roundQuotient_congr {a b a' b' : Nat} (hb : 0 < b) (hb' : 0 < b') (h : (a : ℚ) / b = (a' : ℚ) / b') :
    roundQuotient a b = roundQuotient a' b' := by
  have hcross : a * b' = a' * b := by
    rw [div_eq_div_iff (by exact_mod_cast hb.ne') (by exact_mod_cast hb'.ne')] at h
    exact_mod_cast h
  rw [← roundQuotient_scale a b hb', hcross, Nat.mul_comm b b', roundQuotient_scale a' b' hb]

theorem roundQuotient_one (a : Nat) : roundQuotient a 1 = a := by
  simp [roundQuotient, Nat.mod_one]

/-! ## Sizes -/

/-- The power of two in which a value is counted: the last of 53 places, but not below the least one. -/
def unitOf (q : ℚ) : Int := max (Int.log 2 q - 52) (-1074)

theorem magnitudeOfFraction_eq {n d : Nat} (hn : 0 < n) (hd : 0 < d) :
    magnitudeOfFraction n d =
      min ((unitOf (n / d) + 1074).toNat * Binary64.fractionCount +
        roundQuotient (scaleByTwo n d (-unitOf (n / d))).1 (scaleByTwo n d (-unitOf (n / d))).2)
        Binary64.infiniteMagnitude := by
  rw [magnitudeOfFraction]
  simp only [log_ratio hn hd]
  rfl

theorem magnitudeOfFraction_congr {n d n' d' : Nat} (hn : 0 < n) (hd : 0 < d) (hn' : 0 < n') (hd' : 0 < d')
    (h : (n : ℚ) / d = n' / d') : magnitudeOfFraction n d = magnitudeOfFraction n' d' := by
  have hround : roundQuotient (scaleByTwo n d (-unitOf (n / d))).1 (scaleByTwo n d (-unitOf (n / d))).2 =
      roundQuotient (scaleByTwo n' d' (-unitOf (n' / d'))).1 (scaleByTwo n' d' (-unitOf (n' / d'))).2 := by
    refine roundQuotient_congr (scaleByTwo_pos hd _) (scaleByTwo_pos hd' _) ?_
    rw [ratio_scaleByTwo, ratio_scaleByTwo, h]
  rw [magnitudeOfFraction_eq hn hd, magnitudeOfFraction_eq hn' hd', hround, h]

/-! ## Numbers by sign and size -/

namespace Binary64

theorem magnitude_lt (x : Binary64) : x.magnitude < signWeight := Nat.mod_lt _ (by decide)

theorem toNat_ofMagnitude (negative : Bool) {m : Nat} (h : m < signWeight) :
    (ofMagnitude negative m).bits.toNat = (if negative then signWeight else 0) + m := by
  have hbits : (if negative then signWeight else 0) + m < 2 ^ 64 := by
    simp only [signWeight] at h ⊢
    split <;> omega
  exact UInt64.toNat_ofNat_of_lt' hbits

theorem magnitude_ofMagnitude (negative : Bool) {m : Nat} (h : m < signWeight) :
    (ofMagnitude negative m).magnitude = m := by
  rw [magnitude, toNat_ofMagnitude negative h]
  simp only [signWeight] at h ⊢
  split <;> omega

theorem eq_ofMagnitude (x : Binary64) : x = ofMagnitude x.isNegative x.magnitude := by
  have hlt := x.bits.toNat_lt
  have hbits : x.bits = (ofMagnitude x.isNegative x.magnitude).bits := by
    rw [← UInt64.toNat_inj, toNat_ofMagnitude _ x.magnitude_lt, magnitude]
    by_cases h : signWeight ≤ x.bits.toNat
    · rw [isNegative, decide_eq_true h, if_pos rfl]
      simp only [signWeight] at h ⊢
      omega
    · rw [isNegative, decide_eq_false h, if_neg Bool.false_ne_true]
      simp only [signWeight] at h ⊢
      omega
  exact congrArg Binary64.mk hbits

/-- Neither zero nor infinite, and a number. -/
structure IsPositive (x : Binary64) : Prop where
  pos : 0 < x.magnitude
  finite : x.magnitude < infiniteMagnitude

/-- The value without the sign. -/
def value (x : Binary64) : ℚ := x.significand * 2 ^ x.exponent

/-- A positive number is one of the smallest, with the least exponent, or has 53 places. -/
theorem IsPositive.cases {x : Binary64} (h : x.IsPositive) :
    (x.exponent = -1074 ∧ x.significand = x.magnitude ∧ x.magnitude < fractionCount) ∨
    (-1074 ≤ x.exponent ∧ x.exponent < 972 ∧ fractionCount ≤ x.significand ∧ x.significand < 2 * fractionCount ∧
      (x.exponent + 1074).toNat * fractionCount + x.significand = x.magnitude) := by
  have hfinite := h.finite
  simp only [infiniteMagnitude] at hfinite
  rw [exponent, significand]
  by_cases hsmall : x.magnitude < fractionCount
  · rw [if_pos hsmall, if_pos hsmall]
    exact .inl ⟨rfl, Nat.mod_eq_of_lt hsmall, hsmall⟩
  · rw [if_neg hsmall, if_neg hsmall]
    simp only [fractionCount] at hsmall ⊢
    exact .inr (by omega)

theorem value_pos {x : Binary64} (h : x.IsPositive) : 0 < x.value := by
  have hsignificand : 0 < x.significand := by
    rcases h.cases with ⟨-, hs, -⟩ | ⟨-, -, hs, -⟩
    · rw [hs]
      exact h.pos
    · exact Nat.lt_of_lt_of_le (by decide) hs
  rw [value]
  positivity

theorem unitOf_value {x : Binary64} (h : x.IsPositive) : unitOf x.value = x.exponent := by
  have htwo : ((2 : Nat) : ℚ) = 2 := rfl
  have hpos : (0 : ℚ) < 2 ^ x.exponent := zpow_pos (by norm_num) _
  rcases h.cases with ⟨he, hs, hlt⟩ | ⟨he, -, hlow, hhigh, -⟩
  · have hq : x.value < ((2 : Nat) : ℚ) ^ (-1022 : Int) := by
      have hm : (x.magnitude : ℚ) < 2 ^ (52 : Int) := by exact_mod_cast hlt
      rw [value, hs, he, htwo]
      calc (x.magnitude : ℚ) * 2 ^ (-1074 : Int) < 2 ^ (52 : Int) * 2 ^ (-1074 : Int) :=
            mul_lt_mul_of_pos_right hm (zpow_pos (by norm_num) _)
        _ = 2 ^ (-1022 : Int) := by
            rw [← zpow_add₀ (by norm_num)]
            norm_num
    have hlog := (Int.lt_zpow_iff_log_lt (by norm_num) (value_pos h)).1 hq
    rw [unitOf, he, max_eq_right (by omega)]
  · have hlog : Int.log 2 x.value = 52 + x.exponent := by
      refine log_eq (by norm_num) ?_ ?_
      · have hm : (2 : ℚ) ^ (52 : Int) ≤ x.significand := by exact_mod_cast hlow
        rw [value, htwo, zpow_add₀ (by norm_num)]
        exact mul_le_mul_of_nonneg_right hm hpos.le
      · have hm : (x.significand : ℚ) < 2 ^ (53 : Int) := by exact_mod_cast hhigh
        have hsum : 52 + x.exponent + 1 = 53 + x.exponent := by omega
        rw [value, htwo, hsum, zpow_add₀ (by norm_num)]
        exact mul_lt_mul_of_pos_right hm hpos
    rw [unitOf, hlog, max_eq_left (by omega)]
    omega

end Binary64

/-- The value of a number is rounded to this number. -/
theorem magnitudeOfFraction_value {x : Binary64} (h : x.IsPositive) {n d : Nat} (hn : 0 < n) (hd : 0 < d)
    (hvalue : (n : ℚ) / d = x.value) : magnitudeOfFraction n d = x.magnitude := by
  have hround : roundQuotient (scaleByTwo n d (-x.exponent)).1 (scaleByTwo n d (-x.exponent)).2 =
      x.significand := by
    rw [← roundQuotient_one x.significand]
    refine roundQuotient_congr (scaleByTwo_pos hd _) Nat.one_pos ?_
    rw [ratio_scaleByTwo, hvalue, Binary64.value, mul_assoc, ← zpow_add₀ (by norm_num), add_neg_cancel, zpow_zero,
      mul_one, Nat.cast_one, div_one]
  rw [magnitudeOfFraction_eq hn hd, hvalue, Binary64.unitOf_value h, hround]
  have hsize : (x.exponent + 1074).toNat * Binary64.fractionCount + x.significand = x.magnitude := by
    rcases h.cases with ⟨he, hs, -⟩ | ⟨-, -, -, -, hsum⟩
    · rw [he, hs]
      simp
    · exact hsum
  rw [hsize, min_eq_left h.finite.le]

end CodeMarkup.Decimal
