import CodeMarkup.Proofs.Decimal.Rounding
import Mathlib.Data.Nat.Digits.Defs
/-!
# Decimals that read back

A decimal is read as the number nearest to its value, however the value is written (`ofDecimal_congr`). So the
digits that are found for a number read back as it: those found on a grid were tried, all its digits have its
very value, and taking zeros into the exponent changes no value (`ofDecimal_shortest`).
-/

namespace CodeMarkup.Decimal

open Binary64

/-! ## Decimals and their values -/

/-- The value of a decimal. -/
def Digits.value (x : Digits) : ℚ := x.digits * 10 ^ x.exponent

/-- The place of the first digit is the logarithm of the value. -/
theorem log_decimal {n : Nat} (hn : 0 < n) (e : Int) :
    Int.log 10 ((n : ℚ) * 10 ^ e) = (toString n).length + e - 1 := by
  have hlength : (toString n).length = (Nat.toDigits 10 n).length := by
    rw [Nat.toString_eq_ofList_toDigits, String.length_ofList]
  have hpos : 0 < (Nat.toDigits 10 n).length := Nat.length_toDigits_pos
  have hten : ((10 : Nat) : ℚ) = 10 := rfl
  obtain ⟨k, hk⟩ : ∃ k, (Nat.toDigits 10 n).length = k + 1 := ⟨_, (Nat.succ_pred_eq_of_pos hpos).symm⟩
  have hhigh : n < 10 ^ (k + 1) := (Nat.length_toDigits_le_iff (by decide) (Nat.succ_pos k)).1 hk.le
  have hlow : 10 ^ k ≤ n := by
    rcases Nat.eq_zero_or_pos k with rfl | hk'
    · exact hn
    · exact Nat.le_of_not_lt fun h => by
        have := (Nat.length_toDigits_le_iff (by decide) hk').2 h
        omega
  have hlow' : (10 : ℚ) ^ (k : Int) ≤ n := by exact_mod_cast hlow
  have hhigh' : (n : ℚ) < 10 ^ (k + 1 : Int) := by exact_mod_cast hhigh
  have hpow : (0 : ℚ) < 10 ^ e := zpow_pos (by norm_num) e
  have hexponent : ((toString n).length : Int) + e - 1 = k + e := by omega
  rw [hexponent]
  refine log_eq (by norm_num) ?_ ?_
  · rw [hten, zpow_add₀ (by norm_num)]
    exact mul_le_mul_of_nonneg_right hlow' hpow.le
  · rw [hten, add_right_comm, zpow_add₀ (by norm_num)]
    exact mul_lt_mul_of_pos_right hhigh' hpow

/-- A decimal is read through its value alone. -/
theorem ofDecimal_eq {n : Nat} (hn : 0 < n) (e : Int) :
    ∃ a b : Nat, 0 < a ∧ 0 < b ∧ (a : ℚ) / b = n * 10 ^ e ∧ ∀ negative, Binary64.ofDecimal negative n e =
      ofMagnitude negative
        (if Int.log 10 ((n : ℚ) * 10 ^ e) + 1 < -400 then 0
        else if 400 < Int.log 10 ((n : ℚ) * 10 ^ e) + 1 then infiniteMagnitude
        else magnitudeOfFraction a b) := by
  have hplaces : Int.log 10 ((n : ℚ) * 10 ^ e) + 1 = (toString n).length + e := by
    rw [log_decimal hn e]
    omega
  rw [hplaces]
  by_cases he : 0 ≤ e
  · obtain ⟨k, rfl⟩ := Int.eq_ofNat_of_zero_le he
    refine ⟨n * 10 ^ k, 1, by positivity, Nat.one_pos, ?_, fun negative => ?_⟩
    · rw [Nat.cast_one, div_one, zpow_natCast]
      push_cast
      rfl
    · simp only [Binary64.ofDecimal, hn.ne', false_or, if_pos he, Int.toNat_natCast]
      split_ifs <;> rfl
  · obtain ⟨k, hk⟩ := Int.eq_ofNat_of_zero_le (show 0 ≤ -e by omega)
    obtain rfl : e = -k := by omega
    refine ⟨n, 10 ^ k, hn, by positivity, ?_, fun negative => ?_⟩
    · rw [zpow_neg, zpow_natCast, div_eq_mul_inv]
      push_cast
      rfl
    · simp only [Binary64.ofDecimal, hn.ne', false_or, if_neg he, neg_neg, Int.toNat_natCast]
      split_ifs <;> rfl

/-- Decimals of the same value are read as the same number. -/
theorem ofDecimal_congr {n m : Nat} {e f : Int} (h : (n : ℚ) * 10 ^ e = m * 10 ^ f) (negative : Bool) :
    Binary64.ofDecimal negative n e = Binary64.ofDecimal negative m f := by
  have hpow : ∀ e : Int, (0 : ℚ) < 10 ^ e := fun e => zpow_pos (by norm_num) e
  have hzero : n = 0 ↔ m = 0 := by
    constructor
    · rintro rfl
      rw [Nat.cast_zero, zero_mul, eq_comm, mul_eq_zero] at h
      exact_mod_cast h.resolve_right (hpow f).ne'
    · rintro rfl
      rw [Nat.cast_zero, zero_mul, mul_eq_zero] at h
      exact_mod_cast h.resolve_right (hpow e).ne'
  rcases Nat.eq_zero_or_pos n with hn | hn
  · rw [Binary64.ofDecimal, Binary64.ofDecimal, if_pos (.inl hn), if_pos (.inl (hzero.1 hn))]
  · have hm : 0 < m := Nat.pos_of_ne_zero fun hm => hn.ne' (hzero.2 hm)
    obtain ⟨a, b, ha, hb, hab, hn'⟩ := ofDecimal_eq hn e
    obtain ⟨c, d, hc, hd, hcd, hm'⟩ := ofDecimal_eq hm f
    rw [hn', hm', h, magnitudeOfFraction_congr ha hb hc hd (by rw [hab, hcd, h])]

theorem value_bounds {x : Binary64} (h : x.IsPositive) :
    (2 : ℚ) ^ (-1074 : Int) ≤ x.value ∧ x.value < 2 ^ (1024 : Int) := by
  obtain ⟨hlow, hhigh, he, he'⟩ : 1 ≤ x.significand ∧ x.significand < 2 ^ 53 ∧ -1074 ≤ x.exponent ∧
      x.exponent ≤ 971 := by
    have hpos := h.pos
    have hcount : fractionCount = 2 ^ 52 := rfl
    rcases h.cases with ⟨he, hs, hlt⟩ | ⟨he, he', hs, hs', -⟩ <;> omega
  have hlow' : (1 : ℚ) ≤ x.significand := by exact_mod_cast hlow
  have hhigh' : (x.significand : ℚ) < 2 ^ (53 : Int) := by exact_mod_cast hhigh
  have hpow : (0 : ℚ) < 2 ^ x.exponent := zpow_pos (by norm_num) _
  rw [Binary64.value]
  constructor
  · calc (2 : ℚ) ^ (-1074 : Int) ≤ 2 ^ x.exponent := zpow_le_zpow_right₀ (by norm_num) he
      _ ≤ x.significand * 2 ^ x.exponent := le_mul_of_one_le_left hpow.le hlow'
  · calc (x.significand : ℚ) * 2 ^ x.exponent < 2 ^ (53 : Int) * 2 ^ x.exponent :=
          mul_lt_mul_of_pos_right hhigh' hpow
      _ = 2 ^ (53 + x.exponent) := (zpow_add₀ (by norm_num) _ _).symm
      _ ≤ 2 ^ (1024 : Int) := zpow_le_zpow_right₀ (by norm_num) (by omega)

theorem two_pow_le_ten_pow {k n : Nat} (h : k ≤ 3 * n) : (2 : ℚ) ^ k ≤ 10 ^ n :=
  calc (2 : ℚ) ^ k ≤ 2 ^ (3 * n) := pow_le_pow_right₀ (by norm_num) h
    _ = (2 ^ 3) ^ n := pow_mul _ _ _
    _ ≤ 10 ^ n := pow_le_pow_left₀ (by norm_num) (by norm_num) n

/-- A decimal with the value of a number is read as this number. -/
theorem ofDecimal_value {x : Binary64} (h : x.IsPositive) {n : Nat} {e : Int} (hvalue : (n : ℚ) * 10 ^ e = x.value)
    (negative : Bool) : Binary64.ofDecimal negative n e = ofMagnitude negative x.magnitude := by
  have hpos := value_pos h
  have hn : 0 < n := by
    rw [← hvalue] at hpos
    exact_mod_cast pos_of_mul_pos_left hpos (zpow_nonneg (by norm_num) e)
  obtain ⟨a, b, ha, hb, hab, hn'⟩ := ofDecimal_eq hn e
  rw [hvalue] at hab hn'
  obtain ⟨hlow, hhigh⟩ := value_bounds h
  have hten : ((10 : Nat) : ℚ) = 10 := rfl
  have hleast : ((10 : Nat) : ℚ) ^ (-400 : Int) ≤ x.value := by
    refine le_trans ?_ hlow
    rw [hten, zpow_neg, zpow_neg, zpow_ofNat, zpow_ofNat]
    exact inv_anti₀ (pow_pos (by norm_num) _) (two_pow_le_ten_pow (by decide))
  have hgreatest : x.value < ((10 : Nat) : ℚ) ^ (400 : Int) := by
    refine hhigh.trans_le ?_
    rw [hten, zpow_ofNat, zpow_ofNat]
    exact two_pow_le_ten_pow (by decide)
  have hplace := (Int.zpow_le_iff_le_log (by norm_num) hpos).1 hleast
  have hplace' := (Int.lt_zpow_iff_log_lt (by norm_num) hpos).1 hgreatest
  rw [hn', if_neg (by omega), if_neg (by omega), magnitudeOfFraction_value h ha hb hab]

/-! ## The digits that are found -/

theorem infiniteMagnitude_lt : infiniteMagnitude < signWeight := by decide

theorem exists_ofDecimal (negative : Bool) (n : Nat) (e : Int) :
    ∃ m ≤ infiniteMagnitude, Binary64.ofDecimal negative n e = ofMagnitude negative m ∧
      Binary64.ofDecimal false n e = ofMagnitude false m := by
  rw [Binary64.ofDecimal, Binary64.ofDecimal]
  split_ifs
  · exact ⟨0, Nat.zero_le _, rfl, rfl⟩
  · exact ⟨infiniteMagnitude, le_rfl, rfl, rfl⟩
  · exact ⟨_, Nat.min_le_right _ _, rfl, rfl⟩
  · exact ⟨_, Nat.min_le_right _ _, rfl, rfl⟩

/-- The number nearest to a decimal is one. -/
theorem not_isNaN_ofDecimal (negative : Bool) (n : Nat) (e : Int) :
    ¬ (Binary64.ofDecimal negative n e).isNaN = true := by
  obtain ⟨m, hm, hsigned, -⟩ := exists_ofDecimal negative n e
  rw [hsigned, isNaN, decide_eq_true_eq, magnitude_ofMagnitude negative (hm.trans_lt infiniteMagnitude_lt), not_lt]
  exact hm

/-- What reads back as a size reads back with either sign. -/
theorem ofDecimal_of_readsBack {m : Nat} {x : Digits} (h : readsBack m x = true) (negative : Bool) :
    Binary64.ofDecimal negative x.digits x.exponent = ofMagnitude negative m := by
  obtain ⟨size, hsize, hsigned, hunsigned⟩ := exists_ofDecimal negative x.digits x.exponent
  rw [readsBack, hunsigned, magnitude_ofMagnitude false (hsize.trans_lt infiniteMagnitude_lt), beq_iff_eq] at h
  rw [hsigned, h]

/-- A hit on a grid was tried. -/
theorem readsBack_of_searchGrids {m n d left count : Nat} {leading : Int} {x : Digits}
    (h : searchGrids m n d leading left count = some x) : readsBack m x = true := by
  induction left generalizing count with
  | zero => cases h
  | succ left ih =>
    rw [searchGrids.eq_def] at h
    simp only at h
    split at h
    · next hgrid =>
      cases h
      have hm : x ∈ onGrid m n d (leading - count + 1) := hgrid ▸ List.mem_cons_self
      exact (List.mem_filter.1 hm).2
    · exact ih h

theorem value_exactDigits (x : Binary64) : (exactDigits x).value = x.value := by
  rw [exactDigits, Digits.value, Binary64.value]
  split
  · next he =>
    obtain ⟨k, hk⟩ := Int.eq_ofNat_of_zero_le he
    rw [hk]
    simp only [Int.toNat_natCast, Nat.shiftLeft_eq, Nat.cast_mul, Nat.cast_pow, Nat.cast_ofNat, zpow_natCast,
      zpow_zero, mul_one]
  · next he =>
    obtain ⟨k, hk⟩ := Int.eq_ofNat_of_zero_le (show 0 ≤ -x.exponent by omega)
    have hexponent : x.exponent = -k := by omega
    have hten : (10 : ℚ) = 5 * 2 := by norm_num
    rw [hexponent, neg_neg]
    simp only [Int.toNat_natCast, Nat.cast_mul, Nat.pow_eq, Nat.cast_pow, Nat.cast_ofNat, zpow_neg, zpow_natCast]
    rw [hten, mul_pow]
    field_simp

theorem trim_spec (left : Nat) {x : Digits} (h : 0 < x.digits) :
    0 < (x.trim left).digits ∧ (x.trim left).value = x.value := by
  induction left generalizing x with
  | zero => exact ⟨h, rfl⟩
  | succ left ih =>
    rw [Digits.trim]
    split
    · next hzero =>
      have hdigits : x.digits = 10 * (x.digits / 10) := (Nat.mul_div_cancel' (Nat.dvd_of_mod_eq_zero hzero.2)).symm
      obtain ⟨hpos, hvalue⟩ := @ih ⟨x.digits / 10, x.exponent + 1⟩ (by show 0 < x.digits / 10; omega)
      refine ⟨hpos, hvalue.trans ?_⟩
      rw [Digits.value, Digits.value, hdigits, zpow_add₀ (by norm_num), zpow_one]
      push_cast
      rw [Nat.mul_div_cancel_left _ (by decide)]
      ring
    · exact ⟨h, rfl⟩

/-- The shortest digits of a number read back as the number. -/
theorem ofDecimal_shortest {x : Binary64} (h : x.IsPositive) (negative : Bool) :
    0 < (shortest x).digits ∧ ∀ (n : Nat) (e : Int), (n : ℚ) * 10 ^ e = (shortest x).value →
      Binary64.ofDecimal negative n e = ofMagnitude negative x.magnitude := by
  -- Before zeros are taken away the digits read back: as a hit, or as all the digits there are.
  have hfound : ∀ y : Digits, Binary64.ofDecimal negative y.digits y.exponent = ofMagnitude negative x.magnitude →
      0 < (y.trim 20).digits ∧ ∀ (n : Nat) (e : Int), (n : ℚ) * 10 ^ e = (y.trim 20).value →
        Binary64.ofDecimal negative n e = ofMagnitude negative x.magnitude := by
    intro y hy
    have hpos : 0 < y.digits := by
      rw [Nat.pos_iff_ne_zero]
      intro hzero
      have hsize := congrArg magnitude hy
      rw [Binary64.ofDecimal, if_pos (.inl hzero), magnitude_ofMagnitude _ (by decide),
        magnitude_ofMagnitude _ x.magnitude_lt] at hsize
      exact h.pos.ne hsize
    obtain ⟨hpos', hvalue⟩ := trim_spec 20 hpos
    refine ⟨hpos', fun n e hn => ?_⟩
    rw [← hy]
    exact ofDecimal_congr (hn.trans hvalue) negative
  rw [shortest]
  simp only
  cases hsearch : searchGrids x.magnitude (scaleByTwo x.significand 1 x.exponent).1
      (scaleByTwo x.significand 1 x.exponent).2 (leadingPlace (scaleByTwo x.significand 1 x.exponent).1
        (scaleByTwo x.significand 1 x.exponent).2) 17 1 with
  | some y => exact hfound y (ofDecimal_of_readsBack (readsBack_of_searchGrids hsearch) negative)
  | none => exact hfound _ (ofDecimal_value h (value_exactDigits x) negative)

end CodeMarkup.Decimal
