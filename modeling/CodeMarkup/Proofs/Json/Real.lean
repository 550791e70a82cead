import CodeMarkup.Json.Writer
import CodeMarkup.Proofs.Decimal.Shortest
import CodeMarkup.Proofs.Json.WholeNumber
/-!
# Other numbers in JSON text

A number that is not whole is read back as it was written (`next_realChars`). In each of the ways to write a
decimal the parts that the reader finds have its value (`writesDecimal_chars`), and that is all that counts for
the number that is read.
-/

namespace CodeMarkup.Json

open CodeMarkup.Decimal CodeMarkup.Text

namespace Lexeme

/-! ## Digits in a row -/

theorem number_append (digits later : List Char) :
    number (digits ++ later) = number digits * 10 ^ later.length + number later :=
  calc number (digits ++ later) = Nat.ofDigitChars 10 later (number digits) := Nat.ofDigitChars_append 0
    _ = 10 ^ later.length * number digits + number later := Nat.ofDigitChars_eq_ofDigitChars_zero
    _ = number digits * 10 ^ later.length + number later := by rw [Nat.mul_comm]

theorem number_zeros (n : Nat) : number (List.replicate n '0') = 0 := by
  have hzeros := @Nat.ofDigitChars_replicate_zero 10 0 n
  rwa [Nat.mul_zero] at hzeros

theorem number_zeros_append (n : Nat) (digits : List Char) :
    number (List.replicate n '0' ++ digits) = number digits := by
  rw [number_append, number_zeros, Nat.zero_mul, Nat.zero_add]

theorem isDigit_of_mem_zeros {n : Nat} {c : Char} (h : c ∈ List.replicate n '0') : isDigit c = true := by
  rw [List.eq_of_mem_replicate h]
  rfl

/-! ## Parts of a number -/

theorem fraction_digits {part rest : List Char} (hne : part ≠ []) (hd : ∀ c ∈ part, isDigit c = true)
    (hr : EndsDigits rest) : fraction ('.' :: (part ++ rest)) = (part, rest) := by
  rw [fraction, digits?_append hne hd hr]
  rfl

theorem exponent?_digits {digits rest : List Char} (hne : digits ≠ []) (hd : ∀ c ∈ digits, isDigit c = true)
    (hr : EndsDigits rest) (negative : Bool) :
    exponent? ('e' :: (if negative then '-' else '+') :: (digits ++ rest)) =
      some (if negative then -(number digits : Int) else number digits, rest) := by
  cases negative <;> simp [exponent?, digits?_append hne hd hr]

theorem exponent?_none {rest : List Char} (h : EndsNumber rest) : exponent? rest = none := by
  cases rest with
  | nil => rfl
  | cons c rest => simp [exponent?, (h c rfl).2.2]

theorem unsigned?_fraction (negative : Bool) {s whole tail part rest : List Char} (hw : whole? s = some (whole, tail))
    (hf : fraction tail = (part, rest)) (hne : part ≠ []) (hr : EndsNumber rest) :
    unsigned? negative s =
      some (.scalar (.real (.ofDecimal negative (number (whole ++ part)) (-(part.length : Int)))), rest) := by
  simp [unsigned?, hw, hf, exponent?_none hr, hne]

theorem unsigned?_exponent (negative : Bool) {s whole tail part after rest : List Char} {e : Int}
    (hw : whole? s = some (whole, tail)) (hf : fraction tail = (part, after))
    (he : exponent? after = some (e, rest)) :
    unsigned? negative s =
      some (.scalar (.real (.ofDecimal negative (number (whole ++ part)) (e - part.length))), rest) := by
  simp [unsigned?, hw, hf, he]

/-- An unsigned number starts with a digit. -/
theorem isDigit_of_unsigned? {negative : Bool} {s : List Char} {found : Lexeme × List Char}
    (h : unsigned? negative s = some found) : ∃ c cs, s = c :: cs ∧ isDigit c = true := by
  cases s with
  | nil => cases h
  | cons c cs =>
    refine ⟨c, cs, rfl, ?_⟩
    by_cases hc : isDigit c = true
    · exact hc
    · have hzero : c ≠ '0' := by
        rintro rfl
        exact hc rfl
      have hwhole : whole? (c :: cs) = none := by
        rw [whole?]
        · simp [digits?, List.span_eq_takeWhile_dropWhile, hc]
        · rintro _ hcons
          exact hzero (List.cons.inj hcons).1
      simp [unsigned?, hwhole] at h

/-! ## Decimals as they are written -/

/-- The text is read as a decimal of this value, whatever sign is before it. -/
def WritesDecimal (chars : List Char) (value : ℚ) : Prop :=
  ∀ rest, EndsNumber rest → ∃ (n : Nat) (e : Int), (n : ℚ) * 10 ^ e = value ∧ ∀ negative,
    unsigned? negative (chars ++ rest) = some (.scalar (.real (.ofDecimal negative n e)), rest)

/-- Digits with a point among them. A zero at the start stands alone. -/
theorem writesDecimal_point {c : Char} {digits part : List Char} (hzero : c ≠ '0' ∨ digits = [])
    (hw : ∀ d ∈ c :: digits, isDigit d = true) (hne : part ≠ []) (hp : ∀ d ∈ part, isDigit d = true) {value : ℚ}
    (hvalue : (number (c :: digits ++ part) : ℚ) * 10 ^ (-(part.length : Int)) = value) :
    WritesDecimal (c :: digits ++ '.' :: part) value := by
  intro rest hr
  refine ⟨_, _, hvalue, fun negative => ?_⟩
  have hwhole : whole? (c :: digits ++ '.' :: part ++ rest) = some (c :: digits, '.' :: (part ++ rest)) := by
    rw [List.append_assoc, List.cons_append, List.cons_append]
    by_cases hc : c = '0'
    · rw [hc, hzero.resolve_left fun h => h hc]
      rfl
    · exact whole?_digits hc hw (endsDigits_cons rfl _)
  exact unsigned?_fraction negative hwhole (fraction_digits hne hp hr.endsDigits) hne hr

/-- A digit, perhaps more after a point, and an exponent. -/
theorem writesDecimal_exponent {c : Char} {part exponent : List Char} (hzero : c ≠ '0') (hc : isDigit c = true)
    (hp : ∀ d ∈ part, isDigit d = true) (hne : exponent ≠ []) (he : ∀ d ∈ exponent, isDigit d = true)
    (below : Bool) {value : ℚ} (hvalue : (number (c :: part) : ℚ) *
      10 ^ ((if below then -(number exponent : Int) else number exponent) - part.length) = value) :
    WritesDecimal ([c] ++ (if part = [] then [] else '.' :: part) ++
      'e' :: (if below then '-' else '+') :: exponent) value := by
  intro rest hr
  refine ⟨_, _, hvalue, fun negative => ?_⟩
  have hmark : ∀ tail, EndsDigits ('e' :: tail) := fun tail => endsDigits_cons rfl tail
  have hdigit : ∀ d ∈ [c], isDigit d = true := List.forall_mem_singleton.2 hc
  have hexponent := exponent?_digits hne he hr.endsDigits below
  by_cases hpart : part = []
  · subst hpart
    exact unsigned?_exponent negative (whole?_digits hzero hdigit (hmark _)) rfl hexponent
  · rw [if_neg hpart, List.append_assoc, List.append_assoc, List.cons_append, List.nil_append, List.cons_append]
    exact unsigned?_exponent negative (whole?_digits hzero hdigit (endsDigits_cons rfl _))
      (fraction_digits hpart hp (hmark _)) hexponent

section Layout

variable {c : Char} {more : List Char} (hzero : c ≠ '0') (hall : ∀ d ∈ c :: more, isDigit d = true)

include hall in
/-- Digits after a zero, a point and more zeros. -/
theorem writesDecimal_below (zeros : Nat) : WritesDecimal (['0', '.'] ++ List.replicate zeros '0' ++ c :: more)
    (number (c :: more) * 10 ^ (-(zeros + (c :: more).length : Int))) := by
  have hpart : ∀ d ∈ List.replicate zeros '0' ++ c :: more, isDigit d = true := by
    intro d hd
    rcases List.mem_append.1 hd with hd | hd
    · exact isDigit_of_mem_zeros hd
    · exact hall d hd
  refine @writesDecimal_point '0' [] _ (.inr rfl) (List.forall_mem_singleton.2 rfl) (by simp) hpart _ ?_
  have hnumber : number (['0'] ++ (List.replicate zeros '0' ++ c :: more)) = number (c :: more) :=
    (number_zeros_append 1 _).trans (number_zeros_append zeros _)
  rw [hnumber, List.length_append, List.length_replicate, Nat.cast_add]

include hzero hall

/-- Digits with a point after some of them. -/
theorem writesDecimal_within {k : Nat} (hk : k < more.length) :
    WritesDecimal (c :: more.take k ++ '.' :: more.drop k)
      (number (c :: more) * 10 ^ (-((more.length - k : Nat) : Int))) := by
  have hsplit : c :: more.take k ++ more.drop k = c :: more := by rw [List.cons_append, List.take_append_drop]
  rw [← hsplit] at hall
  refine writesDecimal_point (.inl hzero) (fun d hd => hall d (List.mem_append_left _ hd)) ?_
    (fun d hd => hall d (List.mem_append_right _ hd)) ?_
  · rwa [ne_eq, List.drop_eq_nil_iff, not_le]
  · rw [hsplit, List.length_drop]

/-- Digits, zeros, and a zero after the point. -/
theorem writesDecimal_above (zeros : Nat) :
    WritesDecimal (c :: more ++ List.replicate zeros '0' ++ '.' :: ['0']) (number (c :: more) * 10 ^ zeros) := by
  refine @writesDecimal_point c (more ++ List.replicate zeros '0') _ (.inl hzero) ?_ (List.cons_ne_nil _ _)
    (List.forall_mem_singleton.2 rfl) _ ?_
  · intro d hd
    rw [← List.cons_append] at hd
    rcases List.mem_append.1 hd with hd | hd
    · exact hall d hd
    · exact isDigit_of_mem_zeros hd
  · have hnumber : number (c :: (more ++ List.replicate zeros '0') ++ ['0']) =
        number (c :: more) * 10 ^ (zeros + 1) := by
      have hlast : List.replicate zeros '0' ++ ['0'] = List.replicate (zeros + 1) '0' := List.replicate_succ'.symm
      rw [← List.cons_append, List.append_assoc, hlast, number_append, number_zeros, List.length_replicate,
        Nat.add_zero]
    rw [hnumber, Nat.cast_mul, mul_assoc, Nat.cast_pow, Nat.cast_ofNat, List.length_singleton, pow_succ,
      mul_assoc, Nat.cast_one, zpow_neg_one, mul_inv_cancel₀ (by norm_num), mul_one]

/-- The first digit, the others after a point, and an exponent of this many digits at least. -/
theorem writesDecimal_scientific (place : Int) (width : Nat) :
    WritesDecimal ((c :: more).take 1 ++ (if (c :: more).length ≤ 1 then [] else '.' :: (c :: more).drop 1) ++
      ['e', if place < 0 then '-' else '+'] ++
      List.replicate (width - (toString place.natAbs).toList.length) '0' ++ (toString place.natAbs).toList)
      (number (c :: more) * 10 ^ (place - more.length)) := by
  have hdigits : (toString place.natAbs).toList = Nat.toDigits 10 place.natAbs := Nat.toList_repr
  rw [hdigits]
  generalize hexponent : List.replicate (width - (Nat.toDigits 10 place.natAbs).length) '0' ++
    Nat.toDigits 10 place.natAbs = exponent
  have hnumber : number exponent = place.natAbs := by
    rw [← hexponent, number_zeros_append, number_toDigits]
  have hmem : ∀ d ∈ exponent, isDigit d = true := by
    intro d hd
    rw [← hexponent] at hd
    rcases List.mem_append.1 hd with hd | hd
    · exact isDigit_of_mem_zeros hd
    · exact isDigit_of_mem_toDigits hd
  have hne : exponent ≠ [] := by
    rw [← hexponent]
    exact fun h => Nat.toDigits_ne_nil (List.append_eq_nil_iff.1 h).2
  have hwritten := writesDecimal_exponent hzero (hall c List.mem_cons_self)
    (fun d hd => hall d (List.mem_cons_of_mem c hd)) hne hmem (decide (place < 0)) rfl
  have hsigned : (if decide (place < 0) = true then -(number exponent : Int) else number exponent) = place := by
    rw [hnumber]
    simp only [decide_eq_true_eq]
    split <;> omega
  have hlength : (c :: more).length ≤ 1 ↔ more = [] := by
    rw [List.length_cons, ← List.length_eq_zero_iff]
    omega
  have htext : (c :: more).take 1 ++ (if (c :: more).length ≤ 1 then [] else '.' :: (c :: more).drop 1) ++
      ['e', if place < 0 then '-' else '+'] ++
        List.replicate (width - (Nat.toDigits 10 place.natAbs).length) '0' ++ Nat.toDigits 10 place.natAbs =
      [c] ++ (if more = [] then [] else '.' :: more) ++ 'e' :: (if place < 0 then '-' else '+') :: exponent := by
    simp only [hlength, ← hexponent, List.append_assoc, List.take_succ_cons, List.take_zero, List.drop_succ_cons,
      List.drop_zero, List.cons_append, List.nil_append]
  rw [hsigned] at hwritten
  simp only [decide_eq_true_eq] at hwritten
  rwa [htext]

end Layout

/-- The digits of a number start with another digit than zero. -/
theorem exists_digits {n : Nat} (h : 0 < n) : ∃ c more, (toString n).toList = c :: more ∧ c ≠ '0' ∧
    (∀ d ∈ c :: more, isDigit d = true) ∧ number (c :: more) = n := by
  have hdigits : (toString n).toList = Nat.toDigits 10 n := Nat.toList_repr
  have hnumber := number_toDigits n
  rcases toDigits_cases n with hzero | ⟨c, more, hcons, hfirst⟩
  · -- Only zero is written as a zero.
    rw [hzero] at hnumber
    exact absurd hnumber h.ne
  · rw [hcons] at hdigits hnumber
    exact ⟨c, more, hdigits, hfirst, fun d hd => isDigit_of_mem_toDigits (hcons ▸ hd), hnumber⟩

/-- In every layout a decimal is written as itself. -/
theorem writesDecimal_chars (layout : Layout) {x : Digits} (h : 0 < x.digits) :
    WritesDecimal (layout.chars x) x.value := by
  obtain ⟨c, more, hlist, hzero, hall, hnumber⟩ := exists_digits h
  have hplace : x.leading = more.length + x.exponent := by
    rw [Digits.leading, ← String.length_toList, hlist, List.length_cons]
    omega
  rw [Layout.chars, hlist, Digits.value, ← hnumber]
  simp only
  by_cases hpositional : layout.leastPlace ≤ x.leading ∧ x.leading < layout.endPlace
  · rw [if_pos hpositional]
    by_cases hbelow : x.leading < 0
    · rw [if_pos hbelow]
      have hwritten := writesDecimal_below hall (-x.leading - 1).toNat
      have hexponent : -(((-x.leading - 1).toNat : Int) + (c :: more).length) = x.exponent := by
        rw [List.length_cons]
        omega
      rwa [hexponent] at hwritten
    · rw [if_neg hbelow]
      by_cases hpart : x.leading.toNat < more.length
      · have hwritten := writesDecimal_within hzero hall hpart
        have hexponent : -((more.length - x.leading.toNat : Nat) : Int) = x.exponent := by omega
        have hlength : x.leading.toNat + 1 - (c :: more.take x.leading.toNat).length = 0 := by
          rw [List.length_cons, List.length_take]
          omega
        have hdrop : more.drop x.leading.toNat ≠ [] := by
          rwa [ne_eq, List.drop_eq_nil_iff, not_le]
        rw [hexponent] at hwritten
        rwa [List.take_succ_cons, List.drop_succ_cons, hlength, if_neg hdrop, List.replicate_zero, List.append_nil,
          List.append_assoc]
      · have hwritten := writesDecimal_above hzero hall (x.leading.toNat - more.length)
        have hexponent : ((x.leading.toNat - more.length : Nat) : Int) = x.exponent := by omega
        have hzeros : x.leading.toNat + 1 - (c :: more).length = x.leading.toNat - more.length := by
          rw [List.length_cons]
          omega
        rw [← zpow_natCast, hexponent] at hwritten
        rwa [List.take_succ_cons, List.drop_succ_cons, List.take_of_length_le (by omega),
          List.drop_eq_nil_of_le (by omega), if_pos rfl, hzeros, List.append_assoc]
  · rw [if_neg hpositional]
    have hwritten := writesDecimal_scientific hzero hall x.leading layout.exponentDigits
    have hexponent : x.leading - more.length = x.exponent := by omega
    rwa [hexponent] at hwritten

/-! ## Numbers as they are written -/

/-- A number with its sign, if what comes after the sign is read as it whatever the sign. -/
theorem next_signed {chars rest : List Char} {x : Binary64}
    (h : ∀ negative, unsigned? negative (chars ++ rest) =
      some (.scalar (.real (.ofMagnitude negative x.magnitude)), rest)) :
    next ((if x.isNegative then ['-'] else []) ++ chars ++ rest) = (.scalar (.real x), rest) := by
  have hx := x.eq_ofMagnitude
  obtain ⟨c, cs, hcons, hc⟩ := isDigit_of_unsigned? (h false)
  rw [hcons] at h
  rw [List.append_assoc, hcons]
  cases hsign : x.isNegative with
  | true =>
    rw [hsign] at hx
    have hnext := next_negative hc (h true)
    rwa [← hx] at hnext
  | false =>
    rw [hsign] at hx
    have hnext := next_unsigned hc (h false)
    rwa [← hx] at hnext

/-- A number is read back as it was written. Of those that are no numbers at all this is so for one. -/
theorem next_realChars {x : Binary64} (h : x.isNaN = true → x = .notANumber) {rest : List Char}
    (hr : EndsNumber rest) : next (realChars x ++ rest) = (.scalar (.real x), rest) := by
  rw [realChars]
  by_cases hnan : x.isNaN = true
  · rw [if_pos hnan, h hnan]
    rfl
  rw [if_neg hnan]
  by_cases hinfinite : x.isInfinite = true
  · have hx := x.eq_ofMagnitude
    rw [beq_iff_eq.1 hinfinite] at hx
    rw [if_pos hinfinite]
    cases hsign : x.isNegative <;> rw [hsign] at hx <;> rw [hx] <;> rfl
  rw [if_neg hinfinite]
  by_cases hzero : x.isZero = true
  · rw [if_pos hzero]
    have hwhole : whole? ("0.0".toList ++ rest) = some (['0'], '.' :: (['0'] ++ rest)) := rfl
    refine next_signed fun negative => ?_
    rw [beq_iff_eq.1 hzero]
    exact unsigned?_fraction negative hwhole (fraction_digits (List.cons_ne_nil '0' [])
      (List.forall_mem_singleton.2 rfl) hr.endsDigits) (List.cons_ne_nil _ _) hr
  · rw [if_neg hzero]
    have hpositive : x.IsPositive := by
      rw [Binary64.isNaN, decide_eq_true_eq] at hnan
      rw [Binary64.isInfinite, beq_iff_eq] at hinfinite
      rw [Binary64.isZero, beq_iff_eq] at hzero
      exact ⟨Nat.pos_of_ne_zero hzero, lt_of_le_of_ne (not_lt.1 hnan) hinfinite⟩
    obtain ⟨n, e, hvalue, hread⟩ :=
      writesDecimal_chars numberLayout (ofDecimal_shortest hpositive false).1 rest hr
    refine next_signed fun negative => ?_
    rw [hread negative, (ofDecimal_shortest hpositive negative).2 n e hvalue]

end Lexeme

end CodeMarkup.Json
