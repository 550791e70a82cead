import CodeMarkup.Json.Lexeme
import CodeMarkup.Json.Writer
import Mathlib.Data.List.Basic
/-!
# Strings in JSON text

A string is read back as it was written (`next_stringChars`): its escapes give 16-bit units, of which the pairs
are joined again. That is so unless two surrogates stand in it that would be taken for a pair, and in what is
read there are none (`unpaired_joinUnits`).
-/

namespace CodeMarkup.Json

open CodeMarkup.Text

/-! ## Escapes -/

theorem hexValue?_hexDigit {d : Nat} (h : d < 16) : hexValue? (hexDigit d) = some d := by
  have hall : ∀ d < 16, hexValue? (hexDigit d) = some d := by decide
  exact hall d h

namespace Lexeme

theorem unit?_hexDigits {n : Nat} (h : n < 0x10000) :
    ∃ a b c d, hexDigits 4 n = [a, b, c, d] ∧ unit? a b c d = some n := by
  refine ⟨_, _, _, _, rfl, ?_⟩
  unfold unit?
  rw [hexValue?_hexDigit (Nat.mod_lt _ (by decide)), hexValue?_hexDigit (Nat.mod_lt _ (by decide)),
    hexValue?_hexDigit (Nat.mod_lt _ (by decide)), hexValue?_hexDigit (Nat.mod_lt _ (by decide))]
  show some _ = some n
  congr 1
  omega

theorem units_unitEscape {n : Nat} (h : n < 0x10000) {rest after : List Char} {later : List Nat}
    (hne : rest ≠ []) (hr : units rest = .ok (later, after)) :
    units (unitEscape n ++ rest) = .ok (n :: later, after) := by
  obtain ⟨a, b, c, d, hd, hu⟩ := unit?_hexDigits h
  obtain ⟨e, tail, rfl⟩ := List.exists_cons_of_ne_nil hne
  rw [unitEscape, hd]
  show units ('\\' :: 'u' :: a :: b :: c :: d :: e :: tail) = _
  rw [units.eq_2 a b c d e tail n hu, hr]
  rfl

theorem units_escaped {c meant : Char} (h : escaped? c = some meant) {rest after : List Char}
    {later : List Nat} (hr : units rest = .ok (later, after)) :
    units ('\\' :: c :: rest) = .ok (meant.toNat :: later, after) := by
  have hc : c ≠ 'u' := by
    rintro rfl
    cases h
  rw [units, h, hr]
  · rfl
  · rintro a b d e tail he -
    exact hc he
  · exact hc

theorem units_plain {c : Char} (hquote : c ≠ '\"') (hslash : c ≠ '\\') (hspace : ¬ c.toNat < 0x20)
    {rest after : List Char} {later : List Nat} (hr : units rest = .ok (later, after)) :
    units (c :: rest) = .ok (c.toNat :: later, after) := by
  rw [units, if_neg hslash, if_neg hspace, hr]
  · rfl
  · exact hquote
  · rintro a b d e tail he -
    exact hslash he
  · rintro tail he -
    exact hslash he
  · rintro d tail he -
    exact hslash he

/-- The 16-bit units of a character. -/
def unitsOf (c : Char) : List Nat :=
  if c.toNat < 0x10000 then [c.toNat]
  else [0xD800 + (c.toNat - 0x10000) / 0x400, 0xDC00 + (c.toNat - 0x10000) % 0x400]

theorem toNat_lt (c : Char) : c.toNat < 0x110000 := by
  rcases c.valid with h | ⟨-, h⟩
  · exact Nat.lt_trans h (by decide)
  · exact h

theorem unitsOf_of_lt {c : Char} (h : c.toNat < 0x10000) : unitsOf c = [c.toNat] := if_pos h

/-- The ways to write a character: an escape of one letter, itself, its unit or a pair of units. -/
theorem stringChar_cases (c : Char) :
    (∃ letter, escaped? letter = some c ∧ c.toNat < 0x10000 ∧ stringChar c = ['\\', letter]) ∨
    (c ≠ '\"' ∧ c ≠ '\\' ∧ 0x20 ≤ c.toNat ∧ c.toNat ≤ 0x7e ∧ stringChar c = [c]) ∨
    (c.toNat < 0x10000 ∧ stringChar c = unitEscape c.toNat) ∨
    (0x10000 ≤ c.toNat ∧ stringChar c = unitEscape (0xD800 + (c.toNat - 0x10000) / 0x400) ++
      unitEscape (0xDC00 + (c.toNat - 0x10000) % 0x400)) := by
  generalize hs : stringChar c = written
  unfold stringChar at hs
  split at hs
  · next h => exact .inl ⟨'\"', by rw [h]; rfl, by rw [h]; decide, hs.symm⟩
  split at hs
  · next h => exact .inl ⟨'\\', by rw [h]; rfl, by rw [h]; decide, hs.symm⟩
  split at hs
  · next h => exact .inl ⟨'n', by rw [h]; rfl, by rw [h]; decide, hs.symm⟩
  split at hs
  · next h => exact .inl ⟨'r', by rw [h]; rfl, by rw [h]; decide, hs.symm⟩
  split at hs
  · next h => exact .inl ⟨'t', by rw [h]; rfl, by rw [h]; decide, hs.symm⟩
  split at hs
  · next h => exact .inl ⟨'b', by rw [h]; rfl, by rw [h]; decide, hs.symm⟩
  split at hs
  · next h => exact .inl ⟨'f', by rw [h]; rfl, by rw [h]; decide, hs.symm⟩
  split at hs
  · next hquote hslash _ _ _ _ _ h => exact .inr (.inl ⟨hquote, hslash, h.1, h.2, hs.symm⟩)
  split at hs
  · next h => exact .inr (.inr (.inl ⟨h, hs.symm⟩))
  · next h => exact .inr (.inr (.inr ⟨Nat.le_of_not_lt h, hs.symm⟩))

/-- A character is written as its units, in one way or another. -/
theorem units_stringChar (c : Char) {rest after : List Char} {later : List Nat} (hne : rest ≠ [])
    (hr : units rest = .ok (later, after)) :
    units (stringChar c ++ rest) = .ok (unitsOf c ++ later, after) := by
  rcases stringChar_cases c with
    ⟨letter, hl, hc, h⟩ | ⟨hquote, hslash, hlow, hhigh, h⟩ | ⟨hc, h⟩ | ⟨hc, h⟩
  · rw [h, unitsOf_of_lt hc]
    exact units_escaped hl hr
  · rw [h, unitsOf_of_lt (by omega)]
    exact units_plain hquote hslash (by omega) hr
  · rw [h, unitsOf_of_lt hc]
    exact units_unitEscape hc hne hr
  · have hlt := toNat_lt c
    rw [h, unitsOf, if_neg (Nat.not_lt.2 hc), List.append_assoc]
    have hlow := @units_unitEscape (0xDC00 + (c.toNat - 0x10000) % 0x400) (by omega) _ _ _ hne hr
    exact units_unitEscape (by omega) (by simp [unitEscape]) hlow

/-- The 16-bit units of a code point. -/
def pointUnits : CodePoint → List Nat
  | .char c => unitsOf c
  | .surrogate offset => [0xD800 + offset.val]

theorem units_stringPoint (point : CodePoint) {rest after : List Char} {later : List Nat} (hne : rest ≠ [])
    (hr : units rest = .ok (later, after)) :
    units (stringPoint point ++ rest) = .ok (pointUnits point ++ later, after) := by
  cases point with
  | char c => exact units_stringChar c hne hr
  | surrogate offset =>
    have hunit : 0xD800 + offset.val < 0x10000 := by omega
    exact units_unitEscape hunit hne hr

theorem units_flatMap (s : CodePoints) (rest : List Char) :
    units (s.flatMap stringPoint ++ '\"' :: rest) = .ok (s.flatMap pointUnits, rest) := by
  induction s with
  | nil => rw [List.flatMap_nil, List.nil_append, units, List.flatMap_nil]
  | cons point s ih =>
    rw [List.flatMap_cons, List.append_assoc, List.flatMap_cons]
    exact units_stringPoint point (by simp) ih

/-! ## Pairs -/

theorem ofNat_toNat (c : Char) : CodePoint.ofNat c.toNat = .char c := by
  have hc : ¬ (0xD800 ≤ c.toNat ∧ c.toNat < 0xE000) := by
    rcases c.valid with h | ⟨h, -⟩
    · exact fun hs => absurd h (Nat.not_lt_of_le hs.1)
    · exact fun hs => absurd h (Nat.not_lt_of_le (Nat.le_of_lt_succ hs.2))
  rw [CodePoint.ofNat, dif_neg hc, Char.ofNat_toNat]

theorem isHigh_iff {unit : Nat} : isHigh unit = true ↔ 0xD800 ≤ unit ∧ unit ≤ 0xDBFF := by
  rw [isHigh, Bool.and_eq_true, decide_eq_true_iff, decide_eq_true_iff]

theorem isLow_iff {unit : Nat} : isLow unit = true ↔ 0xDC00 ≤ unit ∧ unit ≤ 0xDFFF := by
  rw [isLow, Bool.and_eq_true, decide_eq_true_iff, decide_eq_true_iff]

theorem isHigh_toNat (c : Char) : isHigh c.toNat = false := by
  rw [← Bool.not_eq_true]
  intro h
  rw [isHigh_iff] at h
  rcases c.valid with hc | ⟨hc, -⟩
  · exact absurd hc (Nat.not_lt_of_le h.1)
  · exact absurd (Nat.lt_of_lt_of_le hc h.2) (by decide)

theorem joinUnits_unitsOf (c : Char) (rest : List Nat) :
    joinUnits (unitsOf c ++ rest) = .char c :: joinUnits rest := by
  unfold unitsOf
  split
  · cases rest with
    | nil =>
      show [CodePoint.ofNat c.toNat] = [CodePoint.char c]
      rw [ofNat_toNat]
    | cons unit rest =>
      show joinUnits (c.toNat :: unit :: rest) = _
      rw [joinUnits, isHigh_toNat, ofNat_toNat]
      rfl
  · next h =>
    have hc := toNat_lt c
    have hhigh : isHigh (0xD800 + (c.toNat - 0x10000) / 0x400) = true := by
      rw [isHigh_iff]
      omega
    have hlow : isLow (0xDC00 + (c.toNat - 0x10000) % 0x400) = true := by
      rw [isLow_iff]
      omega
    have hjoined : 0x10000 + (0xD800 + (c.toNat - 0x10000) / 0x400 - 0xD800) * 0x400 +
        (0xDC00 + (c.toNat - 0x10000) % 0x400 - 0xDC00) = c.toNat := by
      omega
    show joinUnits (_ :: _ :: rest) = _
    rw [joinUnits, hhigh, hlow, hjoined, ofNat_toNat]
    rfl

/-- The code points would be taken for a pair. -/
def IsPair (high low : CodePoint) : Prop := isHigh high.toNat = true ∧ isLow low.toNat = true

/-- No two code points in a row would be taken for a pair. -/
def Unpaired (s : CodePoints) : Prop := s.IsChain (¬ IsPair · ·)

theorem isLow_toNat (c : Char) : isLow c.toNat = false := by
  rw [← Bool.not_eq_true]
  intro h
  rw [isLow_iff] at h
  rcases c.valid with hc | ⟨hc, -⟩
  · exact absurd (Nat.lt_of_lt_of_le hc (by decide)) (Nat.not_lt_of_le h.1)
  · exact absurd (Nat.lt_of_lt_of_le hc h.2) (by decide)

theorem unpaired_ofString (s : String) : Unpaired s := by
  rw [Unpaired, CodePoints.ofString, CodePoints.ofChars]
  refine List.Pairwise.isChain (List.pairwise_map.2 (List.pairwise_of_forall fun a _ hpair => ?_))
  exact Bool.false_ne_true ((isHigh_toNat a).symm.trans hpair.1)

theorem Unpaired.tail {point : CodePoint} {s : CodePoints} (h : Unpaired (point :: s)) : Unpaired s := by
  cases s with
  | nil => exact .nil
  | cons => exact (List.isChain_cons_cons.1 h).2

/-- The first unit of a code point is a low half only if the code point is one. -/
theorem exists_pointUnits (point : CodePoint) :
    ∃ unit more, pointUnits point = unit :: more ∧ (isLow unit = true → isLow point.toNat = true) := by
  cases point with
  | surrogate offset => exact ⟨_, _, rfl, id⟩
  | char c =>
    rw [pointUnits, unitsOf]
    split
    · exact ⟨_, _, rfl, id⟩
    · next hc =>
      have hlt := toNat_lt c
      refine ⟨_, _, rfl, fun hlow => ?_⟩
      rw [isLow_iff] at hlow
      omega

theorem joinUnits_flatMap {s : CodePoints} (h : Unpaired s) : joinUnits (s.flatMap pointUnits) = s := by
  induction s with
  | nil => rfl
  | cons point s ih =>
    have hrest := ih h.tail
    rw [List.flatMap_cons]
    cases point with
    | char c =>
      show joinUnits (unitsOf c ++ s.flatMap pointUnits) = _
      rw [joinUnits_unitsOf, hrest]
    | surrogate offset =>
      have hpoint : CodePoint.ofNat (0xD800 + offset.val) = .surrogate offset := by
        rw [CodePoint.ofNat, dif_pos (by omega)]
        simp
      show joinUnits ((0xD800 + offset.val) :: s.flatMap pointUnits) = _
      cases s with
      | nil =>
        show [CodePoint.ofNat (0xD800 + offset.val)] = _
        rw [hpoint]
      | cons next s =>
        obtain ⟨unit, more, hunits, hlow⟩ := exists_pointUnits next
        -- The next unit does not make a pair with this one.
        have hpair : (isHigh (0xD800 + offset.val) && isLow unit) = false := by
          rw [← Bool.not_eq_true, Bool.and_eq_true]
          exact fun hpair => (List.isChain_cons_cons.1 h).1 ⟨hpair.1, hlow hpair.2⟩
        rw [List.flatMap_cons, hunits, List.cons_append] at hrest ⊢
        rw [joinUnits, hpair, hrest, hpoint]
        rfl

/-! ## What is read -/

theorem toNat_ofNat (n : Nat) : (CodePoint.ofNat n).toNat = n ∨ ∃ c, CodePoint.ofNat n = .char c := by
  rw [CodePoint.ofNat]
  split
  · next h =>
    left
    show 0xD800 + (n - 0xD800) = n
    omega
  · exact .inr ⟨_, rfl⟩

theorem isHigh_of_ofNat {n : Nat} (h : isHigh (CodePoint.ofNat n).toNat = true) : isHigh n = true := by
  rcases toNat_ofNat n with hn | ⟨c, hc⟩
  · rwa [hn] at h
  · rw [hc] at h
    exact absurd h (Bool.eq_false_iff.1 (isHigh_toNat c))

theorem isLow_of_ofNat {n : Nat} (h : isLow (CodePoint.ofNat n).toNat = true) : isLow n = true := by
  rcases toNat_ofNat n with hn | ⟨c, hc⟩
  · rwa [hn] at h
  · rw [hc] at h
    exact absurd h (Bool.eq_false_iff.1 (isLow_toNat c))

/-- Joined units start with a low half only if the units do. -/
theorem exists_joinUnits (unit : Nat) (rest : List Nat) : ∃ point later,
    joinUnits (unit :: rest) = point :: later ∧ (isLow point.toNat = true → isLow unit = true) := by
  cases rest with
  | nil => exact ⟨_, _, rfl, isLow_of_ofNat⟩
  | cons next rest =>
    rw [joinUnits]
    split
    · refine ⟨_, _, rfl, fun h => ?_⟩
      have hlow := isLow_of_ofNat h
      rw [isLow_iff] at hlow
      omega
    · exact ⟨_, _, rfl, isLow_of_ofNat⟩

/-- In joined units nothing is left that would be taken for a pair. -/
theorem unpaired_joinUnits (units : List Nat) : Unpaired (joinUnits units) := by
  fun_induction joinUnits units with
  | case1 => exact .nil
  | case2 unit => exact .singleton _
  | case3 high low rest hpair ih =>
    cases hrest : joinUnits rest with
    | nil => exact .singleton _
    | cons point later =>
      rw [hrest] at ih
      refine .cons_cons (fun h => ?_) ih
      have hhigh := isHigh_of_ofNat h.1
      rw [isHigh_iff] at hhigh
      omega
  | case4 high low rest hpair ih =>
    obtain ⟨point, later, hjoined, hlow⟩ := exists_joinUnits low rest
    rw [hjoined] at ih ⊢
    refine .cons_cons (fun h => hpair ?_) ih
    rw [Bool.and_eq_true]
    exact ⟨isHigh_of_ofNat h.1, hlow h.2⟩

/-! ## Strings -/

/-- A string is read back as it was written. -/
theorem next_stringChars {s : CodePoints} (h : Unpaired s) (rest : List Char) :
    next (stringChars s ++ rest) = (.text s, rest) := by
  have hs : stringChars s ++ rest = '\"' :: (s.flatMap stringPoint ++ '\"' :: rest) := by
    simp [stringChars]
  rw [hs, next, string, units_flatMap]
  simp only
  rw [joinUnits_flatMap h]

end Lexeme

end CodeMarkup.Json
