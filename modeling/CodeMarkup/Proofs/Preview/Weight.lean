import CodeMarkup.Proofs.Keyed
import CodeMarkup.Proofs.Preview.Swap
import Mathlib.Data.List.Basic
import Mathlib.Data.List.Induction
import Mathlib.Data.List.TakeWhile
/-!
# Styles that have a format

A style has a format unless its last weight is illegible: digits only, but too many, or with one among them that is
no decimal digit (`ofStyle_eq_ok_iff`). All that a preview needs are the formats of the kinds that are marked up,
so it can be made, and its theme changed, exactly when none of their weights is illegible (`made_iff`). Which texts
are colours is up to the editor and does not matter for that. `ofStyle_superscript` is a style without a format.
-/

namespace CodeMarkup.Style

open CodeMarkup.Text

/-! ## Numbers in decimal digits -/

/-- Decimal digits, of whatever script, that write a number. -/
inductive Numeral : List Char → Nat → Prop
  | nil : Numeral [] 0
  | digit {cs : List Char} {n : Nat} {c : Char} {d : Nat} :
      Numeral cs n → decimalValue? c = some d → Numeral (cs ++ [c]) (10 * n + d)

theorem numeral_iff {cs : List Char} {n : Nat} :
    Numeral cs n ↔ ∃ values, cs.map decimalValue? = values.map some ∧ ofDecimals values = n := by
  constructor
  · intro h
    induction h with
    | nil => exact ⟨[], rfl, rfl⟩
    | @digit _ _ _ d _ hd ih =>
      obtain ⟨values, hvalues, rfl⟩ := ih
      refine ⟨values ++ [d], by rw [List.map_append, List.map_append, hvalues, List.map_singleton, hd]; rfl, ?_⟩
      rw [ofDecimals, List.foldl_append, ← ofDecimals]
      rfl
  · rintro ⟨values, hvalues, rfl⟩
    induction values using List.reverseRecOn generalizing cs with
    | nil =>
      rw [List.map_eq_nil_iff.1 hvalues]
      exact .nil
    | append_singleton values d ih =>
      rw [List.map_append] at hvalues
      obtain ⟨start, last, rfl, hstart, hlast⟩ := List.map_eq_append_iff.1 hvalues
      obtain ⟨c, rest, rfl, hd, hrest⟩ := List.map_eq_cons_iff.1 hlast
      rw [List.map_eq_nil_iff.1 hrest, ofDecimals, List.foldl_append, ← ofDecimals]
      exact .digit (ih hstart) hd

theorem map_some_filterMap_id {values : List (Option Nat)} (h : ∀ value ∈ values, value ≠ none) :
    (values.filterMap id).map some = values := by
  induction values with
  | nil => rfl
  | cons value values ih =>
    rw [List.forall_mem_cons] at h
    cases value with
    | none => exact absurd rfl h.1
    | some d => rw [List.filterMap_cons, id, List.map_cons, ih h.2]

theorem Numeral.decimal {cs : List Char} {n : Nat} (h : Numeral cs n) : ∀ c ∈ cs, decimalValue? c ≠ none := by
  intro c hc hnone
  obtain ⟨values, hvalues, -⟩ := numeral_iff.1 h
  have hm : none ∈ values.map some := hvalues ▸ List.mem_map.2 ⟨c, hc, hnone⟩
  obtain ⟨d, -, hd⟩ := List.mem_map.1 hm
  cases hd

theorem Numeral.isDigit {cs : List Char} {n : Nat} (h : Numeral cs n) : ∀ c ∈ cs, Text.isDigit c = true := by
  intro c hc
  obtain ⟨d, hd⟩ := Option.ne_none_iff_exists'.1 (h.decimal c hc)
  exact isDigit_of_decimalValue? hd

theorem exists_numeral {cs : List Char} (h : ∀ c ∈ cs, decimalValue? c ≠ none) : ∃ n, Numeral cs n := by
  refine ⟨_, numeral_iff.2 ⟨(cs.map decimalValue?).filterMap id, (map_some_filterMap_id ?_).symm, rfl⟩⟩
  intro value hv
  obtain ⟨c, hc, rfl⟩ := List.mem_map.1 hv
  exact h c hc

theorem Numeral.unique {cs : List Char} {n m : Nat} (hn : Numeral cs n) (hm : Numeral cs m) : n = m := by
  obtain ⟨values, hvalues, rfl⟩ := numeral_iff.1 hn
  obtain ⟨others, hothers, rfl⟩ := numeral_iff.1 hm
  rw [List.map_injective_iff.2 (fun _ _ => Option.some.inj) (hvalues.symm.trans hothers)]

/-- Decimal digits are read as the number that they write, as long as they are not too many. -/
theorem weightOf_eq_ok_iff {digits : String} {n : Nat} :
    weightOf digits = .ok n ↔ digits.length ≤ digitLimit ∧ Numeral digits.toList n := by
  rw [weightOf, numeral_iff, ← String.length_toList]
  generalize digits.toList = cs
  have hlength : (cs.map decimalValue?).length = cs.length := List.length_map _
  generalize cs.map decimalValue? = values at hlength
  constructor
  · intro h
    split_ifs at h with hmany hbad
    have hall : values.takeWhile Option.isSome = values :=
      (List.takeWhile_prefix _).eq_of_length_le (Nat.le_of_not_lt hbad)
    rw [hall, hlength] at hmany
    refine ⟨Nat.le_of_not_lt hmany, values.filterMap id, ?_, Except.ok.inj h⟩
    refine (map_some_filterMap_id fun value hv hnone => ?_).symm
    have := List.takeWhile_eq_self_iff.1 hall value hv
    rw [hnone] at this
    cases this
  · rintro ⟨hfew, values, rfl, rfl⟩
    have hall : (values.map some).takeWhile Option.isSome = values.map some := by
      rw [List.takeWhile_eq_self_iff]
      intro value hv
      obtain ⟨d, -, rfl⟩ := List.mem_map.1 hv
      rfl
    simp only [hall]
    rw [if_neg (by omega), if_neg (Nat.lt_irrefl _), List.filterMap_map]
    simp

/-! ## Weights -/

/-- A weight of digits only from which no number can be read: one of them is no decimal digit, or they are too
many. -/
def Illegible (weight : CodePoints) : Prop :=
  ∃ digits : String, weight = digits ∧ digits ≠ "" ∧ (∀ c ∈ digits.toList, isDigit c = true) ∧
    ((∃ c ∈ digits.toList, decimalValue? c = none) ∨ digitLimit < digits.length)

/-- A weight that is bold: by name, or in digits that write a number of 600 at least. -/
def Heavy (weight : CodePoints) : Prop :=
  weight = "bold" ∨ weight = "bolder" ∨
    ∃ (digits : String) (n : Nat), weight = digits ∧ digits ≠ "" ∧ Numeral digits.toList n ∧ 600 ≤ n

theorem weightOf_ne_ok_iff {digits : String} :
    (∀ n, weightOf digits ≠ .ok n) ↔
      (∃ c ∈ digits.toList, decimalValue? c = none) ∨ digitLimit < digits.length := by
  simp only [ne_eq, weightOf_eq_ok_iff, not_and]
  constructor
  · intro h
    by_contra hnot
    rw [not_or, not_lt] at hnot
    obtain ⟨n, hn⟩ := exists_numeral fun c hc hnone => hnot.1 ⟨c, hc, hnone⟩
    exact h n hnot.2 hn
  · rintro (⟨c, hc, hnone⟩ | hmany) n hfew hn
    · exact hn.decimal c hc hnone
    · exact absurd hfew (Nat.not_le_of_lt hmany)

theorem illegible_iff {weight : String} :
    Illegible weight ↔
      weight ≠ "" ∧ (∀ c ∈ weight.toList, isDigit c = true) ∧ ∀ n, weightOf weight ≠ .ok n := by
  simp only [Illegible, CodePoints.ofString_inj, exists_eq_left', weightOf_ne_ok_iff]

theorem heavy_iff {weight : String} :
    Heavy weight ↔
      weight = "bold" ∨ weight = "bolder" ∨ weight ≠ "" ∧ ∃ n, Numeral weight.toList n ∧ 600 ≤ n := by
  simp only [Heavy, CodePoints.ofString_inj, exists_and_left, exists_eq_left']

/-- Whether a weight is bold is found out unless it is illegible. -/
theorem isBold_eq_ok_iff {weight : String} {bold : Bool} :
    isBold weight = .ok bold ↔ ¬ Illegible weight ∧ (bold = true ↔ Heavy weight) := by
  -- An answer is right when it tells a heavy weight, and there is only one such answer.
  have answers : ∀ {answer : Bool}, ¬ Illegible weight → (answer = true ↔ Heavy weight) →
      ((.ok answer : Except Failure Bool) = .ok bold ↔ ¬ Illegible weight ∧ (bold = true ↔ Heavy weight)) := by
    intro answer hlegible hanswer
    rw [Except.ok.injEq, and_iff_right hlegible, ← hanswer, Bool.eq_iff_iff]
    exact Iff.comm
  rw [isBold]
  split_ifs with hname hdigits
  · have hletter : isDigit 'b' = false := by decide
    refine answers (fun h => ?_) (iff_of_true rfl (heavy_iff.2 (or_assoc.1 (.inl hname))))
    have hb := (illegible_iff.1 h).2.1 'b' (by rcases hname with rfl | rfl <;> decide)
    rw [hletter] at hb
    cases hb
  · rw [List.all_eq_true] at hdigits
    cases hread : weightOf weight with
    | error failure =>
      have hillegible : Illegible weight := illegible_iff.2 ⟨hdigits.1, hdigits.2, by simp [hread]⟩
      exact ⟨nofun, fun h => absurd hillegible h.1⟩
    | ok n =>
      have hn := (weightOf_eq_ok_iff.1 hread).2
      refine answers (fun h => (illegible_iff.1 h).2.2 n hread) ?_
      rw [heavy_iff, decide_eq_true_iff, ← or_assoc, or_iff_right hname, and_iff_right hdigits.1]
      exact ⟨fun h => ⟨n, hn, h⟩, fun ⟨m, hm, h⟩ => hn.unique hm ▸ h⟩
  · rw [List.all_eq_true] at hdigits
    refine answers (fun h => hdigits ⟨(illegible_iff.1 h).1, (illegible_iff.1 h).2.1⟩) (iff_of_false nofun ?_)
    rw [heavy_iff, ← or_assoc, or_iff_right hname]
    rintro ⟨hne, n, hn, -⟩
    exact hdigits ⟨hne, hn.isDigit⟩

/-! ## Formats -/

/-- The value that a style declares last for a property, empty if it declares none. -/
def lastValue (property style : CodePoints) : CodePoints :=
  (((((splitOn (.char ';') style).filterMap declaration?).filter fun entry => entry.1 = property).getLast?).map
    (·.2)).getD []

theorem value_eq_lastValue (property style : CodePoints) : value property style = lastValue property style := by
  rw [value, declarations, Keyed.get?_ofList, lastValue]

/-- The weight that a style asks for. -/
def weight (style : CodePoints) : CodePoints := lower (lastValue "font-weight" style)

/-- The slant that a style asks for. -/
def slant (style : CodePoints) : CodePoints := lower (lastValue "font-style" style)

/-- The format is the one that a style asks for in an editor that knows these colours. -/
structure Shows (isColor : CodePoints → Bool) (style : CodePoints) (format : Format) : Prop where
  bold : format.bold = true ↔ Heavy (weight style)
  italic : format.italic = true ↔ slant style = "italic" ∨ slant style = "oblique"
  color : ∀ color, format.color = some color ↔ lastValue "color" style = color ∧ isColor color = true

/-- A weight with a surrogate is neither illegible nor bold. -/
theorem bold_eq_ok_iff {weight : CodePoints} {bold : Bool} :
    (CodePoints.string? weight).elim (.ok false) isBold = .ok bold ↔
      ¬ Illegible weight ∧ (bold = true ↔ Heavy weight) := by
  cases hs : CodePoints.string? weight with
  | some text =>
    rw [CodePoints.string?_eq_some_iff.1 hs]
    exact isBold_eq_ok_iff
  | none =>
    have hsurrogate : ∀ text : String, weight ≠ text := by
      rintro text rfl
      rw [CodePoints.string?_ofString] at hs
      cases hs
    have hlegible : ¬ Illegible weight := fun ⟨digits, h, _⟩ => hsurrogate digits h
    have hlight : ¬ Heavy weight := by
      rintro (h | h | ⟨digits, _, h, _⟩)
      · exact hsurrogate _ h
      · exact hsurrogate _ h
      · exact hsurrogate digits h
    simp [hlegible, hlight, eq_comm]

/-- Whether a style asks for bold is found out unless its weight is illegible. -/
theorem asksBold_eq_ok_iff {style : CodePoints} {bold : Bool} :
    asksBold style = .ok bold ↔ ¬ Illegible (weight style) ∧ (bold = true ↔ Heavy (weight style)) := by
  have hasked : asksBold style = (CodePoints.string? (weight style)).elim (.ok false) isBold := by
    rw [asksBold, value_eq_lastValue, ← weight]
    cases CodePoints.string? (weight style) <;> rfl
  rw [hasked]
  exact bold_eq_ok_iff

section Colors

variable {isColor : CodePoints → Bool}

/-- A style has a format, the one that it asks for, unless its weight is illegible. -/
theorem ofStyle_eq_ok_iff {style : CodePoints} {format : Format} :
    Format.ofStyle isColor style = .ok format ↔ ¬ Illegible (weight style) ∧ Shows isColor style format := by
  have hcolor : ∀ color, (some (lastValue "color" style)).filter isColor = some color ↔
      lastValue "color" style = color ∧ isColor color = true := by
    intro color
    rw [Option.filter_eq_some_iff, Option.some.injEq]
  have hbold := @asksBold_eq_ok_iff style
  simp only [Format.ofStyle, value_eq_lastValue]
  rw [← slant]
  cases hasked : asksBold style with
  | error failure =>
    rw [hasked] at hbold
    constructor
    · intro h
      cases h
    · intro h
      cases hbold.2 ⟨h.1, h.2.bold⟩
  | ok bold =>
    obtain ⟨hlegible, hheavy⟩ := hbold.1 hasked
    constructor
    · rintro ⟨⟩
      exact ⟨hlegible, hheavy, decide_eq_true_iff, hcolor⟩
    · rintro ⟨-, hshows⟩
      refine congrArg Except.ok ?_
      obtain ⟨color, bold', italic⟩ := format
      rw [Format.mk.injEq]
      refine ⟨Option.ext fun c => ?_, Bool.eq_iff_iff.2 (hheavy.trans hshows.bold.symm), Bool.eq_iff_iff.2 ?_⟩
      · rw [hcolor, ← hshows.color]
      · rw [decide_eq_true_iff, hshows.italic]

open Classical in
theorem exists_format_iff {style : CodePoints} :
    (∃ format, Format.ofStyle isColor style = .ok format) ↔ ¬ Illegible (weight style) := by
  rw [Preview.exists_ofStyle_iff]
  constructor
  · rintro ⟨bold, h⟩
    exact (asksBold_eq_ok_iff.1 h).1
  · intro h
    exact ⟨Heavy (weight style), asksBold_eq_ok_iff.2 ⟨h, decide_eq_true_iff⟩⟩

end Colors

end CodeMarkup.Style

namespace CodeMarkup.Preview

open CodeMarkup.Style CodeMarkup.Text CodeMarkup.Token

/-! ## Previews -/

section Colors

variable {isColor : CodePoints → Bool}

theorem exists_create_iff {palette : Palette} {theme : Option Theme} :
    (∃ preview, create isColor palette theme = .ok preview) ↔ Makes isColor ⟨some palette, theme⟩ := by
  constructor
  · rintro ⟨preview, h⟩
    obtain ⟨formats, hformats, -⟩ := create_eq_ok h
    exact ⟨formats, hformats⟩
  · rintro ⟨formats, hformats⟩
    exact ⟨_, by rw [create, hformats]; rfl⟩

theorem setTheme_eq_ok_iff {preview : Preview} {palette : Palette} {theme : Option Theme} :
    (preview.setTheme isColor palette theme).1 = .ok () ↔ Makes isColor ⟨some palette, theme⟩ := by
  rcases preview.setTheme_cases isColor palette theme with ⟨formats, hformats, hset⟩ | ⟨failure, hfailed, hset⟩
  · rw [hset]
    exact iff_of_true rfl ⟨formats, hformats⟩
  · rw [hset]
    refine iff_of_false nofun ?_
    rintro ⟨formats, hformats⟩
    cases hfailed.symm.trans hformats

theorem makes_iff_legible {resolver : Resolver} :
    Makes isColor resolver ↔ ∀ kind ∈ Kind.styled, ¬ Illegible (weight (resolver.style kind)) := by
  simp only [makes_iff, exists_format_iff]

end Colors

/-- A style has a format exactly when its weight is not illegible, and the format is the one that it asks for, in an
editor with any colours. A style without a colour has none in the format, as long as the editor takes no colour for
the empty text. A preview can be made from a palette and a theme, and one that there is can change to them, exactly
when no weight is illegible in the styles of the kinds that are marked up. -/
theorem made_iff (isColor : CodePoints → Bool) (style : CodePoints) (palette : Palette) (theme : Option Theme)
    (preview : Preview) :
    (((∃ format, Format.ofStyle isColor style = .ok format) ↔ ¬ Illegible (weight style)) ∧
      ∀ format, Format.ofStyle isColor style = .ok format → Shows isColor style format ∧
        (isColor [] = false → lastValue "color" style = [] → format.color = none)) ∧
    ((∃ made, create isColor palette theme = .ok made) ↔
      ∀ kind ∈ Kind.styled, ¬ Illegible (weight ((⟨some palette, theme⟩ : Resolver).style kind))) ∧
    ((preview.setTheme isColor palette theme).1 = .ok () ↔
      ∀ kind ∈ Kind.styled, ¬ Illegible (weight ((⟨some palette, theme⟩ : Resolver).style kind))) := by
  rw [exists_create_iff, setTheme_eq_ok_iff, ← makes_iff_legible]
  refine ⟨⟨exists_format_iff, fun format h => ?_⟩, Iff.rfl, Iff.rfl⟩
  have hshows := (ofStyle_eq_ok_iff.1 h).2
  refine ⟨hshows, fun hempty hnone => Option.eq_none_iff_forall_ne_some.2 fun color hcolor => ?_⟩
  obtain ⟨rfl, hknown⟩ := (hshows.color color).1 hcolor
  rw [hnone, hempty] at hknown
  cases hknown

/-- A superscript is a digit, but no number is read from it: a style with such a weight has no format, and a theme
with such a style no preview. -/
theorem ofStyle_superscript :
    Format.ofStyle hexColor "font-weight:²" = .error (.notANumber "²") ∧
      ∃ failure, create hexColor .light (some superscriptTheme) = .error failure := by
  have hstyle : asksBold "font-weight:²" = .error (.notANumber "²") := by decide +kernel
  refine ⟨by rw [Format.ofStyle, hstyle]; rfl, ?_⟩
  cases hcreate : create hexColor .light (some superscriptTheme) with
  | error failure => exact ⟨failure, rfl⟩
  | ok preview => exact absurd (exists_create_iff.1 ⟨preview, hcreate⟩) not_makes_superscript

end CodeMarkup.Preview
