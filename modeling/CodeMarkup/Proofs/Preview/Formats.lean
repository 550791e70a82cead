import CodeMarkup.Preview
import CodeMarkup.Text.Quoted
/-!
# The formats of a preview

A preview is made with one format for each kind that is marked up, or not at all.
-/

namespace CodeMarkup.Preview

open CodeMarkup.Style CodeMarkup.Text CodeMarkup.Token

section Entries

variable {F : Kind → Except Failure Format} {kinds : List Kind}

/-- If a format was made for each of these kinds, they and no others have theirs. -/
theorem get?_mapM {entries : Keyed Kind Format}
    (h : (kinds.mapM fun kind => (F kind).map fun format => (kind, format)) = .ok entries) (kind : Kind) :
    (kind ∈ kinds → ∃ format, Keyed.get? kind entries = some format ∧ F kind = .ok format) ∧
      (kind ∉ kinds → Keyed.get? kind entries = none) := by
  induction kinds generalizing entries with
  | nil =>
    cases h
    exact ⟨nofun, fun _ => rfl⟩
  | cons first kinds ih =>
    rw [List.mapM_cons] at h
    cases hf : F first with
    | error failure => rw [hf] at h; cases h
    | ok format =>
      rw [hf] at h
      cases hr : kinds.mapM fun kind => (F kind).map fun format => (kind, format) with
      | error failure => rw [hr] at h; cases h
      | ok rest =>
        rw [hr] at h
        cases h
        by_cases hfirst : first = kind
        · subst hfirst
          exact ⟨fun _ => ⟨format, if_pos rfl, hf⟩, fun hk => absurd List.mem_cons_self hk⟩
        · rw [List.mem_cons, or_iff_right (Ne.symm hfirst), Keyed.get?, if_neg hfirst]
          exact ih hr

theorem exists_mapM (h : ∀ kind ∈ kinds, ∃ format, F kind = .ok format) :
    ∃ entries, (kinds.mapM fun kind => (F kind).map fun format => (kind, format)) = .ok entries := by
  induction kinds with
  | nil => exact ⟨[], rfl⟩
  | cons first kinds ih =>
    rw [List.forall_mem_cons] at h
    obtain ⟨format, hf⟩ := h.1
    obtain ⟨rest, hr⟩ := ih h.2
    exact ⟨(first, format) :: rest, by rw [List.mapM_cons, hf, hr]; rfl⟩

end Entries

section Colors

-- The colours that the editor knows.
variable {isColor : CodePoints → Bool}

theorem create_eq_ok {palette : Palette} {theme : Option Theme} {preview : Preview}
    (h : create isColor palette theme = .ok preview) :
    ∃ formats, formatsOf isColor ⟨some palette, theme⟩ = .ok formats ∧
      preview = ⟨⟨some palette, theme⟩, formats, none⟩ := by
  simp only [create] at h
  cases hf : formatsOf isColor ⟨some palette, theme⟩ with
  | error failure => rw [hf] at h; cases h
  | ok formats => rw [hf] at h; exact ⟨formats, rfl, (Except.ok.inj h).symm⟩

theorem mem_styled_iff (kind : Kind) : kind ∈ Kind.styled ↔ kind.isStyled = true := by
  cases kind <;> decide

/-- The kinds with a format are those that are marked up. -/
theorem isSome_formats {resolver : Resolver} {formats : Keyed Kind Format}
    (h : formatsOf isColor resolver = .ok formats) (kind : Kind) :
    (Keyed.get? kind formats).isSome = kind.isStyled := by
  obtain ⟨hstyled, hplain⟩ := get?_mapM h kind
  rw [mem_styled_iff] at hstyled hplain
  cases hk : kind.isStyled with
  | true =>
    obtain ⟨format, hformat, -⟩ := hstyled hk
    rw [hformat, Option.isSome_some]
  | false => rw [hplain (by simp [hk]), Option.isSome_none]

theorem format?_isSome {palette : Palette} {theme : Option Theme} {preview : Preview}
    (h : create isColor palette theme = .ok preview) (kind : Kind) :
    (preview.format? kind).isSome = kind.isStyled := by
  obtain ⟨formats, hformats, rfl⟩ := create_eq_ok h
  exact isSome_formats hformats kind

/-- Whether a style has a format is a matter of its weight; its colours have no say in it. -/
theorem exists_ofStyle_iff {style : CodePoints} :
    (∃ format, Format.ofStyle isColor style = .ok format) ↔ ∃ bold, asksBold style = .ok bold := by
  rw [Format.ofStyle]
  cases asksBold style with
  | error failure => exact iff_of_false nofun nofun
  | ok bold => exact iff_of_true ⟨_, rfl⟩ ⟨bold, rfl⟩

theorem exists_create_light : ∃ preview, create isColor .light none = .ok preview := by
  have hbold : ∀ kind ∈ Kind.styled,
      (asksBold ((⟨some .light, none⟩ : Resolver).style kind)).toOption.isSome = true := by decide +kernel
  obtain ⟨formats, hformats⟩ := exists_mapM (F := fun kind => Format.ofStyle isColor
    ((⟨some .light, none⟩ : Resolver).style kind)) fun kind hk => by
      have h := hbold kind hk
      rw [exists_ofStyle_iff]
      cases hasked : asksBold ((⟨some .light, none⟩ : Resolver).style kind) with
      | error failure => rw [hasked] at h; cases h
      | ok bold => exact ⟨bold, rfl⟩
  exact ⟨_, by rw [create, formatsOf, hformats]; rfl⟩

end Colors

/-- The colours of an editor that knows none by name: `#` and hexadecimal digits in one of the usual numbers. -/
def hexColor (s : CodePoints) : Bool :=
  match (CodePoints.string? s).map String.toList with
  | some ('#' :: digits) => [3, 6, 8, 9, 12].contains digits.length && digits.all isHexDigit
  | _ => false

end CodeMarkup.Preview
