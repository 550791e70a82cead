import CodeMarkup.Proofs.Preview.Formats
/-!
# Changing the theme of a preview

A preview keeps formats that were made from its styles. They fit the styles as long as they were made from
these very styles (`Kept`), and every operation sees to that. But when the formats of a new theme cannot be made,
the styles are already the new ones, and nothing fits them until the theme is changed again
(`consistent_performAll_iff`). `setTheme_superscript` is such a change.
-/

namespace CodeMarkup.Preview

open CodeMarkup.Style CodeMarkup.Text CodeMarkup.Token

/-! ## Operations -/

/-- Something that is done to a preview. -/
inductive Operation
  | setTheme (palette : Palette) (theme : Option Theme)
  | setText (text : String)
  | rehighlight
  | highlight (previous : Int) (line : String)

-- The colours that the editor knows.
variable {isColor : CodePoints → Bool}

/-- What an operation gives, and the preview that it leaves. -/
def perform (isColor : CodePoints → Bool) (preview : Preview) : Operation → Except Failure (List Block) × Preview
  | .setTheme palette theme =>
    let (result, left) := preview.setTheme isColor palette theme
    (result.map fun _ => left.blocks, left)
  | .setText text => (.ok (preview.setText text).blocks, preview.setText text)
  | .rehighlight => (.ok preview.blocks, preview)
  | .highlight previous line => (.ok [preview.highlight previous line], preview)

/-- The preview that operations leave, whether they fail or not. -/
def performAll (isColor : CodePoints → Bool) (preview : Preview) (operations : List Operation) : Preview :=
  operations.foldl (fun preview operation => (preview.perform isColor operation).2) preview

/-- The styles that the last change of the theme asks for, if there is one. -/
def lastAsked? : List Operation → Option Resolver
  | [] => none
  | .setTheme palette theme :: rest => (lastAsked? rest).or (some ⟨some palette, theme⟩)
  | _ :: rest => lastAsked? rest

/-- The formats of these styles can be made. -/
def Makes (isColor : CodePoints → Bool) (resolver : Resolver) : Prop :=
  ∃ formats, formatsOf isColor resolver = .ok formats

/-- Every kind that is marked up has the format that its style asks for. -/
def Consistent (isColor : CodePoints → Bool) (preview : Preview) : Prop :=
  ∀ kind ∈ Kind.styled, ∃ format, preview.format? kind = some format ∧
    Format.ofStyle isColor (preview.resolver.style kind) = .ok format

/-! ## The invariant -/

/-- Formats can be made when every style asks for one. -/
theorem makes_iff {resolver : Resolver} :
    Makes isColor resolver ↔
      ∀ kind ∈ Kind.styled, ∃ format, Format.ofStyle isColor (resolver.style kind) = .ok format := by
  constructor
  · rintro ⟨formats, h⟩ kind hk
    obtain ⟨format, -, hformat⟩ := (get?_mapM h kind).1 hk
    exact ⟨format, hformat⟩
  · exact exists_mapM

/-- If the formats of the styles can be made, they are the formats that are kept. -/
def Kept (isColor : CodePoints → Bool) (preview : Preview) : Prop :=
  ∀ formats, formatsOf isColor preview.resolver = .ok formats → preview.formats = formats

theorem Kept.consistent_iff {preview : Preview} (h : Kept isColor preview) :
    Consistent isColor preview ↔ Makes isColor preview.resolver := by
  constructor
  · intro hc
    rw [makes_iff]
    intro kind hk
    obtain ⟨format, -, hformat⟩ := hc kind hk
    exact ⟨format, hformat⟩
  · rintro ⟨formats, hformats⟩ kind hk
    rw [format?, h formats hformats]
    exact (get?_mapM hformats kind).1 hk

theorem kept_create {palette : Palette} {theme : Option Theme} {preview : Preview}
    (h : create isColor palette theme = .ok preview) : Kept isColor preview ∧ Makes isColor preview.resolver := by
  obtain ⟨formats, hf, rfl⟩ := create_eq_ok h
  exact ⟨fun other hother => Except.ok.inj (hf.symm.trans hother), formats, hf⟩

/-- What a change of the theme comes to: new styles with their formats, or new styles with the old formats. -/
theorem setTheme_cases (isColor : CodePoints → Bool) (preview : Preview) (palette : Palette)
    (theme : Option Theme) :
    (∃ formats, formatsOf isColor ⟨some palette, theme⟩ = .ok formats ∧
      preview.setTheme isColor palette theme =
        (.ok (), { preview with resolver := ⟨some palette, theme⟩, formats })) ∨
    ∃ failure, formatsOf isColor ⟨some palette, theme⟩ = .error failure ∧
      preview.setTheme isColor palette theme =
        (.error failure, { preview with resolver := ⟨some palette, theme⟩ }) := by
  rw [setTheme]
  cases formatsOf isColor ⟨some palette, theme⟩ with
  | ok formats => exact .inl ⟨formats, rfl, rfl⟩
  | error failure => exact .inr ⟨failure, rfl, rfl⟩

theorem kept_setTheme (isColor : CodePoints → Bool) (preview : Preview) (palette : Palette)
    (theme : Option Theme) : Kept isColor (preview.setTheme isColor palette theme).2 := by
  intro formats h
  rcases preview.setTheme_cases isColor palette theme with ⟨made, hmade, hset⟩ | ⟨failure, hfailed, hset⟩
  · rw [hset] at h ⊢
    cases hmade.symm.trans h
    rfl
  · rw [hset] at h
    cases hfailed.symm.trans h

theorem resolver_setTheme (isColor : CodePoints → Bool) (preview : Preview) (palette : Palette)
    (theme : Option Theme) : (preview.setTheme isColor palette theme).2.resolver = ⟨some palette, theme⟩ := by
  rcases preview.setTheme_cases isColor palette theme with ⟨made, -, hset⟩ | ⟨failure, -, hset⟩ <;> rw [hset]

theorem Kept.perform {preview : Preview} (h : Kept isColor preview) (operation : Operation) :
    Kept isColor (preview.perform isColor operation).2 := by
  cases operation with
  | setTheme palette theme => exact kept_setTheme isColor preview palette theme
  | setText text => exact h
  | rehighlight => exact h
  | highlight previous line => exact h

theorem Kept.performAll {preview : Preview} (h : Kept isColor preview) (operations : List Operation) :
    Kept isColor (preview.performAll isColor operations) := by
  induction operations generalizing preview with
  | nil => exact h
  | cons operation rest ih => exact ih (h.perform operation)

/-- The styles are those that were asked for last. -/
theorem resolver_performAll (isColor : CodePoints → Bool) (preview : Preview) (operations : List Operation) :
    (preview.performAll isColor operations).resolver = (lastAsked? operations).getD preview.resolver := by
  induction operations generalizing preview with
  | nil => rfl
  | cons operation rest ih =>
    refine (ih (preview.perform isColor operation).2).trans ?_
    cases operation with
    | setTheme palette theme =>
      rw [lastAsked?, Option.getD_or]
      exact congrArg _ (resolver_setTheme isColor preview palette theme)
    | setText text => rfl
    | rehighlight => rfl
    | highlight previous line => rfl

/-! ## Highlighting depends on the formats alone -/

section SameFormats

variable {preview other : Preview}

theorem spansFrom_congr (h : other.formats = preview.formats) (offset : Nat) (tokens : List Token) :
    other.spansFrom offset tokens = preview.spansFrom offset tokens := by
  induction tokens generalizing offset with
  | nil => rfl
  | cons token tokens ih => simp only [spansFrom, format?, h, ih]

theorem highlight_congr (h : other.formats = preview.formats) (previous : Int) (line : String) :
    other.highlight previous line = preview.highlight previous line := by
  simp only [highlight, highlightFrom, commentSpan, format?, h, spansFrom_congr h]

theorem highlightAll_congr (h : other.formats = preview.formats) (previous : Int) (lines : List String) :
    other.highlightAll previous lines = preview.highlightAll previous lines := by
  induction lines generalizing previous with
  | nil => rfl
  | cons line rest ih => simp only [highlightAll, highlight_congr h, ih]

theorem blocks_congr (h : other.formats = preview.formats) (hdocument : other.document = preview.document) :
    other.blocks = preview.blocks := by
  rw [blocks, blocks, hdocument, highlightAll_congr h]

end SameFormats

/-! ## Runs of operations -/

/-- Previews with the same formats and the same document cannot be told apart by what operations give. -/
theorem perform_congr {preview other : Preview} (h : other.formats = preview.formats)
    (hdocument : other.document = preview.document) (operation : Operation) :
    (other.perform isColor operation).1 = (preview.perform isColor operation).1 := by
  cases operation with
  | setTheme palette theme =>
    rw [perform, perform]
    -- Whether the new formats can be made does not depend on the preview.
    rcases preview.setTheme_cases isColor palette theme with ⟨made, hmade, hset⟩ | ⟨failure, hfailed, hset⟩ <;>
      rcases other.setTheme_cases isColor palette theme with ⟨made', hmade', hset'⟩ | ⟨failure', hfailed', hset'⟩
    · cases hmade.symm.trans hmade'
      rw [hset, hset']
      exact congrArg Except.ok (blocks_congr rfl hdocument)
    · cases hmade.symm.trans hfailed'
    · cases hfailed.symm.trans hmade'
    · cases hfailed.symm.trans hfailed'
      rw [hset, hset']
      rfl
  | setText text => exact congrArg Except.ok (blocks_congr h rfl)
  | rehighlight => exact congrArg Except.ok (blocks_congr h hdocument)
  | highlight previous line => exact congrArg (Except.ok [·]) (highlight_congr h previous line)

/-- A change of the theme that fails takes effect on the background and on nothing else. -/
theorem setTheme_failed {preview left : Preview} {palette : Palette} {theme : Option Theme} {failure : Failure}
    (h : preview.setTheme isColor palette theme = (.error failure, left)) :
    (∀ kind, left.format? kind = preview.format? kind) ∧
      (∀ operation, (left.perform isColor operation).1 = (preview.perform isColor operation).1) ∧
      left.background = (⟨some palette, theme⟩ : Resolver).background ∧ ¬ Consistent isColor left := by
  have hkept := kept_setTheme isColor preview palette theme
  rcases preview.setTheme_cases isColor palette theme with ⟨made, -, hset⟩ | ⟨other, hfailed, hset⟩
  · cases hset.symm.trans h
  · rw [hset] at h hkept
    cases h
    refine ⟨fun _ => rfl, perform_congr rfl rfl, rfl, fun hc => ?_⟩
    -- Formats that fit the new styles would be those that could not be made.
    obtain ⟨formats, hformats⟩ := hkept.consistent_iff.1 hc
    cases hfailed.symm.trans hformats

/-- After any operations the formats fit the styles exactly when those of the theme asked for last can be made,
which is when the last change of the theme did not fail. One that fails leaves the formats as they were, and
whatever is done next gives what it would have given before; but the background is the new one. -/
theorem consistent_performAll_iff {palette : Palette} {theme : Option Theme} {preview : Preview}
    (h : create isColor palette theme = .ok preview) (operations : List Operation) :
    (Consistent isColor (preview.performAll isColor operations) ↔
      ∀ resolver, lastAsked? operations = some resolver → Makes isColor resolver) ∧
    ∀ palette' theme' failure left,
      (preview.performAll isColor operations).setTheme isColor palette' theme' = (.error failure, left) →
        (∀ kind, left.format? kind = (preview.performAll isColor operations).format? kind) ∧
        (∀ operation, (left.perform isColor operation).1 =
          ((preview.performAll isColor operations).perform isColor operation).1) ∧
        left.background = (⟨some palette', theme'⟩ : Resolver).background ∧ ¬ Consistent isColor left := by
  obtain ⟨hkept, hmakes⟩ := kept_create h
  refine ⟨?_, fun _ _ _ _ => setTheme_failed⟩
  rw [(hkept.performAll operations).consistent_iff, resolver_performAll]
  cases lastAsked? operations with
  | none => exact ⟨fun _ => nofun, fun _ => hmakes⟩
  | some resolver => exact ⟨fun hm _ hr => Option.some.inj hr ▸ hm, fun hm => hm resolver rfl⟩

/-- A theme with a background of its own, and with a weight that is a digit but no number. -/
def superscriptTheme : Theme := Theme.ofMembers
  [("background", .str "#102030"), ("styles", .obj [("keyword", .str "font-weight:²")])]

/-- A change that fails is made good by one that does not. -/
theorem consistent_performAll_repaired :
    ∃ preview, create hexColor .light none = .ok preview ∧ Consistent hexColor (preview.performAll hexColor
      [.setText "int x; // one", .setTheme .light (some superscriptTheme), .setTheme .light none]) := by
  obtain ⟨preview, hp⟩ := exists_create_light
  obtain ⟨formats, hformats, -⟩ := create_eq_ok hp
  refine ⟨preview, hp, (consistent_performAll_iff hp _).1.2 fun resolver hasked => ?_⟩
  simp only [lastAsked?, Option.none_or, Option.some_or, Option.some.injEq] at hasked
  exact hasked ▸ ⟨formats, hformats⟩

/-- The style of keywords has no format there, whatever the colours. -/
theorem not_makes_superscript : ¬ Makes isColor ⟨some .light, some superscriptTheme⟩ := by
  have hweight : (asksBold (Resolver.style ⟨some .light, some superscriptTheme⟩ .keyword)).toOption.isSome =
      false := by decide +kernel
  intro h
  obtain ⟨bold, hbold⟩ := exists_ofStyle_iff.1 (makes_iff.1 h .keyword (by decide))
  rw [hbold] at hweight
  cases hweight

/-- The change to `superscriptTheme` fails. It changes the background and nothing else. -/
theorem setTheme_superscript :
    ∃ preview failure left, create hexColor .light none = .ok preview ∧
      preview.setTheme hexColor .light (some superscriptTheme) = (.error failure, left) ∧
      ¬ Consistent hexColor left ∧ (∀ kind, left.format? kind = preview.format? kind) ∧
      preview.background = "#ffffff" ∧ left.background = "#102030" := by
  obtain ⟨preview, hp⟩ := @exists_create_light hexColor
  have hwhite : (⟨some .light, none⟩ : Resolver).background = "#ffffff" := by decide +kernel
  have hblue : (⟨some .light, some superscriptTheme⟩ : Resolver).background = "#102030" := by decide +kernel
  rcases preview.setTheme_cases hexColor .light (some superscriptTheme) with ⟨made, hmade, -⟩ | ⟨failure, -, hset⟩
  · exact absurd ⟨made, hmade⟩ not_makes_superscript
  · obtain ⟨hformat, -, hbackground, hbroken⟩ := setTheme_failed hset
    obtain ⟨formats, -, rfl⟩ := create_eq_ok hp
    exact ⟨_, failure, _, hp, hset, hbroken, hformat, hwhite, hbackground.trans hblue⟩

end CodeMarkup.Preview
