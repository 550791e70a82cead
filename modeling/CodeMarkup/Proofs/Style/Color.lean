import CodeMarkup.Palette.Registry
import CodeMarkup.Proofs.Keyed
import CodeMarkup.Proofs.Text.Blank
import CodeMarkup.Style.Resolver
/-!
# The colour of text

A style that sets no colour is given one in front. As later declarations take the place of earlier ones, the
colour in front counts only where the style declares none itself (`color?_colored`). `hasColor_style_iff` says
when a kind ends up with a colour under the built-in palettes: always without a theme, and with one exactly
when the chosen style has a colour or leaves it to a foreground that is one. `style_emptyColor` is a theme
with which a kind has none.
-/

namespace CodeMarkup.Style

open CodeMarkup.Palette CodeMarkup.Text

/-! ## Declarations -/

theorem declaration?_eq_none {part : CodePoints} (h : .char ':' ∉ part) : declaration? part = none := by
  have hd : part.dropWhile (· ≠ .char ':') = [] := by
    rw [List.dropWhile_eq_nil_iff]
    intro c hc
    exact decide_eq_true fun he => h (he ▸ hc)
  rw [declaration?, List.span_eq_takeWhile_dropWhile, hd]

theorem declaration?_append {before : CodePoints} (h : .char ':' ∉ before) (after : CodePoints) :
    declaration? (before ++ .char ':' :: after) =
      if lower (strip before) = [] then none else some (lower (strip before), strip after) := by
  have hp : ∀ c ∈ before, decide (c ≠ .char ':') = true := by
    intro c hc
    exact decide_eq_true fun he => h (he ▸ hc)
  rw [declaration?, List.span_eq_takeWhile_dropWhile, List.takeWhile_append_of_pos hp,
    List.dropWhile_append_of_pos hp]
  simp

theorem declaration?_append_blanks {blanks : CodePoints} (h : ∀ c ∈ blanks, c.has isBlank = true)
    (part : CodePoints) : declaration? (part ++ blanks) = declaration? part := by
  by_cases hm : .char ':' ∈ part
  · obtain ⟨before, after, rfl, hb⟩ := List.eq_append_cons_of_mem hm
    rw [List.append_assoc, List.cons_append, declaration?_append hb, declaration?_append hb,
      strip_append h]
  · rw [declaration?_eq_none hm, declaration?_eq_none]
    rw [List.mem_append, not_or]
    exact ⟨hm, not_mem_blanks h (by decide)⟩

theorem declarations_stripEnd (style : CodePoints) : declarations (stripEnd style) = declarations style := by
  obtain ⟨blanks, hb, hs⟩ := exists_stripEnd_append style
  obtain ⟨parts, last, h1, h2⟩ :=
    splitOn_append_of_not_mem (not_mem_blanks hb (c := .char ';') (by decide)) (stripEnd style)
  rw [← hs] at h2
  unfold declarations
  rw [h1, h2, List.filterMap_append, List.filterMap_append, List.filterMap_cons, List.filterMap_cons,
    declaration?_append_blanks hb]

/-- No property is declared twice. -/
theorem nodup_declarations (style : CodePoints) : (Keyed.keys (declarations style)).Nodup :=
  Keyed.nodup_keys_ofList _

/-- The declarations after a semicolon go into those before it. -/
theorem declarations_append (style rest : CodePoints) :
    declarations (style ++ .char ';' :: rest) = Keyed.update (declarations style) (declarations rest) := by
  unfold declarations
  rw [splitOn_append, List.filterMap_append, Keyed.ofList_append]

/-- A semicolon at the end changes no declaration. -/
theorem declarations_closed (style : CodePoints) :
    declarations (Resolver.closed style) = declarations style := by
  unfold Resolver.closed
  simp only
  split
  · rfl
  · show declarations (stripEnd style ++ .char ';' :: []) = _
    rw [declarations_append, declarations_stripEnd]
    rfl

theorem colorStyle_append (color rest : CodePoints) :
    colorStyle color ++ rest = (CodePoints.ofString "color" ++ .char ':' :: color) ++ .char ';' :: rest := by
  rw [colorStyle, List.append_assoc _ (CodePoints.ofString ";")]
  rfl

/-- What follows a colour goes into its declarations. -/
theorem declarations_colorStyle_append (color rest : CodePoints) :
    declarations (colorStyle color ++ rest) =
      Keyed.update (declarations (colorStyle color)) (declarations rest) := by
  have hcolor : declarations (colorStyle color) =
      declarations (CodePoints.ofString "color" ++ .char ':' :: color) := by
    have h := declarations_append (CodePoints.ofString "color" ++ .char ':' :: color) []
    rwa [← colorStyle_append, List.append_nil] at h
  rw [hcolor, colorStyle_append, declarations_append]

/-- A colour is declared as it is, but for blanks around it, unless a semicolon ends it early. -/
theorem declarations_colorStyle {color : CodePoints} (h : .char ';' ∉ color) :
    declarations (colorStyle color) = [(CodePoints.ofString "color", strip color)] := by
  have hproperty : .char ':' ∉ CodePoints.ofString "color" := by decide
  have hlower : lower (strip "color") = CodePoints.ofString "color" := by decide +kernel
  have hpart : .char ';' ∉ CodePoints.ofString "color" ++ .char ':' :: color := by
    rw [List.mem_append, List.mem_cons, not_or, not_or]
    exact ⟨by decide, by decide, h⟩
  have hstyle := colorStyle_append color []
  rw [List.append_nil] at hstyle
  rw [hstyle, declarations_append, declarations, splitOn_of_not_mem hpart, List.filterMap_cons,
    declaration?_append hproperty, hlower]
  rfl

/-! ## Colours -/

/-- What a style declares as the colour of text. It may be empty. -/
def color? (style : CodePoints) : Option CodePoints :=
  Keyed.get? (CodePoints.ofString "color") (declarations style)

theorem hasColor_iff (style : CodePoints) :
    hasColor style = true ↔ ∃ color, color ≠ [] ∧ color? style = some color := by
  unfold hasColor value color?
  cases Keyed.get? (CodePoints.ofString "color") (declarations style) with
  | none => simp
  | some color => simp

theorem ne_nil_of_hasColor {style : CodePoints} (h : hasColor style = true) : style ≠ [] := by
  rintro rfl
  cases h

theorem color?_colorStyle_append (color rest : CodePoints) :
    color? (colorStyle color ++ rest) = (color? rest).or (color? (colorStyle color)) := by
  unfold color?
  rw [declarations_colorStyle_append, Keyed.get?_update, Keyed.ofList_of_nodup (nodup_declarations rest)]

/-- A colour in front of a style counts if the style declares none itself. -/
theorem color?_colored (resolver : Resolver) (style : CodePoints) :
    color? (resolver.colored style) = (color? style).or (color? (colorStyle resolver.textColor)) := by
  rw [Resolver.colored, color?_colorStyle_append]
  unfold color?
  rw [declarations_closed]

/-- A text that is declared as it is, but for blanks around it: it is not blank, and no semicolon ends it
early. -/
def IsPlain (color : CodePoints) : Prop := strip color ≠ [] ∧ .char ';' ∉ color

instance (color : CodePoints) : Decidable (IsPlain color) := inferInstanceAs (Decidable (_ ∧ _))

theorem color?_colorStyle {color : CodePoints} (h : IsPlain color) :
    color? (colorStyle color) = some (strip color) := by
  rw [color?, declarations_colorStyle h.2, Keyed.get?, if_pos rfl]

theorem hasColor_colorStyle {color : CodePoints} (h : IsPlain color) : hasColor (colorStyle color) = true :=
  (hasColor_iff _).2 ⟨strip color, h.1, color?_colorStyle h⟩

/-! ## Palettes -/

/-- The colour that a palette gives a kind. -/
def tint (palette : Palette) : Token.Kind → String
  | .keyword => palette.keyword
  | .type => palette.type
  | .string => palette.string
  | .char => orElse palette.char palette.string
  | .comment => palette.comment
  | .number => palette.number
  | Token.Kind.annotation => orElse palette.annotation palette.keyword
  | .identifier | .punctuation | .whitespace => palette.base

/-- What a palette declares for a kind beside the colour. -/
def emphasis : Token.Kind → String
  | .keyword | .type => "font-weight:bold;"
  | .comment => "font-style:italic;"
  | _ => ""

theorem palette_style (palette : Palette) (kind : Token.Kind) :
    CodePoints.ofString (palette.style kind) =
      colorStyle (tint palette kind) ++ CodePoints.ofString (emphasis kind) := by
  unfold colorStyle
  cases kind <;> simp [Palette.style, tint, emphasis, CodePoints.ofString, CodePoints.ofChars]

theorem color?_emphasis (kind : Token.Kind) : color? (emphasis kind) = none := by
  have hbold : color? "font-weight:bold;" = none := by decide +kernel
  have hitalic : color? "font-style:italic;" = none := by decide +kernel
  cases kind with
  | keyword => exact hbold
  | type => exact hbold
  | comment => exact hitalic
  | _ => rfl

theorem hasColor_palette_style {palette : Palette} {kind : Token.Kind} (h : IsPlain (tint palette kind)) :
    hasColor (palette.style kind) = true := by
  rw [hasColor_iff]
  refine ⟨strip (tint palette kind), h.1, ?_⟩
  rw [palette_style, color?_colorStyle_append, color?_emphasis, Option.none_or, color?_colorStyle h]

theorem isPlain_builtIn (name : Option CodePoints) (kind : Token.Kind) :
    IsPlain (tint (Registry.builtIn.lookup? name) kind) := by
  have hall : ∀ entry ∈ Registry.builtIn.palettes, ∀ kind ∈ Token.Kind.all, IsPlain (tint entry.2 kind) := by
    decide +kernel
  obtain ⟨id, hm⟩ := Registry.lookup?_registered Registry.builtIn name
  refine hall _ hm kind ?_
  cases kind <;> decide

/-! ## The first that is not empty -/

theorem firstFilled?_none (rest : List (Option CodePoints)) :
    firstFilled? (none :: rest) = firstFilled? rest := rfl

theorem firstFilled?_some {text : CodePoints} (h : text ≠ []) (rest : List (Option CodePoints)) :
    firstFilled? (some text :: rest) = some text := by
  have hf : (some text).filter (· ≠ []) = some text :=
    Option.filter_eq_some_iff.2 ⟨rfl, decide_eq_true h⟩
  rw [firstFilled?, List.findSome?_cons, hf]

theorem firstFilled?_ne_nil {candidates : List (Option CodePoints)} {text : CodePoints}
    (h : firstFilled? candidates = some text) : text ≠ [] := by
  obtain ⟨candidate, -, hc⟩ := List.exists_of_findSome?_eq_some h
  exact of_decide_eq_true (Option.filter_eq_some_iff.1 hc).2

theorem textColor_of_foreground {resolver : Resolver} {foreground : CodePoints}
    (h : resolver.foreground? = some foreground) : resolver.textColor = foreground := by
  rw [Resolver.textColor, h, firstFilled?_some (firstFilled?_ne_nil h)]
  rfl

/-! ## Kinds -/

/-- When a kind has a colour, by the style that was chosen for it. -/
theorem hasColor_of_chosen {resolver : Resolver} {kind : Token.Kind} {style : CodePoints}
    (h : resolver.chosen? kind = some style) :
    hasColor (resolver.style kind) = true ↔
      hasColor style = true ∨
        (color? style = none ∧ hasColor (colorStyle resolver.textColor) = true) := by
  have hstyle : resolver.style kind = if hasColor style then style else resolver.colored style := by
    rw [Resolver.style, h]
  rw [hstyle]
  by_cases hc : hasColor style = true
  · rw [if_pos hc]
    exact ⟨.inl, fun _ => hc⟩
  · rw [if_neg hc, hasColor_iff, hasColor_iff (colorStyle _), color?_colored]
    cases hs : color? style with
    | none => simp [hc]
    | some color =>
      -- What is declared is empty, and it still comes last.
      have hempty : color = [] := by
        by_contra hne
        exact hc ((hasColor_iff style).2 ⟨color, hne, hs⟩)
      simp [hc, hempty]

/-- The resolver of the built-in palette that a name gives and of the theme that the members of an object
describe, if there is one. -/
def resolverOf (name : Option CodePoints) (members : Option (Keyed CodePoints Json.Value)) : Resolver :=
  ⟨some (Registry.builtIn.lookup? name), members.map Theme.ofMembers⟩

/-- The colour put in front is the foreground, and without one the palette's, which always is a colour. -/
theorem hasColor_textColor (name : Option CodePoints) (members : Option (Keyed CodePoints Json.Value)) :
    hasColor (colorStyle (resolverOf name members).textColor) = true ↔
      ∀ foreground, (resolverOf name members).foreground? = some foreground →
        hasColor (colorStyle foreground) = true := by
  cases hf : (resolverOf name members).foreground? with
  | some foreground =>
    rw [textColor_of_foreground hf]
    constructor
    · rintro h _ ⟨⟩
      exact h
    · intro h
      exact h foreground rfl
  | none =>
    have hplain := isPlain_builtIn name .whitespace
    have hne : CodePoints.ofString (Registry.builtIn.lookup? name).base ≠ [] := fun he =>
      hplain.1 (by rw [tint, he]; rfl)
    have htext : (resolverOf name members).textColor =
        CodePoints.ofString (Registry.builtIn.lookup? name).base := by
      rw [Resolver.textColor, hf, firstFilled?_none, resolverOf, Option.map_some, firstFilled?_some hne]
      rfl
    rw [htext]
    constructor
    · rintro - _ ⟨⟩
    · intro _
      exact hasColor_colorStyle hplain

/-- With a palette there is a style to choose: the palette's comes last and is not empty. -/
theorem exists_chosen (palette : Palette) (theme : Option Theme) (kind : Token.Kind) :
    ∃ style, (⟨some palette, theme⟩ : Resolver).chosen? kind = some style := by
  have hne : CodePoints.ofString (palette.style kind) ≠ [] := by
    rw [palette_style, colorStyle_append]
    exact List.append_ne_nil_of_right_ne_nil _ (List.cons_ne_nil _ _)
  rw [← Option.isSome_iff_exists, Resolver.chosen?, firstFilled?, List.findSome?_isSome_iff]
  refine ⟨some (CodePoints.ofString (palette.style kind)), by simp [Resolver.candidates], ?_⟩
  simp [hne]

theorem hasColor_withoutTheme (name : Option CodePoints) (kind : Token.Kind) :
    hasColor ((resolverOf name none).style kind) = true := by
  have hcolor := hasColor_palette_style (isPlain_builtIn name kind)
  have hpalette : (resolverOf name none).chosen? kind =
      some (CodePoints.ofString ((Registry.builtIn.lookup? name).style kind)) :=
    firstFilled?_some (ne_nil_of_hasColor hcolor) []
  exact (hasColor_of_chosen hpalette).2 (.inl hcolor)

/-- A kind has a colour exactly when the style chosen for it has one, or declares none at all and the theme's
foreground, if there is one, is a colour. Without a theme every kind has one. -/
theorem hasColor_style_iff (members : Option (Keyed CodePoints Json.Value)) (name : Option CodePoints)
    (kind : Token.Kind) :
    (hasColor ((resolverOf name members).style kind) = true ↔
      ∃ style, (resolverOf name members).chosen? kind = some style ∧
        (hasColor style = true ∨
          (color? style = none ∧ ∀ foreground, (resolverOf name members).foreground? = some foreground →
            hasColor (colorStyle foreground) = true))) ∧
      hasColor ((resolverOf name none).style kind) = true := by
  refine ⟨?_, hasColor_withoutTheme name kind⟩
  obtain ⟨style, hs⟩ : ∃ style, (resolverOf name members).chosen? kind = some style := exists_chosen _ _ kind
  rw [hasColor_of_chosen hs, hasColor_textColor]
  constructor
  · intro h
    exact ⟨style, hs, h⟩
  · rintro ⟨other, ho, h⟩
    cases hs.symm.trans ho
    exact h

/-- A theme that declares the colour of keywords and leaves it empty: the colour in front does not count. -/
theorem style_emptyColor :
    let resolver := resolverOf none (some [("styles", .obj [("keyword", .str "color:")])])
    resolver.style .keyword = CodePoints.ofString "color:#222;color:;" ∧
      hasColor (resolver.style .keyword) = false := by
  decide +kernel

end CodeMarkup.Style
