import CodeMarkup.Proofs.Style.Color
/-!
# What a colour in front leaves alone

A style that sets no colour is given one in front. `style_onlyAdds`: what the style declares beside the colour
is declared afterwards too, with the same values and in the same order, however the style ends. This takes that
no semicolon cuts the new colour short.
-/

namespace CodeMarkup.Style

open CodeMarkup.Palette CodeMarkup.Text

/-! ## The first that is not empty -/

/-- The text is the first of the candidates that is there and not empty. -/
def IsFirst (candidates : List (Option CodePoints)) (text : CodePoints) : Prop :=
  ∃ before after, candidates = before ++ some text :: after ∧ text ≠ [] ∧
    ∀ candidate ∈ before, candidate = none ∨ candidate = some []

theorem firstFilled?_eq_some_iff {candidates : List (Option CodePoints)} {text : CodePoints} :
    firstFilled? candidates = some text ↔ IsFirst candidates text := by
  have hfilter : ∀ candidate : Option CodePoints,
      candidate.filter (· ≠ []) = none ↔ candidate = none ∨ candidate = some [] := by
    intro candidate
    cases candidate <;> simp
  rw [firstFilled?, List.findSome?_eq_some_iff, IsFirst]
  simp only [hfilter, Option.filter_eq_some_iff, decide_eq_true_eq]
  constructor
  · rintro ⟨before, candidate, after, h, ⟨rfl, hne⟩, hbefore⟩
    exact ⟨before, after, h, hne, hbefore⟩
  · rintro ⟨before, after, h, hne, hbefore⟩
    exact ⟨before, some text, after, h, ⟨rfl, hne⟩, hbefore⟩

theorem IsFirst.mem {candidates : List (Option CodePoints)} {text : CodePoints} (h : IsFirst candidates text) :
    some text ∈ candidates := by
  obtain ⟨before, after, rfl, -, -⟩ := h
  exact List.mem_append_right before List.mem_cons_self

section Resolver

variable (palette : Palette) (theme : Option Theme) (kind : Token.Kind)

theorem foreground?_eq (resolver : Resolver) :
    resolver.foreground? = (resolver.theme.bind (·.foreground)).filter (· ≠ []) := by
  rw [Resolver.foreground?, firstFilled?, List.findSome?_cons]
  cases (resolver.theme.bind (·.foreground)).filter (· ≠ []) <;> rfl

theorem firstFilled?_filter (candidate : Option CodePoints) (rest : List (Option CodePoints)) :
    firstFilled? (candidate.filter (· ≠ []) :: rest) = firstFilled? (candidate :: rest) := by
  rw [firstFilled?, firstFilled?, List.findSome?_cons, List.findSome?_cons, Option.filter_filter]
  simp only [Bool.and_self]

theorem isFirst_chosen {style : CodePoints} (h : (⟨some palette, theme⟩ : Resolver).chosen? kind = some style) :
    IsFirst
      [theme.bind (·.style? kind), theme.bind (·.defaultStyle),
        ((theme.bind (·.foreground)).filter (· ≠ [])).map colorStyle, some (palette.style kind)] style := by
  rw [Resolver.chosen?, Resolver.candidates, foreground?_eq] at h
  exact firstFilled?_eq_some_iff.1 h

theorem isFirst_textColor :
    IsFirst [theme.bind (·.foreground), some palette.base, some neutralColor]
      (⟨some palette, theme⟩ : Resolver).textColor := by
  have hneutral : firstFilled? [some (CodePoints.ofString neutralColor)] = some (CodePoints.ofString neutralColor) :=
    firstFilled?_some (by decide) []
  have hlast : firstFilled? [theme.bind (·.foreground), some (CodePoints.ofString palette.base),
      some (CodePoints.ofString neutralColor)] =
        (firstFilled? [theme.bind (·.foreground), some (CodePoints.ofString palette.base)]).or
          (firstFilled? [some (CodePoints.ofString neutralColor)]) :=
    @List.findSome?_append _ _ _ [_, _] _
  rw [← firstFilled?_eq_some_iff, hlast, hneutral, Option.or_some, Resolver.textColor, foreground?_eq,
    firstFilled?_filter]
  rfl

end Resolver

/-! ## Declarations -/

/-- What a style that is given a colour declares: the colour, and then what it declared itself. -/
theorem declarations_colored {resolver : Resolver} (h : .char ';' ∉ resolver.textColor) (style : CodePoints) :
    declarations (resolver.colored style) =
      Keyed.update [(CodePoints.ofString "color", strip resolver.textColor)] (declarations style) := by
  rw [Resolver.colored, declarations_colorStyle_append, declarations_colorStyle h, declarations_closed]

/-- How the style of a kind comes from the style that was chosen for it. -/
structure OnlyAdds (palette : Palette) (theme : Option Theme) (kind : Token.Kind) (chosen color : CodePoints) :
    Prop where
  /-- The style is chosen by precedence. -/
  chosen_isFirst : IsFirst
    [theme.bind (·.style? kind), theme.bind (·.defaultStyle),
      ((theme.bind (·.foreground)).filter (· ≠ [])).map colorStyle, some (palette.style kind)] chosen
  /-- The colour is chosen by precedence. -/
  color_isFirst : IsFirst [theme.bind (·.foreground), some palette.base, some "#222"] color
  /-- A style with a colour stays as it is. -/
  kept : hasColor chosen = true → (⟨some palette, theme⟩ : Resolver).style kind = chosen
  /-- Without one, the style declares the colour first, and then all that it declared. -/
  given : hasColor chosen = false → declarations ((⟨some palette, theme⟩ : Resolver).style kind) =
    Keyed.update [(CodePoints.ofString "color", strip color)] (declarations chosen)
  /-- What is declared beside the colour stays, with its values and in its order. -/
  others : Keyed.erase (CodePoints.ofString "color") (declarations ((⟨some palette, theme⟩ : Resolver).style kind)) =
    Keyed.erase (CodePoints.ofString "color") (declarations chosen)

/-- The repair of a style without a colour only adds one, if there is no semicolon in the colours that it may
take. -/
theorem style_onlyAdds (palette : Palette) (theme : Option Theme) (kind : Token.Kind)
    (hforeground : ∀ foreground, theme.bind (·.foreground) = some foreground → .char ';' ∉ foreground)
    (hbase : ';' ∉ palette.base.toList) : ∃ chosen color, OnlyAdds palette theme kind chosen color := by
  obtain ⟨chosen, hchosen⟩ := exists_chosen palette theme kind
  have hstyle : (⟨some palette, theme⟩ : Resolver).style kind =
      if hasColor chosen then chosen else (⟨some palette, theme⟩ : Resolver).colored chosen := by
    rw [Resolver.style, hchosen]
  have hcolor := isFirst_textColor palette theme
  have hplain : .char ';' ∉ (⟨some palette, theme⟩ : Resolver).textColor := by
    have hm := hcolor.mem
    simp only [List.mem_cons, List.not_mem_nil, or_false] at hm
    rcases hm with h | h | h
    · exact hforeground _ h.symm
    · rw [Option.some.inj h]
      simpa [CodePoints.ofString, CodePoints.ofChars] using hbase
    · rw [Option.some.inj h]
      decide
  have hgiven : hasColor chosen = false → declarations ((⟨some palette, theme⟩ : Resolver).style kind) =
      Keyed.update [(CodePoints.ofString "color", strip (⟨some palette, theme⟩ : Resolver).textColor)]
        (declarations chosen) := by
    intro h
    rw [hstyle, h]
    exact declarations_colored hplain chosen
  refine ⟨chosen, _, isFirst_chosen palette theme kind hchosen, hcolor, fun h => by rw [hstyle, if_pos h],
    hgiven, ?_⟩
  cases h : hasColor chosen with
  | true => rw [hstyle, if_pos h]
  | false =>
    rw [hgiven h, Keyed.erase_update, Keyed.erase_cons_self]
    exact Keyed.ofList_of_nodup (Keyed.nodup_keys_erase _ (nodup_declarations chosen))

/-- A theme whose default style sets no colour and ends in blanks, with blanks around the foreground. -/
def unfinishedTheme : Theme where
  foreground := some " #e5e5e5 "
  defaultStyle := some "font-weight:bold; x ; Font-Style : italic \t"

/-- The default style of `unfinishedTheme` is given the foreground as its colour. -/
theorem style_onlyAdds_unfinished :
    (∀ foreground, (some unfinishedTheme).bind (·.foreground) = some foreground → .char ';' ∉ foreground) ∧
      ';' ∉ Palette.light.base.toList ∧
      ∃ chosen color, OnlyAdds .light (some unfinishedTheme) .keyword chosen color := by
  have hforeground : ∀ foreground, (some unfinishedTheme).bind (·.foreground) = some foreground →
      .char ';' ∉ foreground := by
    rintro _ ⟨⟩
    decide
  have hbase : ';' ∉ Palette.light.base.toList := by decide
  exact ⟨hforeground, hbase, style_onlyAdds .light (some unfinishedTheme) .keyword hforeground hbase⟩

end CodeMarkup.Style
