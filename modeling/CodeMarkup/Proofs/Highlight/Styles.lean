import CodeMarkup.Proofs.Highlight.Blocks
import CodeMarkup.Proofs.Keyed
import CodeMarkup.Proofs.Markup.Document
/-!
# Styles that are kept

While tokens are rendered, the style of a kind is resolved when the first token of that kind comes, and kept for the
others. The markup does not show it: it is that of one token after the other, each in a style that is resolved for
it. What shows it is the log, where a style that has no colour is noted once for every kind, however many tokens of
that kind there are (`render_afresh`).
-/

namespace CodeMarkup

open CodeMarkup.Log CodeMarkup.Markup CodeMarkup.Palette CodeMarkup.Style CodeMarkup.Text

namespace Markup

/-! ## The kinds that have come -/

/-- The kinds of marked-up tokens, in the order in which they first come. -/
def kindsOf (tokens : List Token) : List Token.Kind :=
  ((tokens.filter (·.isStyled)).map (·.kind)).eraseDups

theorem kindsOf_concat (tokens : List Token) (token : Token) :
    kindsOf (tokens ++ [token]) =
      if token.isStyled = true ∧ token.kind ∉ kindsOf tokens then kindsOf tokens ++ [token.kind]
      else kindsOf tokens := by
  have hmem : token.kind ∈ kindsOf tokens ↔ token.kind ∈ (tokens.filter (·.isStyled)).map (·.kind) :=
    List.mem_eraseDups
  rw [kindsOf, List.filter_append, List.map_append]
  cases hstyled : token.isStyled with
  | false =>
    rw [List.filter_cons_of_neg (by simp [hstyled]), if_neg (by simp)]
    exact congrArg List.eraseDups (List.append_nil _)
  | true =>
    rw [List.filter_cons_of_pos hstyled, List.filter_nil, List.map_singleton, Keyed.eraseDups_concat]
    by_cases hm : token.kind ∈ (tokens.filter (·.isStyled)).map (·.kind)
    · rw [if_pos hm, if_neg fun h => h.2 (hmem.2 hm), kindsOf]
    · rw [if_neg hm, if_pos ⟨rfl, fun h => hm (hmem.1 h)⟩, kindsOf]

namespace Progress

/-- After these tokens a style is kept for each of their kinds, and those without a colour are noted. -/
structure Met (resolver : Resolver) (tokens : List Token) (progress : Progress) : Prop where
  styles : Keyed.keys progress.styles = kindsOf tokens
  colorless : progress.colorless = (kindsOf tokens).filterMap resolver.colorless?

variable {resolver : Resolver} {tokens : List Token} {progress : Progress}

theorem Met.add (h : progress.Met resolver tokens) (token : Token) :
    (progress.add resolver token).Met resolver (tokens ++ [token]) := by
  rw [Progress.add]
  cases hstyled : token.isStyled with
  | false =>
    have hkinds : kindsOf (tokens ++ [token]) = kindsOf tokens := by
      rw [kindsOf_concat, if_neg (by simp [hstyled])]
    exact ⟨h.styles.trans hkinds.symm, h.colorless.trans (by rw [hkinds])⟩
  | true =>
    simp only [if_true, resolve]
    cases hget : Keyed.get? token.kind progress.styles with
    | some style =>
      have hmet : token.kind ∈ kindsOf tokens := by
        rw [← h.styles, ← Keyed.has_iff_mem_keys, Keyed.has, hget]
        rfl
      have hkinds : kindsOf (tokens ++ [token]) = kindsOf tokens := by
        rw [kindsOf_concat, if_neg fun hnew => hnew.2 hmet]
      exact ⟨h.styles.trans hkinds.symm, h.colorless.trans (by rw [hkinds])⟩
    | none =>
      have hnew : token.kind ∉ kindsOf tokens := by
        rw [← h.styles, ← Keyed.has_iff_mem_keys, Keyed.has, hget]
        exact Bool.false_ne_true
      have hkinds : kindsOf (tokens ++ [token]) = kindsOf tokens ++ [token.kind] := by
        rw [kindsOf_concat, if_pos ⟨hstyled, hnew⟩]
      refine ⟨?_, ?_⟩
      · show Keyed.keys (Keyed.set token.kind _ progress.styles) = _
        rw [Keyed.keys_set, h.styles, if_neg hnew, hkinds]
      · show progress.colorless ++ (resolver.colorless? token.kind).toList = _
        rw [hkinds, List.filterMap_append, h.colorless]
        cases hcolor : resolver.colorless? token.kind <;> simp [hcolor]

theorem met_progressOf (resolver : Resolver) (tokens : List Token) :
    (progressOf resolver tokens).Met resolver tokens := by
  -- The tokens that came before are what the progress on the way has met.
  have hrun : ∀ (before : List Token) (progress : Progress), progress.Met resolver before →
      (tokens.foldl (Progress.add resolver) progress).Met resolver (before ++ tokens) := by
    induction tokens with
    | nil =>
      intro before progress h
      rwa [List.append_nil]
    | cons token rest ih =>
      intro before progress h
      rw [List.append_cons]
      exact ih _ _ (h.add token)
  exact hrun [] {} ⟨rfl, rfl⟩

end Progress

/-! ## What stands in the element -/

/-- Markup is a `pre` element with this between its tags. -/
def Encloses (markup body : CodePoints) : Prop := ∃ style, IsAttribute style ∧ markup = preElement style body

theorem Encloses.unique {markup body body' : CodePoints} (h : Encloses markup body) (h' : Encloses markup body') :
    body = body' := by
  obtain ⟨style, hstyle, rfl⟩ := h
  obtain ⟨style', hstyle', he⟩ := h'
  simp only [preElement, List.append_assoc, List.append_cancel_left_eq] at he
  exact List.append_cancel_right (eq_of_attribute hstyle hstyle' he).2

theorem render_eq (resolver : Resolver) (tokens : List Token) :
    render resolver tokens =
      preElement ("background:" ++ escape resolver.background ++ ";" ++ preStyle)
        (tokens.flatMap (piece resolver)) := by
  rw [render, body_progressOf]

theorem encloses_render (resolver : Resolver) (tokens : List Token) :
    Encloses (render resolver tokens) (tokens.flatMap (piece resolver)) :=
  ⟨_, not_mem_preStyle resolver, render_eq resolver tokens⟩

end Markup

/-! ## Notices -/

/-- What is noted of the styles of tokens: for each of their kinds the chosen style, if it has no colour. -/
def colorNotices (resolver : Resolver) (tokens : List Token) : List Notice :=
  ((kindsOf tokens).filterMap resolver.colorless?).map (.addedColor · resolver.textColor)

theorem effect_renderTokens (resolver : Resolver) (tokens : List Token) (workspace : Workspace) :
    effect (renderTokens resolver tokens) workspace =
      (render resolver tokens, workspace.reportAll (colorNotices resolver tokens)) := by
  rw [renderTokens, effect_bind, effect_reportColors, (Progress.met_progressOf resolver tokens).colorless]
  rfl

/-- Notices of styles pass together or not at all. -/
theorem filter_passes_colorNotices (log : Log) (resolver : Resolver) (tokens : List Token) :
    (colorNotices resolver tokens).filter log.passes =
      if log.level styleLogger ≤ Severity.debug.level then colorNotices resolver tokens else [] := by
  have hpasses : ∀ notice ∈ colorNotices resolver tokens,
      log.passes notice = decide (log.level styleLogger ≤ Severity.debug.level) := by
    intro notice hm
    obtain ⟨style, -, rfl⟩ := List.mem_map.1 hm
    rfl
  rw [List.filter_congr hpasses]
  split
  · next hlevel => simp [hlevel]
  · next hlevel => simp [hlevel]

/-- The markup of tokens is that of one after the other, with the style of its kind resolved for each. So what
stands in the element for tokens in a row is what stands there for the first ones and then for the others. In the
log every kind of the tokens comes once, in the order in which the kinds first come, if its chosen style has no
colour; and all that as far as the logger of styles takes it. -/
theorem render_afresh (tokens more : List Token) (theme : Option Theme) (name : Option CodePoints)
    (registry : Registry) (workspace : Workspace) :
    let resolver : Resolver := ⟨some (registry.lookup? name), theme⟩
    (effect (renderTokens resolver tokens) workspace).1 =
        preElement ("background:" ++ escape resolver.background ++ ";" ++ preStyle)
          (tokens.flatMap fun token =>
            if token.isStyled then spanElement (escape (resolver.style token.kind)) (escape token.text)
            else escape token.text) ∧
      (∀ body body', Encloses (render resolver tokens) body → Encloses (render resolver more) body' →
        Encloses (render resolver (tokens ++ more)) (body ++ body')) ∧
      (effect (renderTokens resolver tokens) workspace).2 = workspace.reportAll (colorNotices resolver tokens) ∧
      (effect (renderTokens resolver tokens) workspace).2.notices =
        workspace.notices ++
          if workspace.log.level styleLogger ≤ Severity.debug.level then colorNotices resolver tokens else [] := by
  intro resolver
  rw [effect_renderTokens]
  refine ⟨render_eq resolver tokens, fun body body' h h' => ?_, rfl, ?_⟩
  · rw [h.unique (encloses_render resolver tokens), h'.unique (encloses_render resolver more),
      ← List.flatMap_append]
    exact encloses_render resolver (tokens ++ more)
  · rw [Workspace.reportAll_notices, filter_passes_colorNotices]

end CodeMarkup
