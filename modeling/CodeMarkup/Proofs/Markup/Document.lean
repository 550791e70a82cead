import CodeMarkup.Proofs.Markup.Reading
import Mathlib.Data.List.Basic
/-!
# Markup as a document

The grammar of rendered markup: one `pre` element that holds text and, between texts, `span` elements
(`Reads`). Text has no `<` in it and an attribute no `<` and no quote, so there is one way at most to read
markup (`Reads.unique`). `render_reads` says what is read from rendered tokens: a span for every token of a
marked-up kind, the other tokens as text between the spans, and the styles of theme and palette in attributes
and nowhere else.
-/

namespace CodeMarkup.Markup

open CodeMarkup.Palette CodeMarkup.Style CodeMarkup.Text

/-! ## The grammar -/

/-- Text may stand between tags. -/
def IsText (s : CodePoints) : Prop := .char '<' ∉ s

/-- Text that may stand in an attribute. -/
def IsAttribute (s : CodePoints) : Prop := .char '<' ∉ s ∧ .char '\"' ∉ s

/-- A `span` element, and the text from its end to the next tag. -/
structure Span where
  style : CodePoints
  text : CodePoints
  after : CodePoints

/-- A `pre` element: its style, the text before the first span, and the spans. -/
structure Document where
  style : CodePoints
  lead : CodePoints
  spans : List Span

/-- Characters are spans in a row, with text after each. -/
inductive ReadsSpans : CodePoints → List Span → Prop
  | none : ReadsSpans [] []
  | span {style text after rest : CodePoints} {spans : List Span} (hstyle : IsAttribute style)
      (htext : IsText text) (hafter : IsText after) (hrest : ReadsSpans rest spans) :
      ReadsSpans ("<span style=\"" ++ style ++ "\">" ++ text ++ "</span>" ++ after ++ rest)
        (⟨style, text, after⟩ :: spans)

/-- Characters are a document. -/
inductive Reads : CodePoints → Document → Prop
  | pre {style lead body : CodePoints} {spans : List Span} (hstyle : IsAttribute style)
      (hlead : IsText lead) (hbody : ReadsSpans body spans) :
      Reads ("<pre style=\"" ++ style ++ "\">" ++ lead ++ body ++ "</pre>") ⟨style, lead, spans⟩

/-! ## One way to read -/

/-- A character that two texts do not hold ends them at the same place. -/
theorem eq_of_append_cons {c : CodePoint} {s s' t t' : CodePoints} (h : c ∉ s) (h' : c ∉ s')
    (he : s ++ c :: t = s' ++ c :: t') : s = s' ∧ t = t' := by
  induction s generalizing s' with
  | nil =>
    cases s' with
    | nil => exact ⟨rfl, (List.cons.inj he).2⟩
    | cons d s' => exact absurd (List.mem_cons.2 (.inl (List.cons.inj he).1)) h'
  | cons d s ih =>
    cases s' with
    | nil => exact absurd (List.mem_cons.2 (.inl (List.cons.inj he).1.symm)) h
    | cons d' s' =>
      obtain ⟨hd, hs⟩ := List.cons.inj he
      rw [List.mem_cons, not_or] at h h'
      obtain ⟨rfl, ht⟩ := ih h.2 h'.2 hs
      exact ⟨by rw [hd], ht⟩

/-- What follows a text starts with a tag. -/
theorem ReadsSpans.tag {body : CodePoints} {spans : List Span} (h : ReadsSpans body spans) :
    ∃ rest : CodePoints, body ++ CodePoints.ofString "</pre>" = .char '<' :: rest := by
  cases h with
  | none => exact ⟨_, rfl⟩
  | span => exact ⟨_, rfl⟩

/-- A text ends where the spans start. -/
theorem ReadsSpans.eq_lead {body body' lead lead' : CodePoints} {spans spans' : List Span}
    (h : ReadsSpans body spans) (h' : ReadsSpans body' spans') (hl : IsText lead) (hl' : IsText lead')
    (he : lead ++ (body ++ CodePoints.ofString "</pre>") =
      lead' ++ (body' ++ CodePoints.ofString "</pre>")) :
    lead = lead' ∧ body ++ CodePoints.ofString "</pre>" = body' ++ CodePoints.ofString "</pre>" := by
  obtain ⟨rest, hr⟩ := h.tag
  obtain ⟨rest', hr'⟩ := h'.tag
  rw [hr, hr'] at he ⊢
  obtain ⟨hs, ht⟩ := eq_of_append_cons hl hl' he
  exact ⟨hs, by rw [ht]⟩

/-- An attribute ends at its quote. -/
theorem eq_of_attribute {style style' t t' : CodePoints} (h : IsAttribute style) (h' : IsAttribute style')
    (he : style ++ (CodePoints.ofString "\">" ++ t) = style' ++ (CodePoints.ofString "\">" ++ t')) :
    style = style' ∧ t = t' := by
  obtain ⟨hs, ht⟩ := eq_of_append_cons h.2 h'.2 he
  exact ⟨hs, (List.cons.inj ht).2⟩

theorem ReadsSpans.unique {body body' : CodePoints} {spans spans' : List Span} (h : ReadsSpans body spans)
    (h' : ReadsSpans body' spans')
    (he : body ++ CodePoints.ofString "</pre>" = body' ++ CodePoints.ofString "</pre>") : spans = spans' := by
  -- The spans are met one by one, and after each the text up to the next tag.
  induction h generalizing body' spans' with
  | none =>
    cases h' with
    | none => rfl
    | span => cases he
  | span hstyle htext hafter hrest ih =>
    cases h' with
    | none => cases he
    | span hstyle' htext' hafter' hrest' =>
      simp only [List.append_assoc, List.append_cancel_left_eq] at he
      obtain ⟨rfl, hinside⟩ := eq_of_attribute hstyle hstyle' he
      obtain ⟨rfl, hclosing⟩ := eq_of_append_cons htext htext' hinside
      obtain ⟨rfl, hnext⟩ := hrest.eq_lead hrest' hafter hafter'
        (@List.append_cancel_left _ (CodePoints.ofString "/span>") _ _ hclosing)
      rw [ih hrest' hnext]

/-- There is one way at most to read markup. -/
theorem Reads.unique {s : CodePoints} {document document' : Document} (h : Reads s document)
    (h' : Reads s document') : document = document' := by
  obtain @⟨style, lead, body, spans, hstyle, hlead, hbody⟩ := h
  generalize hs : CodePoints.ofString "<pre style=\"" ++ style ++ CodePoints.ofString "\">" ++ lead ++ body ++
    CodePoints.ofString "</pre>" = s at h'
  obtain @⟨style', lead', body', spans', hstyle', hlead', hbody'⟩ := h'
  simp only [List.append_assoc, List.append_cancel_left_eq] at hs
  obtain ⟨rfl, hinside⟩ := eq_of_attribute hstyle hstyle' hs
  obtain ⟨rfl, hnext⟩ := hbody.eq_lead hbody' hlead hlead' hinside
  rw [hbody.unique hbody' hnext]

/-! ## Rendered tokens -/

namespace Span

/-- The span with its entities decoded. -/
def decoded (span : Span) : Span := ⟨unescape span.style, unescape span.text, unescape span.after⟩

/-- The span with its texts escaped. -/
def escaped (span : Span) : Span := ⟨escape span.style, escape span.text, escape span.after⟩

/-- The span without its attribute. -/
def bare (span : Span) : Span := { span with style := [] }

end Span

namespace Document

/-- The document with its entities decoded. -/
def decoded (document : Document) : Document :=
  ⟨unescape document.style, unescape document.lead, document.spans.map Span.decoded⟩

/-- The document without its attributes. -/
def bare (document : Document) : Document := ⟨[], document.lead, document.spans.map Span.bare⟩

end Document

/-- The text of the tokens before the first one of a marked-up kind. -/
def leadOf (tokens : List Token) : CodePoints :=
  (tokens.takeWhile (!·.isStyled)).flatMap fun token => token.text

/-- The tokens of marked-up kinds as spans. -/
def spansOf (style : Token.Kind → CodePoints) : List Token → List Span
  | [] => []
  | token :: rest =>
    if token.isStyled then ⟨style token.kind, token.text, leadOf rest⟩ :: spansOf style rest
    else spansOf style rest

theorem leadOf_styled {token : Token} (h : token.isStyled = true) (rest : List Token) :
    leadOf (token :: rest) = [] := by
  simp [leadOf, h]

theorem leadOf_plain {token : Token} (h : token.isStyled = false) (rest : List Token) :
    leadOf (token :: rest) = token.text ++ leadOf rest := by
  simp [leadOf, h]

theorem isText_escape (s : CodePoints) : IsText (escape s) := (not_mem_escape s).1

theorem isAttribute_escape (s : CodePoints) : IsAttribute (escape s) := not_mem_escape s

/-- The pieces of tokens are a text and spans. -/
theorem readsSpans_pieces (resolver : Resolver) (tokens : List Token) :
    ∃ body, tokens.flatMap (piece resolver) = escape (leadOf tokens) ++ body ∧
      ReadsSpans body ((spansOf resolver.style tokens).map Span.escaped) := by
  induction tokens with
  | nil => exact ⟨[], rfl, .none⟩
  | cons token rest ih =>
    obtain ⟨body, hpieces, hbody⟩ := ih
    rw [List.flatMap_cons, hpieces, piece, spansOf]
    cases ht : token.isStyled with
    | true =>
      rw [if_pos rfl, if_pos rfl, leadOf_styled ht, List.map_cons]
      refine ⟨_, ?_, .span (isAttribute_escape _) (isText_escape _) (isText_escape _) hbody⟩
      rw [spanElement, escape_nil, List.nil_append, List.append_assoc _ _ body]
    | false =>
      rw [if_neg Bool.false_ne_true, if_neg Bool.false_ne_true, leadOf_plain ht, escape_append]
      exact ⟨body, (List.append_assoc _ _ body).symm, hbody⟩

/-- The document that is read from rendered tokens, with its entities. -/
def documentOf (resolver : Resolver) (tokens : List Token) : Document :=
  ⟨"background:" ++ escape resolver.background ++ ";" ++ preStyle, escape (leadOf tokens),
    (spansOf resolver.style tokens).map Span.escaped⟩

theorem reads_render (resolver : Resolver) (tokens : List Token) :
    Reads (render resolver tokens) (documentOf resolver tokens) := by
  obtain ⟨body, hpieces, hbody⟩ := readsSpans_pieces resolver tokens
  have hread := Reads.pre (not_mem_preStyle resolver) (isText_escape (leadOf tokens)) hbody
  rw [render, body_progressOf, hpieces, preElement, documentOf]
  rw [← List.append_assoc _ _ body]
  exact hread

theorem unescape_plain {s : CodePoints} (h : .char '&' ∉ s) (t : CodePoints) :
    unescape (s ++ t) = s ++ unescape t :=
  sweep_append (fun _ hc rest => entity?_none (fun he => h (he ▸ hc)) rest) t

theorem unescape_escape_self (s : CodePoints) : unescape (escape s) = s := by
  have h := unescape_escape s []
  rwa [List.append_nil, unescape_nil, List.append_nil] at h

theorem decoded_escaped (span : Span) : span.escaped.decoded = span := by
  simp only [Span.decoded, Span.escaped, unescape_escape_self]

theorem decoded_documentOf (resolver : Resolver) (tokens : List Token) :
    (documentOf resolver tokens).decoded =
      ⟨"background:" ++ resolver.background ++ ";" ++ preStyle, leadOf tokens,
        spansOf resolver.style tokens⟩ := by
  have hbefore : .char '&' ∉ CodePoints.ofString "background:" := by decide
  have hafter : .char '&' ∉ CodePoints.ofString ";" ++ CodePoints.ofString preStyle := by decide +kernel
  have hend := unescape_plain hafter []
  rw [unescape_nil, List.append_nil] at hend
  have hstyle : unescape ("background:" ++ escape resolver.background ++ ";" ++ preStyle) =
      "background:" ++ resolver.background ++ ";" ++ preStyle := by
    simp only [List.append_assoc]
    rw [unescape_plain hbefore, unescape_escape, hend]
  have hspans : ((spansOf resolver.style tokens).map Span.escaped).map Span.decoded =
      spansOf resolver.style tokens := by
    rw [List.map_map]
    exact List.map_id'' decoded_escaped _
  rw [documentOf, Document.decoded, hstyle, unescape_escape_self, hspans]

theorem bare_spansOf (style style' : Token.Kind → CodePoints) (tokens : List Token) :
    ((spansOf style tokens).map Span.escaped).map Span.bare =
      ((spansOf style' tokens).map Span.escaped).map Span.bare := by
  induction tokens with
  | nil => rfl
  | cons token rest ih =>
    rw [spansOf, spansOf]
    split
    · rw [List.map_cons, List.map_cons, List.map_cons, List.map_cons, ih]
      rfl
    · exact ih

/-- There is one way to read rendered tokens. Their spans come with the styles of the resolver and nothing else
in the document depends on it. -/
theorem render_reads (tokens : List Token) (theme : Option Theme) (name : Option CodePoints)
    (registry : Registry) :
    let resolver : Resolver := ⟨some (registry.lookup? name), theme⟩
    ∃ document, Reads (render resolver tokens) document ∧
      (∀ other, Reads (render resolver tokens) other → other = document) ∧
      document.decoded =
        ⟨"background:" ++ resolver.background ++ ";" ++ preStyle, leadOf tokens,
          spansOf resolver.style tokens⟩ ∧
      ∀ (resolver' : Resolver) (document' : Document), Reads (render resolver' tokens) document' →
        document'.bare = document.bare := by
  intro resolver
  refine ⟨documentOf resolver tokens, reads_render resolver tokens, ?_,
    decoded_documentOf resolver tokens, ?_⟩
  · intro other hother
    exact hother.unique (reads_render resolver tokens)
  · intro resolver' document' h'
    rw [h'.unique (reads_render resolver' tokens)]
    simp only [Document.bare, documentOf, bare_spansOf resolver'.style resolver.style]

end CodeMarkup.Markup
