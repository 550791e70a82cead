import CodeMarkup.Proofs.Markup.Reading
import CodeMarkup.Prose
/-!
# Markup that can be encoded

UTF-8 encodes all characters but no surrogates. Sources have none, and neither has the markup around them, so
markup can be encoded when the background and the styles in it can (`encodable_render_iff`).
-/

namespace CodeMarkup.Markup

open CodeMarkup.Style CodeMarkup.Text

/-- No surrogates, so that UTF-8 can encode the text. -/
def Encodable (s : CodePoints) : Prop := ∀ offset, CodePoint.surrogate offset ∉ s

@[simp] theorem Encodable.nil : Encodable [] := fun _ => List.not_mem_nil

@[simp] theorem Encodable.ofChars (s : List Char) : Encodable (CodePoints.ofChars s) := by
  intro offset h
  obtain ⟨c, -, hc⟩ := List.mem_map.1 h
  cases hc

@[simp] theorem Encodable.ofString (s : String) : Encodable s := Encodable.ofChars s.toList

@[simp] theorem encodable_append {s t : CodePoints} : Encodable (s ++ t) ↔ Encodable s ∧ Encodable t := by
  simp only [Encodable, List.mem_append, not_or, forall_and]

theorem encodable_flatMap {α : Type} {f : α → CodePoints} {list : List α} :
    Encodable (list.flatMap f) ↔ ∀ a ∈ list, Encodable (f a) := by
  simp only [Encodable, List.mem_flatMap, not_exists, not_and]
  exact ⟨fun h a ha offset => h offset a ha, fun h offset a ha => h a ha offset⟩

/-- Escaping adds characters only. -/
@[simp] theorem encodable_escape {s : CodePoints} : Encodable (escape s) ↔ Encodable s := by
  rw [escape, encodable_flatMap]
  constructor
  · intro h offset hm
    exact h _ hm offset (List.mem_singleton_self _)
  · intro h point hm
    cases point with
    | char c => exact Encodable.ofChars _
    | surrogate offset => exact absurd hm (h offset)

/-- Taking blanks away adds nothing. -/
theorem Encodable.strip {s : CodePoints} (h : Encodable s) : Encodable (strip s) := by
  have hend : ∀ {t : CodePoints}, Encodable t → Encodable (stripEnd t) := by
    intro t ht offset hm
    exact ht offset (List.mem_reverse.1 ((List.dropWhile_sublist _).mem (List.mem_reverse.1 hm)))
  exact hend fun offset hm => h offset ((List.dropWhile_sublist _).mem hm)

theorem chars?_of_encodable {s : CodePoints} (h : Encodable s) : ∃ chars, CodePoints.chars? s = some chars := by
  induction s with
  | nil => exact ⟨[], rfl⟩
  | cons point rest ih =>
    obtain ⟨chars, hchars⟩ := ih fun offset hm => h offset (List.mem_cons_of_mem _ hm)
    cases point with
    | char c => exact ⟨c :: chars, by rw [CodePoints.chars?] at hchars ⊢; simp [hchars, CodePoint.char?]⟩
    | surrogate offset => exact absurd List.mem_cons_self (h offset)

theorem chars?_surrogate {s : CodePoints} {offset : Fin 0x800} (h : .surrogate offset ∈ s) :
    CodePoints.chars? s = none := by
  induction s with
  | nil => cases h
  | cons point rest ih =>
    rw [CodePoints.chars?] at ih ⊢
    rw [List.mapM_cons]
    rcases List.mem_cons.1 h with rfl | h
    · rfl
    · rw [ih h]
      cases point <;> rfl

/-- What has no surrogates is what is encoded. -/
theorem exists_encodable_iff {s : CodePoints} : (∃ text, encodable s = .ok text) ↔ Encodable s := by
  rw [encodable, CodePoints.string?]
  constructor
  · rintro ⟨text, h⟩ offset hm
    rw [chars?_surrogate hm] at h
    cases h
  · intro h
    obtain ⟨chars, hchars⟩ := chars?_of_encodable h
    exact ⟨String.ofList chars, by rw [hchars]; rfl⟩

theorem encodable_preElement {style body : CodePoints} :
    Encodable (preElement style body) ↔ Encodable style ∧ Encodable body := by
  simp [preElement]

theorem encodable_piece {resolver : Resolver} {token : Token} :
    Encodable (piece resolver token) ↔ (token.isStyled = true → Encodable (resolver.style token.kind)) := by
  rw [piece]
  split
  · next h => simp [spanElement, h]
  · next h => simp [h]

theorem encodable_blockElement (code : String) : Encodable (Prose.blockElement code) := by
  simp [Prose.blockElement, encodable_preElement]

theorem encodable_inlineElement (code : List Char) : Encodable (Prose.inlineElement (CodePoints.ofChars code)) := by
  simp [Prose.inlineElement, Encodable.strip (Encodable.ofChars code)]

/-- Markup can be encoded when its background can and the styles of its tokens can. -/
theorem encodable_render_iff {resolver : Resolver} {tokens : List Token} :
    Encodable (render resolver tokens) ↔
      Encodable resolver.background ∧
        ∀ token ∈ tokens, token.isStyled = true → Encodable (resolver.style token.kind) := by
  rw [render, encodable_preElement, body_progressOf, encodable_flatMap]
  simp only [encodable_append, Encodable.ofString, encodable_escape, encodable_piece, true_and, and_true]

end CodeMarkup.Markup
