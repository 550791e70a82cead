import CodeMarkup.Proofs.Markup.Document
/-!
# Entities

Escaping character by character is the same as replacing the five characters in the whole text one after the
other, the ampersand first: then no replacement finds anything in what an earlier one wrote
(`replaceEach_eq_escape`). `escape_entities` sums up what rendering relies on: escaped texts can be put together,
have no active character in them but the ampersands of entities, and are decoded to what they were.
-/

namespace CodeMarkup.Markup

open CodeMarkup.Text

/-! ## Replacing -/

/-- The text with an image in place of a character, wherever it stands. -/
def replaceAll (c : Char) (image : CodePoints) : CodePoints → CodePoints := sweep (part? [.char c] image)

/-- The text with characters replaced by their images, one after the other in the whole text. -/
def replaceEach (images : List (CodePoints × Char)) (s : CodePoints) : CodePoints :=
  images.foldl (fun s (image, c) => replaceAll c image s) s

theorem replaceAll_eq_flatMap (c : Char) (image s : CodePoints) :
    replaceAll c image s = s.flatMap fun point => if point = .char c then image else [point] := by
  induction s with
  | nil => exact sweep_nil _
  | cons point s ih =>
    rw [List.flatMap_cons, ← ih]
    by_cases h : point = .char c
    · rw [if_pos h, h]
      have hfind : part? [.char c] image ([.char c] ++ s) = some (image, [CodePoint.char c].length) := by
        simp [part?]
      exact sweep_found (List.cons_ne_nil _ _) hfind
    · rw [if_neg h]
      have hfind : part? [.char c] image (point :: s) = none := by
        simp [part?, Ne.symm h]
      exact sweep_passed hfind

theorem replaceAll_append (c : Char) (image s t : CodePoints) :
    replaceAll c image (s ++ t) = replaceAll c image s ++ replaceAll c image t := by
  simp only [replaceAll_eq_flatMap, List.flatMap_append]

theorem replaceEach_cons (image : CodePoints) (c : Char) (images : List (CodePoints × Char)) (s : CodePoints) :
    replaceEach ((image, c) :: images) s = replaceEach images (replaceAll c image s) := rfl

theorem replaceEach_nil (images : List (CodePoints × Char)) : replaceEach images [] = [] := by
  induction images with
  | nil => rfl
  | cons entry images ih => rw [replaceEach_cons, replaceAll_eq_flatMap, List.flatMap_nil, ih]

theorem replaceEach_append (images : List (CodePoints × Char)) (s t : CodePoints) :
    replaceEach images (s ++ t) = replaceEach images s ++ replaceEach images t := by
  induction images generalizing s t with
  | nil => rfl
  | cons entry images ih => rw [replaceEach_cons, replaceAll_append, ih, replaceEach_cons, replaceEach_cons]

/-- A code point that is none of the characters stays. -/
theorem replaceEach_of_ne {images : List (CodePoints × Char)} {point : CodePoint}
    (h : ∀ entry ∈ images, point ≠ .char entry.2) : replaceEach images [point] = [point] := by
  induction images with
  | nil => rfl
  | cons entry images ih =>
    rw [List.forall_mem_cons] at h
    rw [replaceEach_cons, replaceAll_eq_flatMap, List.flatMap_singleton, if_neg h.1, ih h.2]

/-- No entity holds a character that is replaced later. -/
theorem replaceEach_singleton (point : CodePoint) : replaceEach entities [point] = point.expand escapeChar := by
  cases point with
  | surrogate offset => exact replaceEach_of_ne fun _ _ h => by cases h
  | char c =>
    rw [CodePoint.expand]
    fun_cases escapeChar c with
    | case6 c h1 h2 h3 h4 h5 =>
      refine replaceEach_of_ne ?_
      simp only [entities, List.forall_mem_cons, ne_eq, CodePoint.char.injEq]
      exact ⟨h1, h2, h3, h4, h5, fun _ hm => absurd hm List.not_mem_nil⟩
    | _ => decide +kernel

theorem replaceEach_eq_escape (s : CodePoints) : replaceEach entities s = escape s := by
  induction s with
  | nil => exact replaceEach_nil entities
  | cons point s ih =>
    rw [← List.singleton_append, replaceEach_append, replaceEach_singleton, ih, List.singleton_append, escape_cons]

/-! ## What is active in escaped text -/

/-- A code point is written as an entity, with one ampersand, at its start, or as itself, which is none. -/
theorem expand_cases (point : CodePoint) :
    (∃ p ∈ entities, ∃ tail, point.expand escapeChar = .char '&' :: tail ∧ p.1 = .char '&' :: tail ∧
        .char '&' ∉ tail) ∨
      .char '&' ∉ point.expand escapeChar := by
  cases point with
  | surrogate offset => exact .inr (by simp [CodePoint.expand])
  | char c =>
    have hstart : ∀ p ∈ entities, p.1 = .char '&' :: p.1.tail ∧ .char '&' ∉ p.1.tail := by decide
    rcases escapeChar_cases c with hentity | ⟨hself, hc⟩
    · obtain ⟨hhead, htail⟩ := hstart _ hentity
      exact .inl ⟨_, hentity, _, hhead, hhead, htail⟩
    · rw [CodePoint.expand, hself]
      exact .inr (by simp at hc; simp [Ne.symm hc.1])

/-- With every ampersand in escaped text an entity begins. -/
theorem entity_of_ampersand {s before after : CodePoints} (h : escape s = before ++ .char '&' :: after) :
    ∃ entity c, (entity, c) ∈ entities ∧ entity <+: .char '&' :: after := by
  induction s generalizing before with
  | nil => simp at h
  | cons point s ih =>
    rw [escape_cons] at h
    rcases List.append_eq_append_iff.1 h with ⟨rest, -, hrest⟩ | ⟨rest, hpoint, hafter⟩
    · exact ih hrest
    · cases rest with
      | nil => exact @ih [] hafter.symm
      | cons first rest =>
        obtain ⟨rfl, rfl⟩ := List.cons.inj hafter
        rcases expand_cases point with ⟨p, hp, tail, hexpand, hentity, htail⟩ | hnone
        · -- There is one ampersand in the entity, so nothing of it stands before this one.
          rw [hexpand] at hpoint
          cases before with
          | nil =>
            cases hpoint
            exact ⟨p.1, p.2, hp, hentity ▸ List.prefix_append _ _⟩
          | cons other before =>
            obtain ⟨-, rfl⟩ := List.cons.inj hpoint
            exact absurd (List.mem_append_right _ List.mem_cons_self) htail
        · exact absurd (hpoint ▸ List.mem_append_right _ List.mem_cons_self) hnone

/-- Escaping is five replacements one after the other, in the order of `entities`. Texts can be escaped piece by
piece; what comes out has none of the characters that open or close tags and attributes, and an ampersand in it
only where an entity begins; and one pass that decodes the entities gives back what was escaped, be there
entities in it or not. -/
theorem escape_entities (a b : CodePoints) :
    escape a = replaceEach entities a ∧
      escape (a ++ b) = escape a ++ escape b ∧
      (∀ c ∈ ['<', '>', '\"', '\''], .char c ∉ escape a) ∧
      (∀ before after, escape a = before ++ .char '&' :: after →
        ∃ entity c, (entity, c) ∈ entities ∧ entity <+: .char '&' :: after) ∧
      unescape (escape a) = a :=
  ⟨(replaceEach_eq_escape a).symm, escape_append a b, fun _ hc => not_mem_escape_of_mem hc a,
    fun _ _ h => entity_of_ampersand h, unescape_escape_self a⟩

end CodeMarkup.Markup
