import CodeMarkup.Markup.Render
import CodeMarkup.Proofs.Token.Partition
/-!
# Reading markup back

Markup is read back in two passes from left to right: the tags are taken out (`withoutTags`), then the
entities are decoded (`unescape`). Escaped text has no character in it that a tag starts with or an
attribute ends with, so the passes find what rendering put there and nothing else. `unescape_render`
sums this up: what comes out are the texts of the tokens, whatever the styles are.
-/

namespace CodeMarkup.Markup

open CodeMarkup.Style CodeMarkup.Text CodeMarkup.Token

/-! ## Passes -/

/-- What a pass looks for: what stands in place of the part found at the start, and how many code points
that part has. -/
abbrev Finder := CodePoints → Option (CodePoints × Nat)

/-- One pass from left to right. It goes on after each part found. -/
def sweep (find : Finder) : CodePoints → CodePoints
  | [] => []
  | c :: rest =>
    match find (c :: rest) with
    | some (image, n) => image ++ sweep find (rest.drop (n - 1))
    | none => c :: sweep find rest
  termination_by s => s.length
  decreasing_by all_goals simp only [List.length_cons, List.length_drop]; omega

@[simp] theorem sweep_nil (find : Finder) : sweep find [] = [] := by rw [sweep]

theorem sweep_found {find : Finder} {part rest image : CodePoints} (hne : part ≠ [])
    (h : find (part ++ rest) = some (image, part.length)) :
    sweep find (part ++ rest) = image ++ sweep find rest := by
  cases part with
  | nil => contradiction
  | cons c part =>
    rw [List.cons_append] at h ⊢
    rw [sweep, h]
    simp

theorem sweep_passed {find : Finder} {c : CodePoint} {rest : CodePoints} (h : find (c :: rest) = none) :
    sweep find (c :: rest) = c :: sweep find rest := by
  rw [sweep, h]

/-- A text in which nothing is found passes unchanged. -/
theorem sweep_append {find : Finder} {s : CodePoints}
    (h : ∀ c ∈ s, ∀ rest, find (c :: rest) = none) (t : CodePoints) :
    sweep find (s ++ t) = s ++ sweep find t := by
  induction s with
  | nil => rfl
  | cons c s ih =>
    rw [List.cons_append, sweep_passed (h c List.mem_cons_self _),
      ih fun d hd => h d (List.mem_cons_of_mem c hd), List.cons_append]

/-- Finds a fixed part. -/
def part? (part image : CodePoints) : Finder := fun s =>
  if part.isPrefixOf s then some (image, part.length) else none

/-! ## Tags -/

/-- What tags without attributes are. -/
def closingTags : List CodePoints := ["</pre>", "</span>"]

/-- What tags with a style start with. -/
def openingTags : List CodePoints := ["<pre style=\"", "<span style=\""]

/-- What tags with a style end with, after the style. -/
def tagEnd : CodePoints := "\">"

/-- Finds a tag that starts like this. Its style goes up to the next quote. -/
def openingTag? (opening : CodePoints) : Finder := fun s =>
  let style := (s.drop opening.length).takeWhile (· ≠ .char '\"')
  let length := opening.length + style.length
  if opening.isPrefixOf s ∧ tagEnd.isPrefixOf (s.drop length) then some ([], length + tagEnd.length)
  else none

/-- Finds a tag. -/
def tag? : Finder := fun s =>
  (closingTags.findSome? (part? · [] s)).or (openingTags.findSome? (openingTag? · s))

/-- Markup with its tags deleted. -/
def withoutTags : CodePoints → CodePoints := sweep tag?

@[simp] theorem withoutTags_nil : withoutTags [] = [] := sweep_nil _

/-! ## Entities -/

/-- The entities and what they stand for. -/
def entities : List (CodePoints × Char) :=
  [("&amp;", '&'), ("&lt;", '<'), ("&gt;", '>'), ("&quot;", '\"'), ("&#x27;", '\'')]

/-- Finds an entity. -/
def entity? : Finder := fun s => entities.findSome? fun (entity, c) => part? entity [.char c] s

/-- Markup without tags, with its entities decoded. -/
def unescape : CodePoints → CodePoints := sweep entity?

@[simp] theorem unescape_nil : unescape [] = [] := sweep_nil _

/-! ## Escaped text -/

/-- A character is written as the entity that stands for it, or as itself if it has no meaning in
markup. -/
theorem escapeChar_cases (c : Char) :
    (CodePoints.ofChars (escapeChar c), c) ∈ entities ∨
      (escapeChar c = [c] ∧ c ∉ ['&', '<', '>', '\"', '\'']) := by
  fun_cases escapeChar c with
  | case6 c h1 h2 h3 h4 h5 => exact .inr ⟨rfl, by simp; exact ⟨h1, h2, h3, h4, h5⟩⟩
  | _ => exact .inl (by decide)

theorem entity?_entity {entity : CodePoints} {c : Char} (h : (entity, c) ∈ entities) (rest : CodePoints) :
    entity? (entity ++ rest) = some ([.char c], entity.length) := by
  simp only [entities, List.mem_cons, Prod.mk.injEq, List.not_mem_nil, or_false] at h
  rcases h with ⟨rfl, rfl⟩ | ⟨rfl, rfl⟩ | ⟨rfl, rfl⟩ | ⟨rfl, rfl⟩ | ⟨rfl, rfl⟩ <;> rfl

theorem entity?_none {c : CodePoint} (h : c ≠ .char '&') (rest : CodePoints) :
    entity? (c :: rest) = none := by
  simp [entity?, entities, part?, CodePoints.ofString, CodePoints.ofChars, h.symm]

theorem tag?_none {c : CodePoint} (h : c ≠ .char '<') (rest : CodePoints) : tag? (c :: rest) = none := by
  simp [tag?, closingTags, openingTags, part?, openingTag?, CodePoints.ofString, CodePoints.ofChars, h.symm]

@[simp] theorem escape_nil : escape [] = [] := rfl

@[simp] theorem escape_cons (c : CodePoint) (s : CodePoints) :
    escape (c :: s) = c.expand escapeChar ++ escape s := by
  simp [escape]

@[simp] theorem escape_append (s t : CodePoints) : escape (s ++ t) = escape s ++ escape t := by
  simp [escape]

/-- Of the characters with a meaning in markup, escaped text has ampersands only. -/
theorem not_mem_escape_of_mem {c : Char} (h : c ∈ ['<', '>', '\"', '\'']) (s : CodePoints) :
    .char c ∉ escape s := by
  rw [escape, List.mem_flatMap]
  rintro ⟨point, -, hm⟩
  cases point with
  | surrogate offset => simp [CodePoint.expand] at hm
  | char d =>
    have hm' : .char c ∈ CodePoints.ofChars (escapeChar d) := hm
    rcases escapeChar_cases d with hentity | ⟨hself, hd⟩
    · have hnone : ∀ p ∈ entities, ∀ point ∈ p.1, point ∉ ['<', '>', '\"', '\''].map CodePoint.char := by decide
      exact hnone _ hentity _ hm' (List.mem_map_of_mem h)
    · rw [hself, CodePoints.ofChars, List.map_singleton, List.mem_singleton, CodePoint.char.injEq] at hm'
      exact hd (hm' ▸ List.mem_cons_of_mem _ h)

/-- Escaped text has no character that a tag starts with or an attribute ends with. -/
theorem not_mem_escape (s : CodePoints) : .char '<' ∉ escape s ∧ .char '\"' ∉ escape s :=
  ⟨not_mem_escape_of_mem (by decide) s, not_mem_escape_of_mem (by decide) s⟩

theorem withoutTags_escape (s t : CodePoints) : withoutTags (escape s ++ t) = escape s ++ withoutTags t :=
  sweep_append (fun _ hc rest => tag?_none (fun h => (not_mem_escape s).1 (h ▸ hc)) rest) t

/-- Decoding gives back what was escaped. -/
theorem unescape_escape (s t : CodePoints) : unescape (escape s ++ t) = s ++ unescape t := by
  induction s with
  | nil => rfl
  | cons c s ih =>
    rw [escape_cons, List.append_assoc, List.cons_append, ← ih]
    cases c with
    | surrogate offset => exact sweep_passed (entity?_none (by simp) _)
    | char c =>
      show unescape (CodePoints.ofChars (escapeChar c) ++ (escape s ++ t)) = _
      rcases escapeChar_cases c with h | ⟨h, hm⟩
      · have hne : ∀ p ∈ entities, p.1 ≠ [] := by decide
        exact sweep_found (hne _ h) (entity?_entity h _)
      · rw [h]
        exact sweep_passed (entity?_none (by simp at hm; simp [hm.1]) _)

/-! ## Elements -/

theorem withoutTags_closing {tag : CodePoints} (h : tag ∈ closingTags) (rest : CodePoints) :
    withoutTags (tag ++ rest) = withoutTags rest := by
  have hne : ∀ tag ∈ closingTags, tag ≠ [] := by decide
  have hfind : tag? (tag ++ rest) = some ([], tag.length) := by
    simp only [closingTags, List.mem_cons, List.not_mem_nil, or_false] at h
    rcases h with rfl | rfl <;> rfl
  exact sweep_found (hne tag h) hfind

theorem takeWhile_style {style : CodePoints} (h : .char '\"' ∉ style) (rest : CodePoints) :
    (style ++ (tagEnd ++ rest)).takeWhile (· ≠ .char '\"') = style := by
  rw [List.takeWhile_append_of_pos]
  · simp [tagEnd, CodePoints.ofString, CodePoints.ofChars]
  · rintro c hc
    simp only [ne_eq, decide_not, Bool.not_eq_true', decide_eq_false_iff_not]
    rintro rfl
    exact h hc

theorem openingTag?_self (opening : CodePoints) {style : CodePoints} (h : .char '\"' ∉ style)
    (rest : CodePoints) :
    openingTag? opening (opening ++ (style ++ (tagEnd ++ rest))) =
      some ([], opening.length + style.length + tagEnd.length) := by
  have hp : ∀ s t : CodePoints, s.isPrefixOf (s ++ t) = true := fun s t => by simp
  simp only [openingTag?, List.drop_left, takeWhile_style h, ← List.drop_drop, hp, and_self, if_true]

theorem tag?_opening {opening style : CodePoints} (h : opening ∈ openingTags) (hs : .char '\"' ∉ style)
    (rest : CodePoints) :
    tag? (opening ++ (style ++ (tagEnd ++ rest))) =
      some ([], opening.length + style.length + tagEnd.length) := by
  have hself := openingTag?_self opening hs rest
  simp only [openingTags, List.mem_cons, List.not_mem_nil, or_false] at h
  rcases h with rfl | rfl
  · rw [tag?, openingTags, List.findSome?_cons, hself]
    rfl
  · rw [tag?, openingTags, List.findSome?_cons, List.findSome?_cons, hself]
    rfl

theorem withoutTags_opening {opening style : CodePoints} (h : opening ∈ openingTags)
    (hs : .char '\"' ∉ style) (rest : CodePoints) :
    withoutTags (opening ++ (style ++ (tagEnd ++ rest))) = withoutTags rest := by
  have hne : ∀ opening ∈ openingTags, opening ≠ [] := by decide
  -- The whole tag is the part that is found.
  have hfind : tag? (opening ++ (style ++ tagEnd) ++ rest) =
      some ([], (opening ++ (style ++ tagEnd)).length) := by
    simpa [Nat.add_assoc] using tag?_opening h hs rest
  have hfound := sweep_found (by simp [hne opening h]) hfind
  simpa [withoutTags] using hfound

/-- Of an element only what its body comes to is left. -/
theorem withoutTags_element {opening closing style body text : CodePoints} (ho : opening ∈ openingTags)
    (hc : closing ∈ closingTags) (hs : .char '\"' ∉ style)
    (hb : ∀ rest, withoutTags (body ++ rest) = text ++ withoutTags rest) (rest : CodePoints) :
    withoutTags (opening ++ style ++ tagEnd ++ body ++ closing ++ rest) = text ++ withoutTags rest :=
  calc withoutTags (opening ++ style ++ tagEnd ++ body ++ closing ++ rest)
      = withoutTags (opening ++ (style ++ (tagEnd ++ (body ++ (closing ++ rest))))) := by
        simp only [List.append_assoc]
    _ = withoutTags (body ++ (closing ++ rest)) := withoutTags_opening ho hs _
    _ = text ++ withoutTags rest := by rw [hb, withoutTags_closing hc]

/-! ## Rendered tokens -/

/-- The markup of a token. -/
def piece (resolver : Resolver) (token : Token) : CodePoints :=
  if token.isStyled then spanElement (escape (resolver.style token.kind)) (escape token.text)
  else escape token.text

/-- The styles kept are those of their kinds. -/
def Progress.Faithful (resolver : Resolver) (progress : Progress) : Prop :=
  ∀ kind style, Keyed.get? kind progress.styles = some style → style = escape (resolver.style kind)

theorem resolve_faithful {resolver : Resolver} {progress : Progress} (h : progress.Faithful resolver)
    (kind : Kind) :
    (progress.resolve resolver kind).1 = escape (resolver.style kind) ∧
      (progress.resolve resolver kind).2.Faithful resolver ∧
      (progress.resolve resolver kind).2.pieces = progress.pieces := by
  rw [Progress.resolve]
  cases hg : Keyed.get? kind progress.styles with
  | some style => exact ⟨h kind style hg, h, rfl⟩
  | none =>
    refine ⟨rfl, fun other style hs => ?_, rfl⟩
    simp only [Keyed.get?_set] at hs
    split at hs
    · next he =>
      cases hs
      rw [he]
    · exact h other style hs

/-- A token adds its piece, and the styles kept stay right. -/
theorem add_faithful {resolver : Resolver} {progress : Progress} (h : progress.Faithful resolver)
    (token : Token) :
    (progress.add resolver token).Faithful resolver ∧
      (progress.add resolver token).body = progress.body ++ piece resolver token := by
  obtain ⟨hstyle, hkept, hpieces⟩ := resolve_faithful h token.kind
  rw [Progress.add, piece]
  split
  · refine ⟨hkept, ?_⟩
    simp [Progress.body, hstyle, hpieces]
  · refine ⟨h, ?_⟩
    simp [Progress.body]

/-- The markup of tokens is that of one after the other. -/
theorem body_progressOf (resolver : Resolver) (tokens : List Token) :
    (progressOf resolver tokens).body = tokens.flatMap (piece resolver) := by
  -- Each token is added to the progress that those before it left, which is any faithful one.
  have hrun : ∀ progress : Progress, progress.Faithful resolver →
      (tokens.foldl (Progress.add resolver) progress).body =
        progress.body ++ tokens.flatMap (piece resolver) := by
    induction tokens with
    | nil => simp
    | cons token tokens ih =>
      intro progress h
      obtain ⟨hkept, hbody⟩ := add_faithful h token
      rw [List.foldl_cons, ih _ hkept, hbody, List.flatMap_cons, List.append_assoc]
  exact hrun {} fun _ _ h => by cases h

theorem withoutTags_piece (resolver : Resolver) (token : Token) (rest : CodePoints) :
    withoutTags (piece resolver token ++ rest) = escape token.text ++ withoutTags rest := by
  rw [piece]
  split
  · exact withoutTags_element (by decide) (by decide) (not_mem_escape _).2 (withoutTags_escape _) rest
  · exact withoutTags_escape _ _

theorem withoutTags_pieces (resolver : Resolver) (tokens : List Token) (rest : CodePoints) :
    withoutTags (tokens.flatMap (piece resolver) ++ rest) =
      escape (CodePoints.ofChars (charsOf tokens)) ++ withoutTags rest := by
  induction tokens with
  | nil => rfl
  | cons token tokens ih =>
    rw [List.flatMap_cons, List.append_assoc, withoutTags_piece, ih, charsOf_cons]
    simp [CodePoints.ofString, CodePoints.ofChars]

theorem not_mem_preStyle (resolver : Resolver) :
    let style : CodePoints := "background:" ++ escape resolver.background ++ ";" ++ preStyle
    .char '<' ∉ style ∧ .char '\"' ∉ style := by
  have hb : .char '<' ∉ CodePoints.ofString "background:" ∧ .char '\"' ∉ CodePoints.ofString "background:" := by
    decide
  have hp : .char '<' ∉ CodePoints.ofString ";" ++ CodePoints.ofString preStyle ∧
      .char '\"' ∉ CodePoints.ofString ";" ++ CodePoints.ofString preStyle := by
    decide +kernel
  have he := not_mem_escape resolver.background
  intro style
  have hstyle : style = "background:" ++ (escape resolver.background ++ (";" ++ preStyle)) := by
    simp only [style, List.append_assoc]
  rw [hstyle]
  simp only [List.mem_append] at hp ⊢
  simp only [hb, he, hp, or_self, not_false_eq_true, and_self]

/-- What is read back from markup are the texts of the tokens. -/
theorem unescape_render (resolver : Resolver) (tokens : List Token) :
    unescape (withoutTags (render resolver tokens)) = CodePoints.ofChars (charsOf tokens) := by
  have htags : withoutTags (render resolver tokens) = escape (CodePoints.ofChars (charsOf tokens)) := by
    have h := @withoutTags_element "<pre style=\"" "</pre>" _ _ _ (by decide) (by decide)
      (not_mem_preStyle resolver).2 (withoutTags_pieces resolver tokens) []
    rw [render, body_progressOf]
    simpa [preElement, tagEnd] using h
  have h := unescape_escape (CodePoints.ofChars (charsOf tokens)) []
  rw [htags]
  simpa using h

end CodeMarkup.Markup
