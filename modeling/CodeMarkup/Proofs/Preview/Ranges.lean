import CodeMarkup.Proofs.Preview.Agreement
import CodeMarkup.Proofs.Preview.Swap
import CodeMarkup.Proofs.Token.Restart
/-!
# The ranges of a line

The ranges that highlighting leaves on a line lie side by side within the line (`Tidy`), and its state says whether
the line ends inside a block comment (`EndsInside`). Both are put together in `highlight_sound`, which also
says that nothing of this depends on how the kinds are styled.
-/

namespace CodeMarkup.Preview

open CodeMarkup.Text CodeMarkup.Style CodeMarkup.Token

/-! ## Side by side -/

/-- The ranges are not empty, lie between two places, and each ends before the next one starts. -/
structure Tidy (first last : Nat) (spans : List Span) : Prop where
  within : ∀ span ∈ spans, first ≤ span.start ∧ 0 < span.length ∧ span.start + span.length ≤ last
  ordered : spans.Pairwise fun span next => span.start + span.length ≤ next.start

theorem Tidy.nil (first last : Nat) : Tidy first last [] := ⟨nofun, .nil⟩

theorem Tidy.append {first middle last : Nat} {before after : List Span} (hbefore : Tidy first middle before)
    (hafter : Tidy middle last after) (hfirst : first ≤ middle) (hlast : middle ≤ last) :
    Tidy first last (before ++ after) where
  within span hs := by
    rcases List.mem_append.1 hs with h | h
    · have := hbefore.within span h
      omega
    · have := hafter.within span h
      omega
  ordered := by
    rw [List.pairwise_append]
    refine ⟨hbefore.ordered, hafter.ordered, fun span hspan next hnext => ?_⟩
    have := hbefore.within span hspan
    have := hafter.within next hnext
    omega

theorem tidy_rangeOf (preview : Preview) (start : Nat) {length : Nat} (h : 0 < length) (kind : Kind) :
    Tidy start (start + length) (preview.rangeOf start length kind) := by
  rw [rangeOf]
  cases preview.format? kind with
  | none => exact .nil _ _
  | some format => constructor <;> simp [h]

theorem tidy_spansFrom (preview : Preview) (offset : Nat) {tokens : List Token}
    (h : ∀ token ∈ tokens, token.text ≠ "") :
    Tidy offset (offset + (charsOf tokens).length) (preview.spansFrom offset tokens) := by
  induction tokens generalizing offset with
  | nil => exact .nil _ _
  | cons token tokens ih =>
    rw [List.forall_mem_cons] at h
    have hpos : 0 < token.text.length := by
      rw [← String.length_toList, List.length_pos_iff]
      exact fun he => h.1 (String.toList_inj.1 he)
    rw [spansFrom_cons, charsOf_cons, List.length_append, String.length_toList, ← Nat.add_assoc]
    exact (tidy_rangeOf preview offset hpos token.kind).append (ih _ h.2) (by omega) (by omega)

theorem tidy_highlightFrom (preview : Preview) {start : Nat} {before : List Span} {line : List Char}
    (hbefore : Tidy 0 start before) (hstart : start ≤ line.length) :
    Tidy 0 line.length (preview.highlightFrom start before line).spans := by
  have hspans := tidy_spansFrom preview start fun token ht => @text_ne_empty (line.drop start) token ht
  rw [charsOf_ofChars, List.length_drop, Nat.add_sub_cancel' hstart] at hspans
  exact hbefore.append hspans (Nat.zero_le _) hstart

theorem tidy_highlight (preview : Preview) {previous : Int} {line : String}
    (h : ¬ (previous = insideComment ∧ line = "")) :
    Tidy 0 line.length (preview.highlight previous line).spans := by
  rw [← String.length_toList, highlight]
  split
  · next hprevious =>
    cases hc : closing? line.toList with
    | none =>
      have hpos : 0 < line.toList.length := by
        rw [List.length_pos_iff]
        exact fun he => h ⟨hprevious, String.toList_inj.1 he⟩
      have htidy := tidy_rangeOf preview 0 hpos .comment
      rwa [Nat.zero_add, String.length_toList] at htidy
    | some n =>
      obtain ⟨body, rest, -, rfl, -⟩ := exists_of_closing? hc
      have htidy := tidy_rangeOf preview 0 (Nat.succ_pos (body.length + 1)) .comment
      rw [Nat.zero_add] at htidy
      exact tidy_highlightFrom preview htidy (closing?_le hc)
  · exact tidy_highlightFrom preview (.nil 0 0) (Nat.zero_le _)

/-! ## Inside a comment -/

/-- What is left of a line after a comment that is carried over to it, or all of it if none is. -/
inductive LeftOf : Int → List Char → List Char → Prop
  | whole {previous : Int} {line : List Char} : previous ≠ insideComment → LeftOf previous line line
  | closed {body rest : List Char} : Unclosed (body ++ ['*']) →
      LeftOf insideComment (body ++ '*' :: '/' :: rest) rest

/-- The line ends inside a block comment: nothing on it ends the one that is carried over to it, or nothing ends
one that a token opens of what is left then. -/
inductive EndsInside : Int → List Char → Prop
  | carried {line : List Char} : Unclosed line → EndsInside insideComment line
  | opened {previous : Int} {line rest : List Char} {before : List Token} {token : Token} {after : List Token} :
      LeftOf previous line rest → ofChars rest = before ++ token :: after → ['/', '*'] <+: token.text.toList →
      Unclosed ((charsOf (token :: after)).drop 2) → EndsInside previous line

theorem leavesOpen_append (before : List Token) (last : Token) :
    leavesOpen (before ++ [last]) = isOpenComment last := by
  rw [leavesOpen, List.getLast?_append_of_ne_nil _ (List.cons_ne_nil last [])]
  rfl

/-- A token is an open comment when it opens a comment that nothing in it ends. -/
theorem isOpenComment_alone {token : Token} (h : ofChars token.text.toList = [token]) :
    isOpenComment token = true ↔ ∃ body, token.text.toList = '/' :: '*' :: body ∧ Unclosed body := by
  obtain ⟨hcs, htoken, hrest⟩ := of_ofChars_eq_cons h
  -- Nothing is left of the text after the token.
  have hwhole : (scan token.text.toList).2 = token.text.toList.length := by
    refine Nat.le_antisymm (scan_bounds hcs).2 ?_
    by_contra hlt
    exact ofChars_ne_nil (by simpa using hlt) hrest
  rw [hwhole, List.take_length] at htoken
  rw [← isOpenComment_iff hwhole, ← htoken]

/-- The last token is an open comment exactly when some token opens a comment that nothing after it ends. -/
theorem leavesOpen_iff {cs : List Char} :
    leavesOpen (ofChars cs) = true ↔ ∃ before token after, ofChars cs = before ++ token :: after ∧
      ['/', '*'] <+: token.text.toList ∧ Unclosed ((charsOf (token :: after)).drop 2) := by
  constructor
  · intro h
    have hne : ofChars cs ≠ [] := by
      intro hnil
      rw [hnil] at h
      cases h
    obtain ⟨before, last, htokens⟩ : ∃ before last, ofChars cs = before ++ [last] :=
      ⟨_, _, (List.dropLast_append_getLast hne).symm⟩
    have halone := ofChars_drop htokens
    rw [charsOf_cons, charsOf_nil, List.append_nil] at halone
    rw [htokens, leavesOpen_append, isOpenComment_alone halone] at h
    obtain ⟨body, hbody, hu⟩ := h
    refine ⟨before, last, [], htokens, ⟨body, hbody.symm⟩, ?_⟩
    rwa [charsOf_cons, charsOf_nil, List.append_nil, hbody]
  · rintro ⟨before, token, after, htokens, ⟨start, hstart⟩, hu⟩
    have hrest := ofChars_drop htokens
    rw [charsOf_cons, ← hstart, List.append_assoc] at hrest hu
    replace hrest : ofChars ('/' :: '*' :: (start ++ charsOf after)) = token :: after := hrest
    replace hu : Unclosed (start ++ charsOf after) := hu
    -- The comment takes up all that is left, so its token is the last one.
    have hlast : after = [] := by
      have hscan := scan_blockComment (start ++ charsOf after)
      rw [closing?_eq_none.2 hu, Option.getD_none] at hscan
      obtain ⟨-, -, hafter⟩ := of_ofChars_eq_cons hrest
      have hnothing : ('/' :: '*' :: (start ++ charsOf after)).drop (2 + (start ++ charsOf after).length) = [] :=
        List.drop_of_length_le (by simp only [List.length_cons]; omega)
      rw [← hafter, hscan, hnothing, ofChars_nil]
    subst hlast
    have halone := ofChars_drop htokens
    rw [charsOf_cons, charsOf_nil, List.append_nil] at halone
    rw [htokens, leavesOpen_append, isOpenComment_alone halone]
    rw [charsOf_nil, List.append_nil] at hu
    exact ⟨start, hstart.symm, hu⟩

theorem leftOf_iff {previous : Int} {line rest : List Char} :
    LeftOf previous line rest ↔ previous ≠ insideComment ∧ rest = line ∨
      previous = insideComment ∧ ∃ n, closing? line = some n ∧ rest = line.drop n := by
  constructor
  · rintro (h | @⟨body, rest, hu⟩)
    · exact .inl ⟨h, rfl⟩
    · exact .inr ⟨rfl, _, closing?_append hu rest, by simp⟩
  · rintro (⟨h, rfl⟩ | ⟨rfl, n, hn, rfl⟩)
    · exact .whole h
    · obtain ⟨body, rest, rfl, rfl, hu⟩ := exists_of_closing? hn
      have hrest : (body ++ '*' :: '/' :: rest).drop (body.length + 2) = rest := by simp
      rw [hrest]
      exact .closed hu

theorem endsInside_iff {previous : Int} {line : List Char} :
    EndsInside previous line ↔ previous = insideComment ∧ closing? line = none ∨
      ∃ rest, LeftOf previous line rest ∧ leavesOpen (ofChars rest) = true := by
  simp only [leavesOpen_iff, closing?_eq_none]
  constructor
  · rintro (h | ⟨hleft, htokens, hopens, hu⟩)
    · exact .inl ⟨rfl, h⟩
    · exact .inr ⟨_, hleft, _, _, _, htokens, hopens, hu⟩
  · rintro (⟨rfl, h⟩ | ⟨rest, hleft, before, token, after, htokens, hopens, hu⟩)
    · exact .carried h
    · exact .opened hleft htokens hopens hu

theorem highlightFrom_state_iff (preview : Preview) (start : Nat) (before : List Span) (line : List Char) :
    (preview.highlightFrom start before line).state = insideComment ↔
      leavesOpen (ofChars (line.drop start)) = true := by
  have hne : outside ≠ insideComment := by decide
  rw [highlightFrom_state]
  split <;> simp [*]

/-- The state of a line says whether it ends inside a block comment. -/
theorem highlight_state_iff (preview : Preview) (previous : Int) (line : String) :
    (preview.highlight previous line).state = insideComment ↔ EndsInside previous line.toList := by
  rw [endsInside_iff, highlight]
  simp only [leftOf_iff]
  split
  · next hprevious =>
    cases hc : closing? line.toList with
    | none => simp [hprevious]
    | some n => simp [hprevious, highlightFrom_state_iff]
  · next hprevious => simp [hprevious, highlightFrom_state_iff]

/-! ## Whatever the styles -/

/-- The kinds with a format are those that are marked up. -/
def Complete (preview : Preview) : Prop := ∀ kind, (preview.format? kind).isSome = kind.isStyled

theorem Complete.perform {isColor : CodePoints → Bool} {preview : Preview} (h : Complete preview)
    (operation : Operation) : Complete (preview.perform isColor operation).2 := by
  cases operation with
  | setTheme palette theme =>
    rw [Preview.perform]
    rcases preview.setTheme_cases isColor palette theme with ⟨formats, hformats, hset⟩ | ⟨failure, -, hset⟩
    · rw [hset]
      exact fun kind => isSome_formats hformats kind
    · rw [hset]
      exact h
  | setText text => exact h
  | rehighlight => exact h
  | highlight previous line => exact h

theorem Complete.performAll {isColor : CodePoints → Bool} {preview : Preview} (h : Complete preview)
    (operations : List Operation) : Complete (preview.performAll isColor operations) := by
  induction operations generalizing preview with
  | nil => exact h
  | cons operation rest ih => exact ih (h.perform operation)

/-- Where a range lies. -/
def Span.range (span : Span) : Nat × Nat := (span.start, span.length)

/-- What highlighting leaves on a line, but for the formats. -/
def Block.outline (block : Block) : Int × List (Nat × Nat) := (block.state, block.spans.map Span.range)

section Outline

variable {preview other : Preview}

theorem map_range_rangeOf (h : Complete preview) (start length : Nat) (kind : Kind) :
    (preview.rangeOf start length kind).map Span.range = if kind.isStyled then [(start, length)] else [] := by
  rw [rangeOf, ← h kind]
  cases preview.format? kind <;> rfl

theorem map_range_spansFrom (h : Complete preview) (hother : Complete other) (offset : Nat) (tokens : List Token) :
    (other.spansFrom offset tokens).map Span.range = (preview.spansFrom offset tokens).map Span.range := by
  induction tokens generalizing offset with
  | nil => rfl
  | cons token tokens ih =>
    rw [spansFrom_cons, spansFrom_cons, List.map_append, List.map_append, map_range_rangeOf h,
      map_range_rangeOf hother, ih]

theorem outline_highlight (h : Complete preview) (hother : Complete other) (previous : Int) (line : String) :
    (other.highlight previous line).outline = (preview.highlight previous line).outline := by
  have hfrom : ∀ start {before before' : List Span}, before'.map Span.range = before.map Span.range →
      (other.highlightFrom start before' line.toList).outline =
        (preview.highlightFrom start before line.toList).outline := by
    intro start before before' hbefore
    simp only [Block.outline, highlightFrom, List.map_append, hbefore, map_range_spansFrom h hother]
  have hcomment : ∀ length,
      (other.commentSpan length).map Span.range = (preview.commentSpan length).map Span.range := by
    intro length
    rw [commentSpan_eq, commentSpan_eq, map_range_rangeOf h, map_range_rangeOf hother]
  rw [highlight, highlight]
  split
  · cases closing? line.toList with
    | none => exact congrArg (Prod.mk insideComment) (hcomment _)
    | some n => exact hfrom n (hcomment n)
  · exact hfrom 0 rfl

theorem outline_highlightAll (h : Complete preview) (hother : Complete other) (previous : Int)
    (lines : List String) :
    (other.highlightAll previous lines).map Block.outline =
      (preview.highlightAll previous lines).map Block.outline := by
  induction lines generalizing previous with
  | nil => rfl
  | cons line rest ih =>
    have hline := outline_highlight h hother previous line
    have hstate : (other.highlight previous line).state = (preview.highlight previous line).state :=
      congrArg Prod.fst hline
    simp only [highlightAll, List.map_cons, hline, hstate, ih]

end Outline

/-! ## Lines and documents -/

/-- What highlighting leaves on a line is sound. -/
structure SoundLine (preview : Preview) (previous : Int) (line : String) : Prop where
  /-- The ranges lie side by side within the line, but for the one range of an empty line in a comment. -/
  spans : if previous = 1 ∧ line = "" then (preview.highlight previous line).spans.map Span.range = [(0, 0)]
    else Tidy 0 line.length (preview.highlight previous line).spans
  binary : (preview.highlight previous line).state = 0 ∨ (preview.highlight previous line).state = 1
  inside : (preview.highlight previous line).state = 1 ↔ EndsInside previous line.toList

/-- Whatever was done to a preview, it highlights every line in ranges side by side, and the states tell which lines
end inside a block comment. On a document, states and ranges are those of any other preview, also in an editor with
other colours. -/
theorem highlight_sound {isColor : CodePoints → Bool} {palette : Palette} {theme : Option Theme} {preview : Preview}
    (h : create isColor palette theme = .ok preview) (operations : List Operation) :
    (∀ previous line, SoundLine (preview.performAll isColor operations) previous line) ∧
      ∀ isColor' palette' theme' other, create isColor' palette' theme' = .ok other → ∀ operations' text,
        ((other.performAll isColor' operations').setText text).blocks.map Block.outline =
          ((preview.performAll isColor operations).setText text).blocks.map Block.outline := by
  have hcomplete : Complete (preview.performAll isColor operations) :=
    Complete.performAll (format?_isSome h) operations
  refine ⟨fun previous line => ⟨?_, (state_highlight _ previous line).symm, highlight_state_iff _ previous line⟩, ?_⟩
  · split
    · next hempty =>
      obtain ⟨rfl, rfl⟩ := hempty
      exact map_range_rangeOf hcomplete 0 0 .comment
    · next hempty => exact tidy_highlight _ hempty
  · intro isColor' palette' theme' other hother operations' text
    have htext : Complete ((preview.performAll isColor operations).setText text) := hcomplete
    have hothertext : Complete ((other.performAll isColor' operations').setText text) :=
      Complete.performAll (format?_isSome hother) operations'
    exact outline_highlightAll htext hothertext noState (lines text)

/-- A theme with a default style and nothing else. -/
def italicTheme : Theme where
  defaultStyle := some "font-style:italic"

/-- A line that ends one comment and opens another, in a preview after a change of theme that failed. -/
theorem highlight_sound_reopened :
    ∃ preview other, create hexColor .light none = .ok preview ∧ create hexColor .dark (some italicTheme) = .ok other ∧
      SoundLine (preview.performAll hexColor [.setTheme .light (some superscriptTheme)]) 1 "a */ b /*/" ∧
      ((other.performAll hexColor []).setText "x /*/\n\n/**/ */ \"s\"").blocks.map Block.outline =
        ((preview.performAll hexColor [.setTheme .light (some superscriptTheme)]).setText
          "x /*/\n\n/**/ */ \"s\"").blocks.map Block.outline := by
  obtain ⟨preview, hpreview⟩ := @exists_create_light hexColor
  have hdark : (create hexColor .dark (some italicTheme)).toOption.isSome = true := by decide +kernel
  cases hother : create hexColor .dark (some italicTheme) with
  | error failure => rw [hother] at hdark; cases hdark
  | ok other =>
    obtain ⟨hline, hdocument⟩ := highlight_sound hpreview [.setTheme .light (some superscriptTheme)]
    exact ⟨preview, other, hpreview, rfl, hline 1 "a */ b /*/", hdocument _ _ _ other hother [] _⟩

end CodeMarkup.Preview
