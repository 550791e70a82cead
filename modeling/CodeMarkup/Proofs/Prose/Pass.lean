import CodeMarkup.Highlight
import CodeMarkup.Proofs.Prose.Snippet
import CodeMarkup.Proofs.Runs
/-!
# One pass over prose

`Passes` takes prose apart without a word on how it is searched: text in which nothing stands, a snippet, text
again. There is one way to do so (`exists_passes`, `Passes.unique`), and it can be cut after every snippet
(`Passes.take`, `Passes.drop`). `convert_pass` says that converting prose copies the texts and converts each
snippet by itself, so what comes after a snippet is converted as if it stood alone.
-/

namespace CodeMarkup.Prose

open CodeMarkup.Markup CodeMarkup.Text

/-! ## Prose taken apart -/

/-- No snippet starts in the first `length` places of a text. -/
def Free (length : Nat) (s : List Char) : Prop :=
  ∀ place < length, ∀ snippet : Snippet, ¬ snippet.At (s.drop place)

/-- Prose as snippets, each with the text before it, and the text after the last one. A snippet starts at the
first place where one can. -/
inductive Passes : List Char → List (List Char × Snippet) → List Char → Prop
  | last {text : List Char} (hfree : Free text.length text) : Passes text [] text
  | next {text rest last : List Char} {snippet : Snippet} {parts : List (List Char × Snippet)}
      (hfree : Free text.length (text ++ (snippet.written ++ rest)))
      (hat : snippet.At (snippet.written ++ rest)) (hrest : Passes rest parts last) :
      Passes (text ++ (snippet.written ++ rest)) ((text, snippet) :: parts) last

/-- The prose that parts are taken from. -/
def written (parts : List (List Char × Snippet)) : List Char :=
  parts.flatMap fun part => part.1 ++ part.2.written

theorem Passes.written_append {s last : List Char} {parts : List (List Char × Snippet)}
    (h : Passes s parts last) : s = written parts ++ last := by
  induction h with
  | last => rfl
  | next _ _ _ ih =>
    rw [written, List.flatMap_cons, ← written, List.append_assoc, List.append_assoc, ← ih]

theorem free_cons {c : Char} {length : Nat} {s : List Char} :
    Free (length + 1) (c :: s) ↔ snippet? (c :: s) = none ∧ Free length s := by
  rw [Option.eq_none_iff_forall_ne_some]
  constructor
  · intro h
    refine ⟨fun snippet hs => h 0 (Nat.succ_pos _) snippet (snippet?_eq_some_iff.1 hs), ?_⟩
    intro place hplace
    exact h (place + 1) (Nat.succ_lt_succ hplace)
  · rintro ⟨hnone, h⟩ place hplace snippet hat
    cases place with
    | zero => exact hnone snippet (snippet?_eq_some_iff.2 hat)
    | succ place => exact h place (Nat.lt_of_succ_lt_succ hplace) snippet hat

theorem free_zero (s : List Char) : Free 0 s := fun _ h => absurd h (Nat.not_lt_zero _)

/-- What the search finds is cut off the front. -/
theorem written_append_drop {s : List Char} {snippet : Snippet} (h : snippet.At s) :
    snippet.written ++ s.drop snippet.written.length = s :=
  List.prefix_iff_eq_append.1 h.1.2

theorem drop_written (c : Char) (cs : List Char) (snippet : Snippet) :
    (c :: cs).drop snippet.written.length = cs.drop (snippet.written.length - 1) := by
  obtain ⟨n, hn⟩ := Nat.exists_eq_succ_of_ne_zero
    (fun h => snippet.written_ne_nil (List.eq_nil_of_length_eq_zero h))
  rw [hn]
  rfl

/-- Prose can be taken apart. -/
theorem exists_passes (s : List Char) : ∃ parts last, Passes s parts last := by
  fun_induction pieces s with
  | case1 => exact ⟨[], [], .last (free_zero _)⟩
  | case2 c cs snippet hs ih =>
    obtain ⟨parts, last, hrest⟩ := ih
    have hat := snippet?_eq_some_iff.1 hs
    have hcut := written_append_drop hat
    rw [drop_written] at hcut
    rw [← hcut] at hat ⊢
    exact ⟨_, _, @Passes.next [] _ _ _ _ (free_zero _) hat hrest⟩
  | case3 c cs hs ih =>
    obtain ⟨parts, last, hrest⟩ := ih
    cases hrest with
    | last hfree => exact ⟨_, _, .last (free_cons.2 ⟨hs, hfree⟩)⟩
    | @next text _ _ _ _ hfree hat hrest =>
      exact ⟨_, _, @Passes.next (c :: text) _ _ _ _ (free_cons.2 ⟨hs, hfree⟩) hat hrest⟩

/-- A snippet that stands in a text ends the places where none starts. -/
theorem Free.length_le {length : Nat} {text tail : List Char} {snippet : Snippet}
    (h : Free length (text ++ tail)) (hat : snippet.At tail) : length ≤ text.length := by
  by_contra hlt
  refine h text.length (Nat.lt_of_not_le hlt) snippet ?_
  rwa [List.drop_left]

theorem length_lt_append (text rest : List Char) (snippet : Snippet) :
    text.length < (text ++ (snippet.written ++ rest)).length := by
  have hne := List.length_pos_iff.2 snippet.written_ne_nil
  rw [List.length_append, List.length_append]
  omega

/-- There is one way to take prose apart. -/
theorem Passes.unique {s last last' : List Char} {parts parts' : List (List Char × Snippet)}
    (h : Passes s parts last) (h' : Passes s parts' last') : parts = parts' ∧ last = last' := by
  induction h generalizing parts' last' with
  | last hfree =>
    cases h' with
    | last => exact ⟨rfl, rfl⟩
    | next hfree' hat' hrest' =>
      exact absurd (hfree.length_le hat') (Nat.not_le_of_lt (length_lt_append _ _ _))
  | @next text rest last snippet parts hfree hat hrest ih =>
    generalize hs : text ++ (snippet.written ++ rest) = s at h'
    cases h' with
    | last hfree' =>
      subst hs
      exact absurd (hfree'.length_le hat) (Nat.not_le_of_lt (length_lt_append _ _ _))
    | @next text' rest' last' snippet' parts' hfree' hat' hrest' =>
      -- Both snippets start at the first place where one can.
      have hlen : text.length = text'.length :=
        Nat.le_antisymm ((hs ▸ hfree).length_le hat') ((hs ▸ hfree').length_le hat)
      obtain ⟨rfl, htail⟩ := List.append_inj hs hlen
      obtain rfl := hat.unique (htail ▸ hat')
      obtain rfl := List.append_cancel_left htail
      obtain ⟨rfl, rfl⟩ := ih hrest'
      exact ⟨rfl, rfl⟩

/-! ## Prose cut in two -/

theorem Free.of_append {length : Nat} {s t : List Char} (hl : length ≤ s.length) (h : Free length (s ++ t)) :
    Free length s := by
  intro place hplace snippet hat
  obtain ⟨first, hfirst⟩ := (hat.1.append t).exists_at
  refine h place hplace first ?_
  rwa [List.drop_append_of_le_length (by omega)]

/-- Up to the end of a snippet nothing hangs on what comes after it. -/
theorem Passes.take {s last : List Char} {parts : List (List Char × Snippet)} (h : Passes s parts last)
    (count : Nat) : Passes (Prose.written (parts.take count)) (parts.take count) [] := by
  induction h generalizing count with
  | last =>
    rw [List.take_nil]
    exact .last (free_zero _)
  | @next text rest last snippet parts hfree hat hrest ih =>
    cases count with
    | zero => exact .last (free_zero _)
    | succ count =>
      have hcut : rest = Prose.written (parts.take count) ++ (Prose.written (parts.drop count) ++ last) := by
        rw [hrest.written_append, ← List.append_assoc]
        unfold Prose.written
        rw [← List.flatMap_append, List.take_append_drop]
      rw [hcut] at hfree hat
      rw [List.take_succ_cons, Prose.written, List.flatMap_cons, ← Prose.written, List.append_assoc]
      refine .next (@Free.of_append _ _ (Prose.written (parts.drop count) ++ last) ?_ ?_) hat.of_append (ih count)
      · rw [List.length_append]
        exact Nat.le_add_right _ _
      · simpa only [List.append_assoc] using hfree

theorem Passes.drop {s last : List Char} {parts : List (List Char × Snippet)} (h : Passes s parts last)
    (count : Nat) : Passes (Prose.written (parts.drop count) ++ last) (parts.drop count) last := by
  induction h generalizing count with
  | last hfree =>
    rw [List.drop_nil]
    exact .last hfree
  | next hfree hat hrest ih =>
    cases count with
    | zero =>
      have hp := Passes.next hfree hat hrest
      rw [List.drop_zero, ← hp.written_append]
      exact hp
    | succ count => exact ih count

theorem Passes.at_of_mem {s last : List Char} {parts : List (List Char × Snippet)}
    (h : Passes s parts last) {part : List Char × Snippet} (hm : part ∈ parts) :
    part.2.At part.2.written := by
  induction h with
  | last => cases hm
  | @next text rest last snippet parts hfree hat hrest ih =>
    rcases List.mem_cons.1 hm with rfl | hm
    · have halone := @Snippet.At.of_append snippet [] rest hat
      rwa [List.append_nil] at halone
    · exact ih hm

/-! ## Conversion -/

/-- A snippet converted by itself. -/
def converted : Snippet → CodePoints
  | .fenced code => preElement blockStyle (escape (CodePoints.ofChars (dropLineEnd code)))
  | .spanned code => inlineElement (CodePoints.ofChars code)
  | .tagged code => inlineElement (CodePoints.ofChars code)

/-- A piece converted. -/
def image : Piece → CodePoints
  | .plain c => [.char c]
  | .snippet snippet => converted snippet

/-- Code without a theme is not highlighted. -/
theorem convertPiece_eq {m : Type → Type} [Monad m] (piece : Piece) :
    convertPiece (m := m) (fun code => pure (blockElement code)) piece = pure (image piece) := by
  cases piece with
  | plain c => rfl
  | snippet snippet =>
    cases snippet with
    | fenced code => simp [convertPiece, image, converted, blockElement, CodePoints.ofString]
    | spanned code => rfl
    | tagged code => rfl

theorem convertPieces_eq {m : Type → Type} [Monad m] [LawfulMonad m] (list : List Piece) :
    convertPieces (m := m) (fun code => pure (blockElement code)) list = pure (list.flatMap image) := by
  induction list with
  | nil => exact convertPieces_nil _
  | cons piece list ih =>
    rw [convertPieces_cons, convertPiece_eq, ih]
    simp

theorem plain_eq (prose : String) : plain prose = (pieces prose.toList).flatMap image := by
  unfold plain convert
  rw [convertPieces_eq]
  rfl

theorem pieces_cons_none {c : Char} {cs : List Char} (h : snippet? (c :: cs) = none) :
    pieces (c :: cs) = .plain c :: pieces cs := by
  rw [pieces, h]

theorem pieces_at {snippet : Snippet} {rest : List Char} (h : snippet.At (snippet.written ++ rest)) :
    pieces (snippet.written ++ rest) = .snippet snippet :: pieces rest := by
  obtain ⟨c, cs, hc⟩ := List.exists_cons_of_ne_nil snippet.written_ne_nil
  have hdrop := drop_written c (cs ++ rest) snippet
  rw [← List.cons_append, ← hc, List.drop_left] at hdrop
  have hs := snippet?_eq_some_iff.2 h
  rw [hc, List.cons_append] at hs ⊢
  rw [pieces, hs]
  simp only
  rw [← hdrop]

theorem pieces_free {text : List Char} {tail : List Char} (h : Free text.length (text ++ tail)) :
    pieces (text ++ tail) = text.map .plain ++ pieces tail := by
  induction text with
  | nil => rfl
  | cons c text ih =>
    rw [List.cons_append] at h ⊢
    obtain ⟨hnone, hfree⟩ := free_cons.1 h
    rw [pieces_cons_none hnone, ih hfree]
    rfl

theorem image_plain (text : List Char) : (text.map .plain).flatMap image = CodePoints.ofChars text := by
  induction text with
  | nil => rfl
  | cons c text ih => exact congrArg (.char c :: ·) ih

/-- The texts are copied and the snippets converted. -/
theorem Passes.image_pieces {s last : List Char} {parts : List (List Char × Snippet)}
    (h : Passes s parts last) :
    (pieces s).flatMap image =
      (parts.flatMap fun part => CodePoints.ofChars part.1 ++ converted part.2) ++ CodePoints.ofChars last := by
  induction h with
  | @last text hfree =>
    have hp := @pieces_free text [] (by rwa [List.append_nil])
    rw [List.append_nil] at hp
    rw [hp, List.flatMap_append, image_plain, pieces]
    simp
  | next hfree hat hrest ih =>
    rw [pieces_free hfree, pieces_at hat, List.flatMap_append, List.flatMap_cons, ih, image_plain,
      List.flatMap_cons]
    simp only [List.append_assoc]
    rfl

theorem Passes.plain {s last : List Char} {parts : List (List Char × Snippet)} (h : Passes s parts last) :
    Prose.plain (String.ofList s) =
      (parts.flatMap fun part => CodePoints.ofChars part.1 ++ converted part.2) ++ CodePoints.ofChars last := by
  rw [plain_eq, String.toList_ofList]
  exact h.image_pieces

end CodeMarkup.Prose

namespace CodeMarkup

open CodeMarkup.Text

/-- Without the name of a theme nothing is highlighted, and the workspace stays as it is. -/
theorem outcome_convertProse (prose : String) (library : Option Theme.Library) (workspace : Workspace) :
    outcome (convertProse prose .missing library) workspace = (.ok (Prose.plain prose), workspace) := by
  have hblock : highlightBlock .missing library = fun code => pure (Prose.blockElement code) := rfl
  unfold convertProse Prose.convert
  rw [hblock, Prose.convertPieces_eq, Prose.plain_eq]
  rfl

namespace Prose

end Prose

end CodeMarkup
