import CodeMarkup.Text.CharClass
import Mathlib.Data.List.DropRight
import Mathlib.Data.List.TakeDrop
import Mathlib.Data.List.TakeWhile
/-!
# White space around a text

What is left of a text when it is stripped neither starts nor ends with white space (`trimmed_strip`), and such a
text stays as it is (`Trimmed.strip_eq`). So stripping twice is stripping once.
-/

namespace CodeMarkup.Text

/-! ## Blanks at the end -/

theorem stripEnd_append {blanks : CodePoints} (h : ∀ c ∈ blanks, c.has isBlank = true) (s : CodePoints) :
    stripEnd (s ++ blanks) = stripEnd s := by
  unfold stripEnd
  rw [List.reverse_append, List.dropWhile_append_of_pos]
  intro c hc
  exact h c (List.mem_reverse.1 hc)

theorem strip_append {blanks : CodePoints} (h : ∀ c ∈ blanks, c.has isBlank = true) (s : CodePoints) :
    strip (s ++ blanks) = strip s := by
  unfold strip stripStart
  rw [List.dropWhile_append]
  split
  · next hs =>
    rw [List.isEmpty_iff.1 hs, ← List.nil_append (List.dropWhile _ blanks)]
    apply stripEnd_append
    intro c hc
    exact h c ((List.dropWhile_sublist _).mem hc)
  · exact stripEnd_append h _

theorem exists_stripEnd_append (s : CodePoints) :
    ∃ blanks : CodePoints, (∀ c ∈ blanks, c.has isBlank = true) ∧ s = stripEnd s ++ blanks := by
  refine ⟨(s.reverse.takeWhile (·.has isBlank)).reverse, fun c hc => ?_, ?_⟩
  · exact List.mem_takeWhile_imp (List.mem_reverse.1 hc)
  · unfold stripEnd
    rw [← List.reverse_append, List.takeWhile_append_dropWhile, List.reverse_reverse]

/-- A character that is no blank is not among blanks. -/
theorem not_mem_blanks {blanks : CodePoints} (h : ∀ c ∈ blanks, c.has isBlank = true) {c : CodePoint}
    (hc : c.has isBlank = false) : c ∉ blanks := by
  intro hm
  rw [h c hm] at hc
  cases hc

/-! ## Blanks at both ends -/

/-- A text neither starts nor ends with white space. -/
structure Trimmed (s : CodePoints) : Prop where
  start : ∀ c, s.head? = some c → c.has isBlank = false
  finish : ∀ c, s.getLast? = some c → c.has isBlank = false

theorem stripEnd_eq_rdropWhile (s : CodePoints) : stripEnd s = s.rdropWhile (·.has isBlank) := rfl

theorem strip_sublist (s : CodePoints) : (strip s).Sublist s :=
  (List.rdropWhile_prefix (CodePoint.has isBlank) _).sublist.trans (List.dropWhile_sublist _)

/-- What is left of a text is trimmed. -/
theorem trimmed_strip (s : CodePoints) : Trimmed (strip s) := by
  constructor
  · intro c hc
    -- The end is stripped last, which leaves the first character where it was.
    have hstart : (stripStart s).head? = some c := by
      obtain ⟨rest, hrest⟩ : strip s <+: stripStart s :=
        List.rdropWhile_prefix (CodePoint.has isBlank) _
      rw [← hrest, List.head?_append, hc, Option.some_or]
    have hdropped := List.head?_dropWhile_not (·.has isBlank) s
    rw [← stripStart, hstart] at hdropped
    exact Bool.eq_false_iff.2 (by simpa using hdropped)
  · intro c hc
    rw [strip, stripEnd, List.getLast?_reverse] at hc
    have hdropped := List.head?_dropWhile_not (·.has isBlank) (stripStart s).reverse
    rw [hc] at hdropped
    exact Bool.eq_false_iff.2 (by simpa using hdropped)

/-- Nothing is stripped from a trimmed text. -/
theorem Trimmed.strip_eq {s : CodePoints} (h : Trimmed s) : strip s = s := by
  have hdrop : ∀ t : CodePoints, (∀ c, t.head? = some c → c.has isBlank = false) →
      t.dropWhile (·.has isBlank) = t := by
    intro t ht
    cases t with
    | nil => rfl
    | cons c t =>
      rw [List.dropWhile_cons_of_neg]
      rw [ht c rfl]
      exact Bool.false_ne_true
  have hstart : stripStart s = s := hdrop s h.start
  have hfinish : s.reverse.dropWhile (·.has isBlank) = s.reverse := by
    refine hdrop s.reverse fun c hc => h.finish c ?_
    rwa [List.head?_reverse] at hc
  rw [strip, hstart, stripEnd, hfinish, List.reverse_reverse]

theorem strip_strip (s : CodePoints) : strip (strip s) = strip s := (trimmed_strip s).strip_eq

/-- Nothing is left exactly of blanks. -/
theorem strip_eq_nil_iff (s : CodePoints) : strip s = [] ↔ allBlank s = true := by
  rw [strip, stripEnd_eq_rdropWhile, List.rdropWhile_eq_nil_iff, allBlank, List.all_eq_true]
  constructor
  · intro h c hc
    rw [← List.takeWhile_append_dropWhile (p := (·.has isBlank)) (l := s)] at hc
    rcases List.mem_append.1 hc with hc | hc
    · exact List.mem_takeWhile_imp hc
    · exact h c hc
  · intro h c hc
    exact h c ((List.dropWhile_sublist _).mem hc)

end CodeMarkup.Text
