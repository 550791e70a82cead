import CodeMarkup.Proofs.Token.Restart
/-!
# Numbers side by side

A number starts with a digit of any script and goes on with a fixed set of characters, of which the digits are
0 to 9. So a number may be followed by a digit, one of the others, and then the next token is a number too
(`digitAfterNumber_iff`).
-/

namespace CodeMarkup.Token

open CodeMarkup.Text

/-! ## Digits -/

theorem exists_of_inRanges {ranges : List (Nat × Nat)} {n : Nat} (h : inRanges ranges n = true) :
    ∃ range ∈ ranges, range.1 ≤ n ∧ n ≤ range.2 := by
  induction ranges with
  | nil => cases h
  | cons head rest ih =>
    rw [inRanges, Bool.and_eq_true, Bool.or_eq_true, decide_eq_true_eq, decide_eq_true_eq] at h
    obtain ⟨hfirst, hlast | hrest⟩ := h
    · exact ⟨head, List.mem_cons_self, hfirst, hlast⟩
    · obtain ⟨range, hm, hrange⟩ := ih hrest
      exact ⟨range, List.mem_cons_of_mem _ hm, hrange⟩

theorem isBlank_of_isDigit {c : Char} (h : isDigit c = true) : isBlank c = false := by
  have hapart : ∀ digits ∈ digitRanges, ∀ blanks ∈ blankRanges, digits.2 < blanks.1 ∨ blanks.2 < digits.1 := by
    decide +kernel
  rw [Bool.eq_false_iff]
  intro hblank
  obtain ⟨digits, hdigits, hfirst, hlast⟩ := exists_of_inRanges h
  obtain ⟨blanks, hblanks, hfirst', hlast'⟩ := exists_of_inRanges hblank
  have := hapart digits hdigits blanks hblanks
  omega

/-- A token that starts with a digit is a number. -/
theorem scan_digit {c : Char} (h : isDigit c = true) (cs : List Char) : (scan (c :: cs)).1 = .number := by
  have hne : ∀ {d : Char}, isDigit d = false → c ≠ d := by
    rintro d hd rfl
    rw [h] at hd
    cases hd
  have hslash : c ≠ '/' := hne (by decide)
  have hstring : c ≠ '\"' := hne (by decide)
  have hchar : c ≠ '\'' := hne (by decide)
  have hmark : c ≠ '@' := hne (by decide)
  simp [scan, rules, Rule.whitespace, Rule.lineComment, Rule.blockComment, Rule.literal, Rule.annotated,
    Rule.number, isBlank_of_isDigit h, h, hslash, hstring, hchar, hmark]

/-! ## Numbers among the tokens -/

theorem FirstOf.exists_form {fs : List Form} {kind : Kind} {text rest : List Char}
    (h : FirstOf fs kind text rest) : ∃ form ∈ fs, form kind text rest := by
  induction h with
  | here hf => exact ⟨_, List.mem_cons_self, hf⟩
  | later _ _ ih =>
    obtain ⟨form, hm, hf⟩ := ih
    exact ⟨form, List.mem_cons_of_mem _ hm, hf⟩

/-- Only the form of numbers makes numbers. -/
theorem FirstOf.number {text rest : List Char} (h : FirstOf forms .number text rest) :
    Form.Number .number text rest := by
  obtain ⟨form, hm, hf⟩ := h.exists_form
  simp only [forms, List.mem_cons, List.not_mem_nil, or_false] at hm
  rcases hm with rfl | rfl | rfl | rfl | rfl | rfl | rfl | rfl | rfl
  · cases hf
  · cases hf
  · cases hf
  · cases hf
  · cases hf
  · cases hf
  · exact hf
  · cases hf with
    | letters _ _ _ hkind => cases hkind
  · cases hf

/-- The tokens of a source from some place on: a number, and what comes after it. -/
def NumberBefore (source : String) (number : Token) (after : List Token) : Prop :=
  (∃ before, classify source = before ++ number :: after) ∧ number.kind = .number

/-- A token has the first form that fits where it stands. -/
theorem firstOf_of_classify {source : String} {before after : List Token} {token : Token}
    (h : classify source = before ++ token :: after) :
    FirstOf forms token.kind token.text.toList (charsOf after) := by
  obtain ⟨hne, htoken, hafter⟩ := of_ofChars_eq_cons (ofChars_drop h)
  have hfirst := scan_sound hne
  rw [← charsOf_ofChars (List.drop _ _), hafter] at hfirst
  have hkind := congrArg Token.kind htoken
  have htext := congrArg (·.text.toList) htoken
  simp only [String.toList_ofList] at htext
  rw [hkind, htext]
  exact hfirst

/-- A number starts with a digit and ends where the characters of numbers do. -/
theorem NumberBefore.digits {source : String} {number : Token} {after : List Token}
    (h : NumberBefore source number after) :
    ∃ c tail, number.text.toList = c :: tail ∧ isDigit c = true ∧ Stops isNumberPart (charsOf after) := by
  obtain ⟨⟨before, htokens⟩, hkind⟩ := h
  have hform := FirstOf.number (hkind ▸ firstOf_of_classify htokens)
  generalize number.text.toList = text at hform
  cases hform with
  | digits hdigit _ hrest => exact ⟨_, _, rfl, hdigit, hrest⟩

theorem NumberBefore.ofChars_after {source : String} {number : Token} {after : List Token}
    (h : NumberBefore source number after) : ofChars (charsOf after) = after := by
  obtain ⟨⟨before, htokens⟩, -⟩ := h
  rw [List.append_cons] at htokens
  exact ofChars_drop htokens

/-- Somewhere in the source a digit follows a number. -/
def DigitAfterNumber (source : String) : Prop :=
  ∃ number after c rest, NumberBefore source number after ∧ charsOf after = c :: rest ∧ isDigit c = true

/-- Somewhere in the source a number follows a number. -/
def NumberAfterNumber (source : String) : Prop :=
  ∃ number next after, NumberBefore source number (next :: after) ∧ next.kind = .number

theorem numberAfterNumber_of_digit {source : String} (h : DigitAfterNumber source) : NumberAfterNumber source := by
  obtain ⟨number, after, c, rest, hnumber, hchars, hdigit⟩ := h
  have hafter := hnumber.ofChars_after
  rw [hchars, ofChars_eq (List.cons_ne_nil c rest)] at hafter
  exact ⟨number, _, _, hafter ▸ hnumber, scan_digit hdigit rest⟩

theorem digitAfterNumber_of_number {source : String} (h : NumberAfterNumber source) : DigitAfterNumber source := by
  obtain ⟨number, next, after, hnumber, hnext⟩ := h
  have hlater : NumberBefore source next after := by
    obtain ⟨⟨before, htokens⟩, -⟩ := hnumber
    exact ⟨⟨before ++ [number], htokens.trans (List.append_cons _ _ _)⟩, hnext⟩
  obtain ⟨c, tail, htext, hdigit, -⟩ := hlater.digits
  refine ⟨number, next :: after, c, tail ++ charsOf after, hnumber, ?_, hdigit⟩
  rw [charsOf_cons, htext, List.cons_append]

/-- A number is followed by a digit exactly where the next token is a number too, and such a digit is none of 0 to
9: a number goes on as long as there are characters of its own set. -/
theorem digitAfterNumber_iff (source : String) :
    (DigitAfterNumber source ↔ NumberAfterNumber source) ∧
      (DigitAfterNumber source ↔ ∃ number after c rest, NumberBefore source number after ∧
        charsOf after = c :: rest ∧ isDigit c = true ∧ c ∉ "0123456789".toList) ∧
      ∀ number after, NumberBefore source number after → Stops isNumberPart (charsOf after) := by
  have hstops : ∀ number after, NumberBefore source number after → Stops isNumberPart (charsOf after) := by
    intro number after hnumber
    obtain ⟨-, -, -, -, hrest⟩ := hnumber.digits
    exact hrest
  refine ⟨⟨numberAfterNumber_of_digit, digitAfterNumber_of_number⟩, ⟨?_, ?_⟩, hstops⟩
  · rintro ⟨number, after, c, rest, hnumber, hchars, hdigit⟩
    refine ⟨number, after, c, rest, hnumber, hchars, hdigit, fun hc => ?_⟩
    have hparts : "0123456789".toList.all isNumberPart = true := by decide +kernel
    have hend := hstops number after hnumber c (by rw [hchars]; rfl)
    rw [List.all_eq_true.1 hparts c hc] at hend
    cases hend
  · rintro ⟨number, after, c, rest, hnumber, hchars, hdigit, -⟩
    exact ⟨number, after, c, rest, hnumber, hchars, hdigit⟩

/-- A one and a superscript two are two numbers. -/
theorem classify_superscript :
    classify "1²" = [⟨.number, "1"⟩, ⟨.number, "²"⟩] ∧ isDigit '²' = true ∧ NumberAfterNumber "1²" ∧
      DigitAfterNumber "1²" := by
  have htokens : classify "1²" = [⟨.number, "1"⟩, ⟨.number, "²"⟩] := by decide +kernel
  have hnumber : NumberBefore "1²" ⟨.number, "1"⟩ [⟨.number, "²"⟩] := ⟨⟨[], htokens⟩, rfl⟩
  have hdigit : isDigit '²' = true := by decide
  exact ⟨htokens, hdigit, ⟨_, _, _, hnumber, rfl⟩, ⟨_, _, '²', [], hnumber, by decide, hdigit⟩⟩

end CodeMarkup.Token
