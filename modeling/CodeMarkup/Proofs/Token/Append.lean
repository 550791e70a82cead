import CodeMarkup.Proofs.Token.Recognition
/-!
# Tokens when more text follows

What a rule says about a text hardly depends on what comes later: two characters settle whether it applies
(`isSome_append`), and a token that does not reach the end of the text stays as it is when the text goes on
(`scan_append`). At the end of a line one character is enough, since no token that could still become
another one ends in front of a line end. `classify_append`: text that is appended changes no token but the
last one.
-/

namespace CodeMarkup.Token

open CodeMarkup.Text

/-! ## Whether a rule applies -/

/-- Two characters settle whether a rule applies. -/
theorem isSome_two {rule : Rule} (h : rule ∈ rules) (a b : Char) (cs : List Char) :
    (rule (a :: b :: cs)).isSome = (rule [a, b]).isSome := by
  simp only [rules, List.mem_cons, List.not_mem_nil, or_false] at h
  rcases h with rfl | rfl | rfl | rfl | rfl | rfl | rfl | rfl
  · simp only [Rule.whitespace]; split <;> rfl
  · by_cases ha : a = '/' <;> by_cases hb : b = '/' <;> simp [Rule.lineComment, ha, hb]
  · by_cases ha : a = '/' <;> by_cases hb : b = '*' <;> simp [Rule.blockComment, ha, hb]
  · simp only [Rule.literal]; split <;> rfl
  · simp only [Rule.literal]; split <;> rfl
  · by_cases ha : a = '@' <;> by_cases hb : isWordPart b <;> simp [Rule.annotated, runLength, ha, hb]
  · simp only [Rule.number]; split <;> rfl
  · simp only [Rule.word]; split <;> rfl

/-- A line end makes no rule apply that did not. -/
theorem isSome_newline {rule : Rule} (h : rule ∈ rules) (c : Char) :
    (rule [c, '\n']).isSome = (rule [c]).isSome := by
  have hn : isWordPart '\n' = false := by decide
  simp only [rules, List.mem_cons, List.not_mem_nil, or_false] at h
  rcases h with rfl | rfl | rfl | rfl | rfl | rfl | rfl | rfl
  · simp only [Rule.whitespace]; split <;> rfl
  · simp [Rule.lineComment]
  · simp [Rule.blockComment]
  · simp only [Rule.literal]; split <;> rfl
  · simp only [Rule.literal]; split <;> rfl
  · by_cases hc : c = '@' <;> simp [Rule.annotated, runLength, hc, hn]
  · simp only [Rule.number]; split <;> rfl
  · simp only [Rule.word]; split <;> rfl

/-- Text that may follow without a change in which rules apply: any text after two characters, and a
line end after one. -/
def GoesOn (cs more : List Char) : Prop := 1 < cs.length ∨ cs ≠ [] ∧ more.head? = some '\n'

theorem isSome_append {rule : Rule} (h : rule ∈ rules) {cs more : List Char} (hm : GoesOn cs more) :
    (rule (cs ++ more)).isSome = (rule cs).isSome := by
  match cs, hm with
  | [], hm => simp [GoesOn] at hm
  | [c], hm =>
    obtain ⟨rest, rfl⟩ : ∃ rest, more = '\n' :: rest := by
      simpa [GoesOn, List.head?_eq_some_iff] using hm
    rw [List.singleton_append, isSome_two h, isSome_newline h]
  | a :: b :: cs, _ =>
    rw [List.cons_append, List.cons_append, isSome_two h, isSome_two h a b cs]

/-- The same rule decides about a text whether or not it goes on. -/
theorem findSome?_append {rs : List Rule} (hr : ∀ rule ∈ rs, rule ∈ rules) {cs more : List Char}
    (hm : GoesOn cs more) :
    rs.findSome? (· cs) = none ∧ rs.findSome? (· (cs ++ more)) = none ∨
      ∃ rule ∈ rs, rs.findSome? (· cs) = rule cs ∧ rs.findSome? (· (cs ++ more)) = rule (cs ++ more) ∧
        (rule cs).isSome := by
  induction rs with
  | nil => exact .inl ⟨rfl, rfl⟩
  | cons rule rs ih =>
    have hs := isSome_append (hr rule List.mem_cons_self) hm
    cases ha : rule cs with
    | some answer =>
      rw [ha] at hs
      obtain ⟨answer', ha'⟩ := Option.isSome_iff_exists.1 hs
      exact .inr ⟨rule, List.mem_cons_self, by simp [ha], by simp [ha'], by simp [ha]⟩
    | none =>
      rw [ha, Option.isSome_none, Option.isSome_eq_false_iff, Option.isNone_iff_eq_none] at hs
      simp only [List.findSome?_cons, ha, hs]
      rcases ih fun rule h => hr rule (List.mem_cons_of_mem _ h) with h | ⟨rule', h, hd⟩
      · exact .inl h
      · exact .inr ⟨rule', List.mem_cons_of_mem _ h, hd⟩

/-- Either no rule applies, be there more text or not, or the same rule makes the token. -/
theorem scan_cases {cs more : List Char} (hm : GoesOn cs more) :
    scan cs = (.punctuation, 1) ∧ scan (cs ++ more) = (.punctuation, 1) ∨
      ∃ rule ∈ rules, rule cs = some (scan cs) ∧ rule (cs ++ more) = some (scan (cs ++ more)) := by
  rcases findSome?_append (fun _ h => h) hm with ⟨h, h'⟩ | ⟨rule, hr, h, h', hs⟩
  · exact .inl ⟨by simp [scan, h], by simp [scan, h']⟩
  · obtain ⟨answer, ha⟩ := Option.isSome_iff_exists.1 hs
    obtain ⟨answer', ha'⟩ := Option.isSome_iff_exists.1 ((isSome_append hr hm).trans hs)
    exact .inr ⟨rule, hr, by simp [scan, h, ha], by simp [scan, h', ha']⟩

/-! ## Tokens that end before the text does -/

/-- Of what follows a token only the first character counts. -/
def Form.Local (form : Form) : Prop :=
  ∀ ⦃kind text c rest⦄ (rest' : List Char), form kind text (c :: rest) → form kind text (c :: rest')

theorem Form.whitespace_local : Form.Whitespace.Local := by
  intro kind text c rest rest' h
  cases h with
  | run ht hb hr => exact .run ht hb hr

theorem Form.lineComment_local : Form.LineComment.Local := by
  intro kind text c rest rest' h
  cases h with
  | line hb hr => exact .line hb hr

theorem Form.blockComment_local : Form.BlockComment.Local := by
  intro kind text c rest rest' h
  cases h with
  | closed hu => exact .closed hu

theorem Form.literal_local (kind : Kind) (quote : Char) : (Form.Literal kind quote).Local := by
  intro kind' text c rest rest' h
  cases h with
  | closed hi => exact .closed hi

theorem Form.annotated_local : Form.Annotated.Local := by
  intro kind text c rest rest' h
  cases h with
  | named hn hw hr => exact .named hn hw hr

theorem Form.number_local : Form.Number.Local := by
  intro kind text c rest rest' h
  cases h with
  | digits hc hp hr => exact .digits hc hp hr

theorem Form.word_local : Form.Word.Local := by
  intro kind text c rest rest' h
  cases h with
  | letters hc hw hr hk => exact .letters hc hw hr hk

theorem Recognises.append {rule : Rule} {form : Form} (hr : Recognises rule form) (hl : form.Local)
    {cs : List Char} {kind : Kind} {n : Nat} (h : rule cs = some (kind, n)) (hn : n < cs.length)
    (more : List Char) : rule (cs ++ more) = some (kind, n) := by
  have hf := hr.sound h
  rw [List.drop_eq_getElem_cons hn] at hf
  have hc := hr.complete (hl (cs.drop (n + 1) ++ more) hf)
  rwa [← List.cons_append, ← List.drop_eq_getElem_cons hn, ← List.append_assoc, List.take_append_drop,
    List.length_take_of_le (Nat.le_of_lt hn)] at hc

theorem rule_append {rule : Rule} (hr : rule ∈ rules) {cs : List Char} {kind : Kind} {n : Nat}
    (h : rule cs = some (kind, n)) (hn : n < cs.length) (more : List Char) :
    rule (cs ++ more) = some (kind, n) := by
  simp only [rules, List.mem_cons, List.not_mem_nil, or_false] at hr
  rcases hr with rfl | rfl | rfl | rfl | rfl | rfl | rfl | rfl
  · exact whitespace_recognises.append Form.whitespace_local h hn more
  · exact lineComment_recognises.append Form.lineComment_local h hn more
  · exact blockComment_recognises.append Form.blockComment_local h hn more
  · exact (literal_recognises .string (by decide)).append (Form.literal_local _ _) h hn more
  · exact (literal_recognises .char (by decide)).append (Form.literal_local _ _) h hn more
  · exact annotated_recognises.append Form.annotated_local h hn more
  · exact number_recognises.append Form.number_local h hn more
  · exact word_recognises.append Form.word_local h hn more

/-- A token that ends before the text does stays as it is when more text follows. -/
theorem scan_append {cs : List Char} (hn : (scan cs).2 < cs.length) (more : List Char) :
    scan (cs ++ more) = scan cs := by
  have hc : cs ≠ [] := by
    rintro rfl
    simp at hn
  have hpos := (scan_bounds hc).1
  rcases scan_cases (.inl (by omega) : GoesOn cs more) with ⟨h, h'⟩ | ⟨rule, hr, h, h'⟩
  · rw [h, h']
  · exact Option.some.inj (h'.symm.trans (rule_append hr h hn more))

/-! ## Appending text -/

/-- The tokens before the last one stay, and the last one is read again with what follows it. -/
theorem ofChars_append {cs : List Char} {before : List Token} {last : Token}
    (h : ofChars cs = before ++ [last]) (more : List Char) :
    ofChars (cs ++ more) = before ++ ofChars (last.text.toList ++ more) := by
  induction before generalizing cs with
  | nil =>
    have hlast : cs = last.text.toList := by
      rw [← charsOf_ofChars cs, h, List.nil_append, charsOf_cons, charsOf_nil, List.append_nil]
    rw [hlast, List.nil_append]
  | cons token before ih =>
    rw [List.cons_append] at h
    obtain ⟨hcs, rfl, hrest⟩ := of_ofChars_eq_cons h
    -- The other tokens are those of what the first one leaves, so it leaves something.
    have hlt : (scan cs).2 < cs.length := by
      by_contra hge
      rw [List.drop_of_length_le (Nat.le_of_not_lt hge), ofChars_nil] at hrest
      exact List.append_ne_nil_of_right_ne_nil before (List.cons_ne_nil last []) hrest.symm
    have hle := Nat.le_of_lt hlt
    rw [ofChars_eq (List.append_ne_nil_of_left_ne_nil hcs more), scan_append hlt,
      List.take_append_of_le_length hle, List.drop_append_of_le_length hle, ih hrest, List.cons_append]

/-- Text appended to a text that is not empty can change nothing but the last token, which there always is. -/
theorem classify_append {a : String} (ha : a ≠ "") :
    (∃ before last, classify a = before ++ [last]) ∧
      ∀ b before last, classify a = before ++ [last] →
        classify (a ++ b) = before ++ classify (last.text ++ b) := by
  constructor
  · have hne : classify a ≠ [] := by
      rw [classify, ofChars_eq (by simpa using ha)]
      exact List.cons_ne_nil _ _
    exact ⟨_, _, (List.dropLast_append_getLast hne).symm⟩
  · intro b before last h
    rw [classify, classify, String.toList_append, String.toList_append]
    exact ofChars_append h b.toList

/-- The comment that `/*/` opens and a star does not close yet is closed by what follows. -/
theorem classify_append_closing :
    "x /*/ *" ≠ "" ∧
      classify "x /*/ *" = [⟨.identifier, "x"⟩, ⟨.whitespace, " "⟩] ++ [⟨.comment, "/*/ *"⟩] ∧
      classify ("x /*/ *" ++ "/ y") =
        [⟨.identifier, "x"⟩, ⟨.whitespace, " "⟩] ++ classify ("/*/ *" ++ "/ y") := by
  have hne : "x /*/ *" ≠ "" := by decide
  have htokens : classify "x /*/ *" = [⟨.identifier, "x"⟩, ⟨.whitespace, " "⟩] ++ [⟨.comment, "/*/ *"⟩] := by
    decide +kernel
  have happend := (classify_append hne).2 "/ y" _ _ htokens
  exact ⟨hne, htokens, happend⟩

end CodeMarkup.Token
