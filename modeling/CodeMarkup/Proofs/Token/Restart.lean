import CodeMarkup.Proofs.Token.Append
/-!
# Tokens of a segment

`classify_segment`: tokens that stand side by side are the tokens of their own text. A token depends on nothing
before it, and cutting the text off behind a token changes none up to it (`scan_cut`): of what follows a token
a rule asks only how it does not start, and where no rule applied none applies to less text.
-/

namespace CodeMarkup.Token

open CodeMarkup.Text

/-! ## Rules on text that is cut off -/

/-- A token stays one when what follows it is cut off somewhere. -/
def Form.Cuts (form : Form) : Prop :=
  ∀ ⦃kind text rest⦄ (more : List Char), form kind text (rest ++ more) → form kind text rest

theorem Stops.cut {p : Char → Bool} {rest more : List Char} (h : Stops p (rest ++ more)) : Stops p rest := by
  intro c hc
  cases rest with
  | nil => cases hc
  | cons d ds => exact h c hc

theorem Form.whitespace_cuts : Form.Whitespace.Cuts := by
  intro kind text rest more h
  cases h with
  | run ht hb hr => exact .run ht hb hr.cut

theorem Form.lineComment_cuts : Form.LineComment.Cuts := by
  intro kind text rest more h
  cases h with
  | line hb hr =>
    refine .line hb fun c hc => ?_
    cases rest with
    | nil => cases hc
    | cons d ds => exact hr c hc

theorem Form.blockComment_cuts : Form.BlockComment.Cuts := by
  intro kind text rest more h
  generalize hrest : rest ++ more = later at h
  cases h with
  | closed hu => exact .closed hu
  | unclosed hu =>
    obtain ⟨rfl, -⟩ := List.append_eq_nil_iff.1 hrest
    exact .unclosed hu

theorem Form.literal_cuts (kind : Kind) (quote : Char) : (Form.Literal kind quote).Cuts := by
  intro kind' text rest more h
  generalize hrest : rest ++ more = later at h
  cases h with
  | closed hi => exact .closed hi
  | unclosed hi =>
    obtain ⟨rfl, -⟩ := List.append_eq_nil_iff.1 hrest
    exact .unclosed hi
  | escaping hi =>
    obtain ⟨rfl, -⟩ := List.append_eq_nil_iff.1 hrest
    exact .escaping hi

theorem Form.annotated_cuts : Form.Annotated.Cuts := by
  intro kind text rest more h
  cases h with
  | named hn hw hr => exact .named hn hw hr.cut

theorem Form.number_cuts : Form.Number.Cuts := by
  intro kind text rest more h
  cases h with
  | digits hc hp hr => exact .digits hc hp hr.cut

theorem Form.word_cuts : Form.Word.Cuts := by
  intro kind text rest more h
  cases h with
  | letters hc hw hr hk => exact .letters hc hw hr.cut hk

theorem Recognises.cut {rule : Rule} {form : Form} (hr : Recognises rule form) (hc : form.Cuts)
    {cs more : List Char} {kind : Kind} {n : Nat} (h : rule (cs ++ more) = some (kind, n)) (hn : n ≤ cs.length) :
    rule cs = some (kind, n) := by
  have hf := hr.sound h
  rw [List.take_append_of_le_length hn, List.drop_append_of_le_length hn] at hf
  have hcut := hr.complete (hc more hf)
  rwa [List.take_append_drop, List.length_take_of_le hn] at hcut

theorem rule_cut {rule : Rule} (hr : rule ∈ rules) {cs more : List Char} {kind : Kind} {n : Nat}
    (h : rule (cs ++ more) = some (kind, n)) (hn : n ≤ cs.length) : rule cs = some (kind, n) := by
  simp only [rules, List.mem_cons, List.not_mem_nil, or_false] at hr
  rcases hr with rfl | rfl | rfl | rfl | rfl | rfl | rfl | rfl
  · exact whitespace_recognises.cut Form.whitespace_cuts h hn
  · exact lineComment_recognises.cut Form.lineComment_cuts h hn
  · exact blockComment_recognises.cut Form.blockComment_cuts h hn
  · exact (literal_recognises .string (by decide)).cut (Form.literal_cuts _ _) h hn
  · exact (literal_recognises .char (by decide)).cut (Form.literal_cuts _ _) h hn
  · exact annotated_recognises.cut Form.annotated_cuts h hn
  · exact number_recognises.cut Form.number_cuts h hn
  · exact word_recognises.cut Form.word_cuts h hn

/-- A rule that does not apply to a text does not apply to its start either. -/
theorem rule_eq_none_of_append {rule : Rule} (hr : rule ∈ rules) {cs more : List Char}
    (h : rule (cs ++ more) = none) : rule cs = none := by
  match cs with
  | [] =>
    simp only [rules, List.mem_cons, List.not_mem_nil, or_false] at hr
    rcases hr with rfl | rfl | rfl | rfl | rfl | rfl | rfl | rfl <;> rfl
  | [c] =>
    simp only [rules, List.mem_cons, List.not_mem_nil, or_false] at hr
    rw [List.singleton_append] at h
    rcases hr with rfl | rfl | rfl | rfl | rfl | rfl | rfl | rfl
    · simp_all [Rule.whitespace]
    · simp [Rule.lineComment]
    · simp [Rule.blockComment]
    · simp_all [Rule.literal]
    · simp_all [Rule.literal]
    · by_cases hc : c = '@' <;> simp [Rule.annotated, runLength, hc]
    · simp_all [Rule.number]
    · simp_all [Rule.word]
  | a :: b :: cs =>
    -- Two characters settle the matter, and the start has them both.
    have hsome := isSome_two hr a b (cs ++ more)
    rw [← List.cons_append, ← List.cons_append, h, ← isSome_two hr a b cs] at hsome
    exact Option.isNone_iff_eq_none.1 (Option.isSome_eq_false_iff.1 hsome.symm)

theorem findSome?_cut {rs : List Rule} (hr : ∀ rule ∈ rs, rule ∈ rules) {cs more : List Char}
    (hn : ∀ answer, rs.findSome? (· (cs ++ more)) = some answer → answer.2 ≤ cs.length) :
    rs.findSome? (· cs) = rs.findSome? (· (cs ++ more)) := by
  induction rs with
  | nil => rfl
  | cons rule rs ih =>
    rw [List.forall_mem_cons] at hr
    rw [List.findSome?_cons] at hn
    rw [List.findSome?_cons, List.findSome?_cons]
    cases ha : rule (cs ++ more) with
    | some answer =>
      rw [ha] at hn
      rw [rule_cut hr.1 ha (hn answer rfl)]
    | none =>
      rw [ha] at hn
      rw [rule_eq_none_of_append hr.1 ha]
      exact ih hr.2 hn

/-- A token that lies within the start of a text is the one that the start has by itself. -/
theorem scan_cut {cs more : List Char} (h : (scan (cs ++ more)).2 ≤ cs.length) :
    scan cs = scan (cs ++ more) := by
  rw [scan, scan, findSome?_cut fun _ hr => hr]
  intro answer ha
  rwa [scan, ha] at h

/-! ## Segments -/

/-- What was cut off behind a token is not missed by those before it. -/
theorem ofChars_take {cs : List Char} {tokens later : List Token} (h : ofChars cs = tokens ++ later) :
    ofChars (charsOf tokens) = tokens := by
  induction tokens generalizing cs with
  | nil => exact ofChars_nil
  | cons token tokens ih =>
    rw [List.cons_append] at h
    obtain ⟨hcs, rfl, hrest⟩ := of_ofChars_eq_cons h
    obtain ⟨hpos, hle⟩ := scan_bounds hcs
    have htext : cs = (cs.take (scan cs).2 ++ charsOf tokens) ++ charsOf later := by
      have hdrop := charsOf_ofChars (cs.drop (scan cs).2)
      rw [hrest, charsOf, List.flatMap_append, ← charsOf, ← charsOf] at hdrop
      rw [List.append_assoc, hdrop, List.take_append_drop]
    have hlength : (cs.take (scan cs).2).length = (scan cs).2 := List.length_take_of_le hle
    have hscan : scan (cs.take (scan cs).2 ++ charsOf tokens) = scan cs := by
      have hcut := @scan_cut (cs.take (scan cs).2 ++ charsOf tokens) (charsOf later)
      rw [← htext, List.length_append, hlength] at hcut
      exact hcut (Nat.le_add_right _ _)
    have hne : cs.take (scan cs).2 ++ charsOf tokens ≠ [] := by
      intro hnil
      rw [(List.append_eq_nil_iff.1 hnil).1] at hlength
      exact Nat.ne_of_gt hpos hlength.symm
    rw [charsOf_cons, String.toList_ofList, ofChars_eq hne, hscan, List.take_left' hlength,
      List.drop_left' hlength, ih hrest]

/-- Tokens start afresh: those before them leave nothing behind. -/
theorem ofChars_drop {cs : List Char} {before tokens : List Token} (h : ofChars cs = before ++ tokens) :
    ofChars (charsOf tokens) = tokens := by
  induction before generalizing cs with
  | nil =>
    rw [List.nil_append] at h
    rw [← h, charsOf_ofChars]
  | cons token before ih =>
    exact ih (of_ofChars_eq_cons h).2.2

theorem classify_text {source : String} {before segment after : List Token}
    (h : classify source = before ++ (segment ++ after)) :
    classify (String.join (segment.map (·.text))) = segment := by
  rw [classify, String.toList_join, List.flatMap_map]
  exact ofChars_take (ofChars_drop h)

/-- Any tokens in a row are the tokens of their own text, and so is each one. -/
theorem classify_segment (source : String) :
    (∀ i j, classify (String.join ((((classify source).take j).drop i).map (·.text))) =
      ((classify source).take j).drop i) ∧
    ∀ token ∈ classify source, classify token.text = [token] := by
  constructor
  · intro i j
    apply @classify_text source (((classify source).take j).take i) _ ((classify source).drop j)
    rw [← List.append_assoc, List.take_append_drop, List.take_append_drop]
  · intro token hm
    obtain ⟨before, after, h⟩ := List.append_of_mem hm
    have htoken := @classify_text source before [token] after h
    have htext : String.join [token.text] = token.text := by
      rw [← String.toList_inj, String.toList_join, List.flatMap_singleton]
    rwa [List.map_singleton, htext] at htoken

end CodeMarkup.Token
