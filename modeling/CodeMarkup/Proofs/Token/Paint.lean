import CodeMarkup.Preview
import CodeMarkup.Proofs.Token.Append
/-!
# Kinds of characters, line by line

The kinds of the characters of a text can be found one line at a time: those of a line depend on what
comes before it only through one bit, whether a block comment is open there (`paint_line`,
`paintCarried_line`). This takes that no literal reaches over a line end.
-/

namespace CodeMarkup.Token

open CodeMarkup.Text

/-- The characters of tokens, each with the kind of its token. -/
def painted (tokens : List Token) : List (Char × Kind) :=
  tokens.flatMap fun token => token.text.toList.map (·, token.kind)

@[simp] theorem painted_nil : painted [] = [] := rfl

theorem painted_cons (token : Token) (tokens : List Token) :
    painted (token :: tokens) = token.text.toList.map (·, token.kind) ++ painted tokens := by
  simp [painted]

theorem painted_left {token : Token} {i : Nat} (h : i < token.text.length) (tokens : List Token) :
    ∃ c, (painted (token :: tokens))[i]? = some (c, token.kind) := by
  have hi : i < token.text.toList.length := by rwa [String.length_toList]
  refine ⟨token.text.toList[i], ?_⟩
  rw [painted_cons, List.getElem?_append_left (by rwa [List.length_map]), List.getElem?_map,
    List.getElem?_eq_getElem hi, Option.map_some]

theorem painted_right {token : Token} {i : Nat} (h : token.text.length ≤ i) (tokens : List Token) :
    (painted (token :: tokens))[i]? = (painted tokens)[i - token.text.length]? := by
  have hl : (token.text.toList.map (·, token.kind)).length = token.text.length := by
    rw [List.length_map, String.length_toList]
  rw [painted_cons, List.getElem?_append_right (by rwa [hl]), hl]

/-- The characters of a text, each with the kind of the token that holds it. -/
def paint (cs : List Char) : List (Char × Kind) := painted (ofChars cs)

@[simp] theorem paint_nil : paint [] = [] := by simp [paint]

theorem paint_eq {cs : List Char} (h : cs ≠ []) :
    paint cs = (cs.take (scan cs).2).map (·, (scan cs).1) ++ paint (cs.drop (scan cs).2) := by
  rw [paint, ofChars_eq h, painted_cons, String.toList_ofList]
  rfl

/-- Every character is there once, in its place. -/
theorem map_fst_paint (cs : List Char) : (paint cs).map (·.1) = cs := by
  have h : ∀ tokens : List Token, (painted tokens).map (·.1) = charsOf tokens := by
    intro tokens
    induction tokens with
    | nil => rfl
    | cons token tokens ih => simp [painted_cons, ih, Function.comp_def]
  rw [paint, h, charsOf_ofChars]

/-! ## White space and block comments -/

theorem scan_whitespace {c : Char} (h : isBlank c = true) (cs : List Char) :
    scan (c :: cs) = (.whitespace, 1 + runLength isBlank cs) := by
  simp [scan, rules, Rule.whitespace, runLength, h]
  omega

/-- White space at the start can be taken off as a whole. -/
theorem paint_run (cs : List Char) :
    paint cs = (cs.takeWhile isBlank).map (·, .whitespace) ++ paint (cs.dropWhile isBlank) := by
  cases cs with
  | nil => simp
  | cons c cs =>
    by_cases hc : isBlank c
    · rw [paint_eq (List.cons_ne_nil c cs), scan_whitespace hc, Nat.add_comm, List.take_succ_cons,
        List.drop_succ_cons, take_runLength, drop_runLength]
      simp [hc]
    · simp [hc]

/-- White space at the start can be taken off one character at a time. -/
theorem paint_blank {c : Char} (h : isBlank c = true) (cs : List Char) :
    paint (c :: cs) = (c, .whitespace) :: paint cs := by
  rw [paint_run (c :: cs), paint_run cs]
  simp [h]

theorem paint_blanks {blanks : List Char} (h : ∀ c ∈ blanks, isBlank c = true) (cs : List Char) :
    paint (blanks ++ cs) = blanks.map (·, .whitespace) ++ paint cs := by
  induction blanks with
  | nil => simp
  | cons c blanks ih =>
    rw [List.cons_append, paint_blank (h c List.mem_cons_self),
      ih fun d hd => h d (List.mem_cons_of_mem c hd)]
    rfl

theorem paint_newline (cs : List Char) : paint ('\n' :: cs) = ('\n', .whitespace) :: paint cs :=
  paint_blank (by decide) cs

/-- The kinds of characters inside a block comment that is already open. -/
def paintCarried (cs : List Char) : List (Char × Kind) :=
  match closing? cs with
  | none => cs.map (·, .comment)
  | some n => (cs.take n).map (·, .comment) ++ paint (cs.drop n)

theorem map_fst_paintCarried (cs : List Char) : (paintCarried cs).map (·.1) = cs := by
  rw [paintCarried]
  cases closing? cs with
  | none => simp [Function.comp_def]
  | some n =>
    simp only [List.map_append, map_fst_paint, List.map_map, Function.comp_def, List.map_id']
    exact List.take_append_drop n cs

theorem scan_blockComment (cs : List Char) :
    scan ('/' :: '*' :: cs) = (.comment, 2 + (closing? cs).getD cs.length) := by
  have hb : isBlank '/' = false := by decide
  simp [scan, rules, Rule.whitespace, Rule.lineComment, Rule.blockComment, hb]

theorem paint_blockComment (cs : List Char) :
    paint ('/' :: '*' :: cs) = ('/', .comment) :: ('*', .comment) :: paintCarried cs := by
  rw [paint_eq (List.cons_ne_nil _ _), scan_blockComment, Nat.add_comm, List.take_succ_cons,
    List.take_succ_cons, List.drop_succ_cons, List.drop_succ_cons, paintCarried]
  cases closing? cs <;> simp

theorem closing?_newline {cs : List Char} (h : Unclosed cs) (rest : List Char) :
    closing? (cs ++ '\n' :: rest) = (closing? rest).map (· + (cs.length + 1)) := by
  induction cs with
  | nil => rw [List.nil_append, closing?_cons (by simp)]; rfl
  | cons c cs ih =>
    obtain ⟨hc, hu⟩ := unclosed_cons.1 h
    have hc' : ¬ (c = '*' ∧ (cs ++ '\n' :: rest).head? = some '/') := by
      cases cs with
      | nil => simp
      | cons d ds => simpa using hc
    rw [List.cons_append, closing?_cons hc', ih hu]
    cases closing? rest <;> simp
    omega

/-- A comment that a line does not end goes on over the line end. -/
theorem paintCarried_open {line : List Char} (h : Unclosed line) (rest : List Char) :
    paintCarried (line ++ '\n' :: rest) =
      line.map (·, .comment) ++ ('\n', .comment) :: paintCarried rest := by
  rw [paintCarried, paintCarried, closing?_newline h]
  cases hr : closing? rest with
  | none => simp
  | some n =>
    simp only [Option.map_some]
    rw [List.take_append, List.drop_append, List.take_of_length_le (by omega),
      List.drop_of_length_le (by omega)]
    have : n + (line.length + 1) - line.length = n + 1 := by omega
    simp [this]

/-- After the end of a comment the text is read as from its start. -/
theorem paintCarried_closed {line : List Char} {n : Nat} (h : closing? line = some n) (more : List Char) :
    paintCarried (line ++ more) = (line.take n).map (·, .comment) ++ paint (line.drop n ++ more) := by
  have hn := closing?_le h
  obtain ⟨body, rest, rfl, -, hu⟩ := exists_of_closing? h
  have hc : closing? ((body ++ '*' :: '/' :: rest) ++ more) = closing? (body ++ '*' :: '/' :: rest) := by
    rw [closing?_append hu, List.append_assoc]
    exact closing?_append hu _
  rw [paintCarried, hc, h]
  simp only
  rw [List.take_append_of_le_length hn, List.drop_append_of_le_length hn]

/-! ## Tokens at the end of a line -/

open Preview (isOpenComment leavesOpen)

/-- A token that is all there is of a line is an open comment when nothing after its opening ends it. -/
theorem isOpenComment_iff {line : List Char} (hw : (scan line).2 = line.length) :
    isOpenComment ⟨(scan line).1, String.ofList line⟩ = true ↔
      ∃ body, line = '/' :: '*' :: body ∧ Unclosed body := by
  simp only [isOpenComment, String.toList_ofList, Bool.and_eq_true, Bool.or_eq_true, Bool.not_eq_true',
    decide_eq_true_eq, List.isPrefixOf_iff_prefix, ← Bool.not_eq_true, List.isSuffixOf_iff_suffix]
  constructor
  · rintro ⟨⟨-, body, rfl⟩, hs⟩
    refine ⟨body, rfl, closing?_eq_none.1 ?_⟩
    cases hc : closing? body with
    | none => rfl
    | some n =>
      obtain ⟨before, rest, rfl, rfl, -⟩ := exists_of_closing? hc
      -- The comment is over at its first end, so nothing of the line comes after that.
      have hw' := scan_blockComment (before ++ '*' :: '/' :: rest)
      rw [hc] at hw'
      have hr : rest = [] := by
        rw [List.cons_append, List.cons_append, List.nil_append, hw'] at hw
        simp only [Option.getD_some, List.length_cons, List.length_append] at hw
        exact List.eq_nil_of_length_eq_zero (by omega)
      subst hr
      rcases hs with hs | hs
      · simp at hs
        omega
      · exact absurd ⟨'/' :: '*' :: before, by simp⟩ hs
  · rintro ⟨body, rfl, hu⟩
    refine ⟨⟨by rw [scan_blockComment], body, rfl⟩, ?_⟩
    by_cases hl : ('/' :: '*' :: body).length < 4
    · exact .inl hl
    · refine .inr fun hs => hu ?_
      have hb : ['*', '/'] <:+ body :=
        List.suffix_of_suffix_length_le hs ⟨['/', '*'], rfl⟩ (by simp at hl ⊢; omega)
      exact hb.isInfix

/-- What becomes of a token that is all there is of a line when the next line comes. -/
inductive NextLine (rule : Rule) (line rest : List Char) (kind : Kind) : Prop
  | ends (h : rule (line ++ '\n' :: rest) = some (kind, line.length))
  | blank (h : ∀ c ∈ line, isBlank c = true)
  | comment {body : List Char} (he : line = '/' :: '*' :: body) (hu : Unclosed body)
  | literal {n : Nat} (hk : kind = .string ∨ kind = .char) (hn : line.length < n)
      (h : rule (line ++ '\n' :: rest) = some (kind, n))

theorem stops_newline {p : Char → Bool} (h : p '\n' = false) (rest : List Char) :
    Stops p ('\n' :: rest) := by
  rintro c ⟨⟩
  exact h

theorem literal_nextLine {kind : Kind} {quote : Char} (hk : kind = .string ∨ kind = .char)
    (hq : quote ≠ '\\') (hn : '\n' ≠ quote) {line : List Char} {kind' : Kind}
    (h : Form.Literal kind quote kind' line []) (rest : List Char) :
    NextLine (Rule.literal kind quote) line rest kind' := by
  cases h with
  | closed hi => exact .ends ((literal_recognises kind hq).complete (.closed hi))
  | unclosed hi =>
    refine .literal hk ?_ (by rw [List.cons_append, Rule.literal, if_pos rfl])
    rw [quotedTail_append hi, quotedTail_cons (by decide), if_neg hn, List.length_cons]
    omega
  | escaping hi =>
    refine .literal hk ?_ (by rw [List.cons_append, List.cons_append, Rule.literal, if_pos rfl])
    rw [List.append_assoc, quotedTail_append hi]
    simp [quotedTail]
    omega

theorem nextLine {rule : Rule} (hr : rule ∈ rules) {line : List Char} {kind : Kind}
    (h : rule line = some (kind, line.length)) (rest : List Char) :
    NextLine rule line rest kind := by
  have hw : isWordPart '\n' = false := by decide
  have hnum : isNumberPart '\n' = false := by decide
  have sound : ∀ {form : Form}, Recognises rule form → form kind line [] := fun hf => by
    simpa using hf.sound h
  simp only [rules, List.mem_cons, List.not_mem_nil, or_false] at hr
  rcases hr with rfl | rfl | rfl | rfl | rfl | rfl | rfl | rfl
  · cases sound whitespace_recognises with
    | run _ hb _ => exact .blank hb
  · cases sound lineComment_recognises with
    | line hb _ => exact .ends (lineComment_recognises.complete (.line hb (by simp)))
  · cases sound blockComment_recognises with
    | closed hu => exact .ends (blockComment_recognises.complete (.closed hu))
    | unclosed hu => exact .comment rfl hu
  · exact literal_nextLine (.inl rfl) (by decide) (by decide) (sound (literal_recognises _ (by decide))) rest
  · exact literal_nextLine (.inr rfl) (by decide) (by decide) (sound (literal_recognises _ (by decide))) rest
  · cases sound annotated_recognises with
    | named hn ha _ => exact .ends (annotated_recognises.complete (.named hn ha (stops_newline hw rest)))
  · cases sound number_recognises with
    | digits hc hp _ => exact .ends (number_recognises.complete (.digits hc hp (stops_newline hnum rest)))
  · cases sound word_recognises with
    | letters hc hp _ hk => exact .ends (word_recognises.complete (.letters hc hp (stops_newline hw rest) hk))

/-! ## Lines -/

/-- No literal reaches over a line end. -/
def LiteralsEnd (chars : List (Char × Kind)) : Prop :=
  ∀ kind, ('\n', kind) ∈ chars → kind ≠ .string ∧ kind ≠ .char

theorem LiteralsEnd.append {before after : List (Char × Kind)} (h : LiteralsEnd (before ++ after)) :
    LiteralsEnd before ∧ LiteralsEnd after :=
  ⟨fun kind hk => h kind (List.mem_append_left _ hk), fun kind hk => h kind (List.mem_append_right _ hk)⟩

theorem leavesOpen_singleton (token : Token) : leavesOpen [token] = isOpenComment token := by
  simp [leavesOpen]

theorem leavesOpen_cons (token : Token) {tokens : List Token} (h : tokens ≠ []) :
    leavesOpen (token :: tokens) = leavesOpen tokens := by
  simp [leavesOpen, List.getLast?_cons_of_ne_nil h]

theorem ofChars_ne_nil {cs : List Char} (h : cs ≠ []) : ofChars cs ≠ [] := by
  rw [ofChars_eq h]
  exact List.cons_ne_nil _ _

/-- A token that is all there is of a line and no open comment ends with the line, unless it is a
literal that does not. -/
theorem paint_lastToken {line : List Char} (hc : line ≠ []) (hw : (scan line).2 = line.length)
    (ho : ¬ ∃ body, line = '/' :: '*' :: body ∧ Unclosed body) {rest : List Char}
    (hl : LiteralsEnd (paint (line ++ '\n' :: rest))) :
    paint (line ++ '\n' :: rest) = paint line ++ ('\n', .whitespace) :: paint rest := by
  have hne : line ++ '\n' :: rest ≠ [] := by simp
  have same : scan (line ++ '\n' :: rest) = scan line →
      paint (line ++ '\n' :: rest) = paint line ++ ('\n', .whitespace) :: paint rest := by
    intro hs
    rw [paint_eq hne, hs, hw, List.take_left, List.drop_left, paint_newline, paint_eq hc, hw,
      List.take_length, List.drop_length, paint_nil, List.append_nil]
  rcases scan_cases (.inr ⟨hc, rfl⟩ : GoesOn line ('\n' :: rest)) with ⟨h, h'⟩ | ⟨rule, hr, h, h'⟩
  · exact same (h'.trans h.symm)
  · have hs : rule line = some ((scan line).1, line.length) := by rw [h, ← hw]
    cases nextLine hr hs rest with
    | ends he => exact same (Option.some.inj (h'.symm.trans (by rw [he, ← hw])))
    | blank hb =>
      have hp := paint_blanks hb []
      rw [List.append_nil, paint_nil, List.append_nil] at hp
      rw [paint_blanks hb, paint_newline, hp]
    | comment he hu => exact absurd ⟨_, he, hu⟩ ho
    | @literal n hk hn he =>
      -- The literal would take in the line end.
      rw [paint_eq hne, Option.some.inj (h'.symm.trans he)] at hl
      have hm : '\n' ∈ (line ++ '\n' :: rest).take n := by
        rw [List.take_append]
        obtain ⟨m, hm⟩ : ∃ m, n - line.length = m + 1 := ⟨n - line.length - 1, by omega⟩
        simp [hm]
      obtain ⟨hs, hch⟩ := hl.append.1 (scan line).1 (List.mem_map.2 ⟨_, hm, rfl⟩)
      rcases hk with hk | hk
      · exact absurd hk hs
      · exact absurd hk hch

/-- What is carried from a line to the next one is whether the line leaves a block comment open. -/
theorem paint_line {line rest : List Char} (hl : LiteralsEnd (paint (line ++ '\n' :: rest))) :
    paint (line ++ '\n' :: rest) = paint line ++
      if leavesOpen (ofChars line) then ('\n', .comment) :: paintCarried rest
      else ('\n', .whitespace) :: paint rest := by
  induction line using ofChars.induct with
  | case1 => simp [paint_newline, leavesOpen]
  | case2 c cs first ih =>
    have hc : c :: cs ≠ [] := List.cons_ne_nil c cs
    have hbound : first.2 ≤ (c :: cs).length := (scan_bounds hc).2
    -- The first token ends inside the line, where more text does not change it, or with the line.
    rcases Nat.lt_or_eq_of_le hbound with hn | hn
    · have hne : (c :: cs) ++ '\n' :: rest ≠ [] := by simp
      have hd : (c :: cs).drop first.2 ≠ [] := by simpa using hn
      have hp : paint ((c :: cs) ++ '\n' :: rest) =
          ((c :: cs).take first.2).map (·, first.1) ++ paint ((c :: cs).drop first.2 ++ '\n' :: rest) := by
        rw [paint_eq hne, scan_append hn, List.take_append_of_le_length hbound,
          List.drop_append_of_le_length hbound]
      rw [hp] at hl ⊢
      rw [ih hl.append.2, paint_eq hc, ofChars_eq hc, leavesOpen_cons _ (ofChars_ne_nil hd),
        List.append_assoc]
    · have ht : ofChars (c :: cs) = [⟨first.1, String.ofList (c :: cs)⟩] := by
        have hw : (scan (c :: cs)).2 = (c :: cs).length := hn
        rw [ofChars_eq hc, hw, List.take_length, List.drop_length, ofChars_nil]
      have hi := isOpenComment_iff hn
      rw [ht, leavesOpen_singleton]
      by_cases ho : ∃ body, c :: cs = '/' :: '*' :: body ∧ Unclosed body
      · rw [if_pos (hi.2 ho)]
        obtain ⟨body, he, hu⟩ := ho
        have hp := paintCarried_open hu rest
        rw [he, List.cons_append, List.cons_append, paint_blockComment, paint_blockComment, hp]
        simp [paintCarried, closing?_eq_none.2 hu]
      · rw [if_neg (fun h => ho (hi.1 h))]
        exact paint_lastToken hc hn ho hl

/-- The same for a line that starts inside a block comment. -/
theorem paintCarried_line {line rest : List Char} (hl : LiteralsEnd (paintCarried (line ++ '\n' :: rest))) :
    paintCarried (line ++ '\n' :: rest) = paintCarried line ++
      match closing? line with
      | none => ('\n', .comment) :: paintCarried rest
      | some n =>
        if leavesOpen (ofChars (line.drop n)) then ('\n', .comment) :: paintCarried rest
        else ('\n', .whitespace) :: paint rest := by
  cases hc : closing? line with
  | none =>
    rw [paintCarried_open (closing?_eq_none.1 hc)]
    simp [paintCarried, hc]
  | some n =>
    rw [paintCarried_closed hc] at hl ⊢
    rw [paint_line hl.append.2]
    simp [paintCarried, hc]

end CodeMarkup.Token
