import CodeMarkup.Proofs.Token.Grammar
import Mathlib.Data.List.Forall2
/-!
# Rules recognise forms

Each rule answers exactly for the texts that start with a token of its form, and with the kind and the
length of that token (`Recognises`). The order of the rules is that of the forms, so the scanned token is
the first one the grammar allows, and `wellFormed_iff` follows by induction over the text.
-/

namespace CodeMarkup.Token

open CodeMarkup.Text

/-- A rule recognises a form: what it answers for is a token of the form, and it answers for every one. -/
structure Recognises (rule : Rule) (form : Form) : Prop where
  sound : ∀ {cs : List Char} {kind : Kind} {n : Nat},
    rule cs = some (kind, n) → form kind (cs.take n) (cs.drop n)
  complete : ∀ {kind : Kind} {text rest : List Char},
    form kind text rest → rule (text ++ rest) = some (kind, text.length)

/-! ## Runs -/

theorem take_runLength (p : Char → Bool) (cs : List Char) :
    cs.take (runLength p cs) = cs.takeWhile p :=
  (List.prefix_iff_eq_take.1 (List.takeWhile_prefix p)).symm

theorem drop_runLength (p : Char → Bool) (cs : List Char) :
    cs.drop (runLength p cs) = cs.dropWhile p := by
  have h := List.take_append_drop (runLength p cs) cs
  rw [take_runLength] at h
  exact List.append_cancel_left (h.trans List.takeWhile_append_dropWhile.symm)

theorem of_mem_takeWhile {p : Char → Bool} {cs : List Char} {c : Char} (h : c ∈ cs.takeWhile p) :
    p c = true :=
  List.all_eq_true.1 List.all_takeWhile c h

theorem stops_dropWhile (p : Char → Bool) (cs : List Char) : Stops p (cs.dropWhile p) := by
  intro c hc
  have := List.head?_dropWhile_not p cs
  rw [Option.mem_def.1 hc] at this
  simpa using this

/-- A run that is followed by nothing of the same sort is taken whole. -/
theorem runLength_append {p : Char → Bool} {text rest : List Char} (h : ∀ c ∈ text, p c = true)
    (hr : Stops p rest) : runLength p (text ++ rest) = text.length := by
  rw [runLength, List.takeWhile_append_of_pos h]
  have : rest.takeWhile p = [] := by
    cases rest with
    | nil => rfl
    | cons c cs => simp [hr c rfl]
  simp [this]

/-! ## Block comments and literals -/

theorem unclosed_cons {c : Char} {cs : List Char} :
    Unclosed (c :: cs) ↔ ¬ (c = '*' ∧ cs.head? = some '/') ∧ Unclosed cs := by
  have hp : ['*', '/'] <+: c :: cs ↔ c = '*' ∧ cs.head? = some '/' := by
    cases cs <;> simp [List.cons_prefix_cons, eq_comm]
  simp only [Unclosed, List.infix_cons_iff, hp, not_or]

theorem closing?_cons {c : Char} {cs : List Char} (h : ¬ (c = '*' ∧ cs.head? = some '/')) :
    closing? (c :: cs) = (closing? cs).map (· + 1) := by
  rw [closing?]
  rintro rest rfl rfl
  exact h ⟨rfl, rfl⟩

theorem closing?_eq_none {cs : List Char} : closing? cs = none ↔ Unclosed cs := by
  induction cs with
  | nil => simp [closing?, Unclosed]
  | cons c cs ih =>
    rw [unclosed_cons]
    by_cases h : c = '*' ∧ cs.head? = some '/'
    · obtain ⟨rfl, hs⟩ := h
      obtain ⟨rest, rfl⟩ := List.head?_eq_some_iff.1 hs
      simp [closing?]
    · rw [closing?_cons h, Option.map_eq_none_iff, ih]
      simp [h]

/-- The first end is found where it stands. -/
theorem closing?_append {body : List Char} (h : Unclosed (body ++ ['*'])) (rest : List Char) :
    closing? (body ++ '*' :: '/' :: rest) = some (body.length + 2) := by
  induction body with
  | nil => simp [closing?]
  | cons c cs ih =>
    obtain ⟨hc, hu⟩ := unclosed_cons.1 h
    have hc' : ¬ (c = '*' ∧ (cs ++ '*' :: '/' :: rest).head? = some '/') := by
      cases cs with
      | nil => simp
      | cons d ds => simpa using hc
    rw [List.cons_append, closing?_cons hc', ih hu]
    rfl

theorem exists_of_closing? {cs : List Char} {n : Nat} (h : closing? cs = some n) :
    ∃ body rest, cs = body ++ '*' :: '/' :: rest ∧ n = body.length + 2 ∧ Unclosed (body ++ ['*']) := by
  induction cs generalizing n with
  | nil => simp [closing?] at h
  | cons c cs ih =>
    by_cases hc : c = '*' ∧ cs.head? = some '/'
    · obtain ⟨rfl, hs⟩ := hc
      obtain ⟨rest, rfl⟩ := List.head?_eq_some_iff.1 hs
      simp only [closing?, Option.some.injEq] at h
      exact ⟨[], rest, rfl, h.symm, unclosed_cons.2 ⟨by simp, by simp [Unclosed]⟩⟩
    · rw [closing?_cons hc] at h
      obtain ⟨m, hm, rfl⟩ := Option.map_eq_some_iff.1 h
      obtain ⟨body, rest, rfl, rfl, hu⟩ := ih hm
      refine ⟨c :: body, rest, rfl, by simp, unclosed_cons.2 ⟨?_, hu⟩⟩
      cases body with
      | nil => simp
      | cons d ds => simpa using hc

theorem quotedTail_cons {quote c : Char} {cs : List Char} (h : c ≠ '\\') :
    quotedTail quote (c :: cs) = if c = quote then 1 else 1 + quotedTail quote cs := by
  rw [quotedTail]
  rintro d rest rfl
  exact absurd rfl h

/-- The inside of a literal is taken whole. -/
theorem quotedTail_append {quote : Char} {body : List Char} (h : Inside quote body) (rest : List Char) :
    quotedTail quote (body ++ rest) = body.length + quotedTail quote rest := by
  induction h with
  | nil => simp
  | escaped _ ih =>
    simp only [List.cons_append, quotedTail, ih, List.length_cons]
    omega
  | plain hc hq _ ih =>
    rw [List.cons_append, quotedTail_cons hc, if_neg hq, ih, List.length_cons]
    omega

/-- The three ways in which a literal ends. -/
inductive Ending (quote : Char) : List Char → Nat → Prop
  | closed {body rest : List Char} : Inside quote body →
      Ending quote (body ++ quote :: rest) (body.length + 1)
  | unclosed {body : List Char} : Inside quote body → Ending quote body body.length
  | escaping {body : List Char} : Inside quote body → Ending quote (body ++ ['\\']) (body.length + 1)

theorem ending_quotedTail (quote : Char) (cs : List Char) : Ending quote cs (quotedTail quote cs) := by
  fun_induction quotedTail quote cs with
  | case1 c rest ih =>
    generalize quotedTail quote rest = n at ih
    cases ih with
    | closed h => rw [← Nat.add_assoc, Nat.add_comm 2]; exact .closed (.escaped h)
    | unclosed h => rw [Nat.add_comm]; exact .unclosed (.escaped h)
    | escaping h => rw [← Nat.add_assoc, Nat.add_comm 2]; exact .escaping (.escaped h)
  | case2 rest hc => exact .closed .nil
  | case3 c rest hesc hc ih =>
    by_cases hb : c = '\\'
    · subst hb
      cases rest with
      | nil => exact .escaping .nil
      | cons d rest => exact absurd rfl (hesc d rest rfl)
    · generalize quotedTail quote rest = n at ih
      cases ih with
      | closed h => rw [← Nat.add_assoc, Nat.add_comm 1]; exact .closed (.plain hb hc h)
      | unclosed h => rw [Nat.add_comm]; exact .unclosed (.plain hb hc h)
      | escaping h => rw [← Nat.add_assoc, Nat.add_comm 1]; exact .escaping (.plain hb hc h)
  | case4 => exact .unclosed .nil

/-! ## The rules -/

theorem whitespace_recognises : Recognises Rule.whitespace Form.Whitespace where
  sound {cs kind n} h := by
    cases cs with
    | nil => simp [Rule.whitespace] at h
    | cons c cs =>
      by_cases hc : isBlank c
      · simp only [Rule.whitespace, hc, if_true, Option.some.injEq, Prod.mk.injEq] at h
        obtain ⟨rfl, rfl⟩ := h
        rw [take_runLength, drop_runLength]
        exact .run (by simp [hc]) (fun _ => of_mem_takeWhile) (stops_dropWhile _ _)
      · simp [Rule.whitespace, hc] at h
  complete {_ text rest} h := by
    cases h with
    | run ht hb hr =>
      cases text with
      | nil => contradiction
      | cons c cs =>
        have hl := runLength_append hb hr
        rw [List.cons_append] at hl
        simp [Rule.whitespace, hb c List.mem_cons_self, hl]

theorem lineComment_recognises : Recognises Rule.lineComment Form.LineComment where
  sound {cs kind n} h := by
    simp only [Rule.lineComment] at h
    split at h
    · next cs =>
      simp only [Option.some.injEq, Prod.mk.injEq] at h
      obtain ⟨rfl, rfl⟩ := h
      rw [Nat.add_comm, List.take_succ_cons, List.take_succ_cons, List.drop_succ_cons,
        List.drop_succ_cons, take_runLength, drop_runLength]
      refine .line (fun hn => by simpa using of_mem_takeWhile hn) fun c hc => ?_
      simpa using stops_dropWhile _ cs c hc
    · cases h
  complete {_ text rest} h := by
    cases h with
    | @line body _ hb hr =>
      have hl : runLength (· ≠ '\n') (body ++ rest) = body.length :=
        runLength_append (fun c hc => by simpa using fun he : c = '\n' => hb (he ▸ hc))
          (fun c hc => by simpa using hr c hc)
      simp only [Rule.lineComment, List.cons_append, hl, List.length_cons]
      rw [Nat.add_comm]

theorem blockComment_recognises : Recognises Rule.blockComment Form.BlockComment where
  sound {cs kind n} h := by
    simp only [Rule.blockComment] at h
    split at h
    · next cs =>
      simp only [Option.some.injEq, Prod.mk.injEq] at h
      obtain ⟨rfl, rfl⟩ := h
      rw [Nat.add_comm, List.take_succ_cons, List.take_succ_cons, List.drop_succ_cons,
        List.drop_succ_cons]
      cases hc : closing? cs with
      | none =>
        simp only [Option.getD_none, List.take_length, List.drop_length]
        exact .unclosed (closing?_eq_none.1 hc)
      | some m =>
        obtain ⟨body, rest, rfl, rfl, hu⟩ := exists_of_closing? hc
        have hs : body ++ '*' :: '/' :: rest = (body ++ ['*', '/']) ++ rest := by simp
        rw [Option.getD_some, hs, List.take_left' (by simp), List.drop_left' (by simp)]
        exact .closed hu
    · cases h
  complete {_ text rest} h := by
    cases h with
    | closed hu =>
      simp [Rule.blockComment, closing?_append hu]
      omega
    | unclosed hu =>
      simp only [Rule.blockComment, List.append_nil, closing?_eq_none.2 hu, Option.getD_none,
        List.length_cons]
      rw [Nat.add_comm]

theorem literal_recognises (kind : Kind) {quote : Char} (hq : quote ≠ '\\') :
    Recognises (Rule.literal kind quote) (Form.Literal kind quote) where
  sound {cs kind' n} h := by
    cases cs with
    | nil => simp [Rule.literal] at h
    | cons c cs =>
      simp only [Rule.literal, Option.ite_none_right_eq_some, Option.some.injEq, Prod.mk.injEq] at h
      obtain ⟨rfl, rfl, rfl⟩ := h
      rw [Nat.add_comm, List.take_succ_cons, List.drop_succ_cons]
      have he := ending_quotedTail c cs
      generalize quotedTail c cs = n at he
      cases he with
      | @closed body rest hi =>
        have hs : body ++ c :: rest = (body ++ [c]) ++ rest := by simp
        rw [hs, List.take_left' (by simp), List.drop_left' (by simp)]
        exact .closed hi
      | unclosed hi => rw [List.take_length, List.drop_length]; exact .unclosed hi
      | escaping hi =>
        rw [List.take_of_length_le (by simp), List.drop_of_length_le (by simp)]
        exact .escaping hi
  complete {_ text rest} h := by
    cases h with
    | closed hi => simp [Rule.literal, quotedTail_append hi, quotedTail_cons hq]; omega
    | unclosed hi =>
      have := quotedTail_append hi []
      simp_all [Rule.literal, quotedTail]
      omega
    | escaping hi => simp [Rule.literal, quotedTail_append hi, quotedTail, Ne.symm hq]; omega

theorem annotated_recognises : Recognises Rule.annotated Form.Annotated where
  sound {cs kind n} h := by
    simp only [Rule.annotated] at h
    split at h
    · next cs =>
      simp only [Option.ite_none_left_eq_some, Option.some.injEq, Prod.mk.injEq] at h
      obtain ⟨hn, rfl, rfl⟩ := h
      rw [Nat.add_comm, List.take_succ_cons, List.drop_succ_cons, take_runLength, drop_runLength]
      exact .named (fun he => hn (by simp [runLength, he])) (fun _ => of_mem_takeWhile)
        (stops_dropWhile _ _)
    · cases h
  complete {_ text rest} h := by
    cases h with
    | named hn hw hr =>
      have hl := runLength_append hw hr
      simp [Rule.annotated, hl, hn]
      omega

theorem number_recognises : Recognises Rule.number Form.Number where
  sound {cs kind n} h := by
    cases cs with
    | nil => simp [Rule.number] at h
    | cons c cs =>
      simp only [Rule.number, Option.ite_none_right_eq_some, Option.some.injEq, Prod.mk.injEq] at h
      obtain ⟨hc, rfl, rfl⟩ := h
      rw [Nat.add_comm, List.take_succ_cons, List.drop_succ_cons, take_runLength, drop_runLength]
      exact .digits hc (fun _ => of_mem_takeWhile) (stops_dropWhile _ _)
  complete {_ text rest} h := by
    cases h with
    | digits hc hp hr =>
      have hl := runLength_append hp hr
      simp [Rule.number, hl, hc]
      omega

theorem wordKind_iff {word : List Char} {kind : Kind} :
    WordKind (String.ofList word) kind ↔ wordKind word = kind := by
  rw [wordKind]
  constructor
  · intro h
    cases h <;> simp_all
  · rintro rfl
    split
    · next hk => exact .keyword (by simpa using hk)
    · next hk =>
      split
      · next ht => exact .type (by simpa using hk) (by simpa using ht)
      · next ht => exact .identifier (by simpa using hk) (by simpa using ht)

theorem word_recognises : Recognises Rule.word Form.Word where
  sound {cs kind n} h := by
    cases cs with
    | nil => simp [Rule.word] at h
    | cons c cs =>
      simp only [Rule.word, Option.ite_none_right_eq_some, Option.some.injEq, Prod.mk.injEq] at h
      obtain ⟨hc, hk, rfl⟩ := h
      rw [Nat.add_comm, List.take_succ_cons, List.drop_succ_cons, take_runLength, drop_runLength]
      exact .letters hc (fun _ => of_mem_takeWhile) (stops_dropWhile _ _) (wordKind_iff.2 hk)
  complete {_ text rest} h := by
    cases h with
    | @letters _ c tail _ hc hw hr hk =>
      have hl := runLength_append hw hr
      have ht : (tail ++ rest).takeWhile isWordPart = tail := by
        rw [← take_runLength, hl, List.take_left]
      simp [Rule.word, hl, hc, ht, wordKind_iff.1 hk]
      omega

/-- The rules, in their order, recognise the forms, in theirs. -/
theorem rules_recognise :
    List.Forall₂ Recognises rules
      [Form.Whitespace, Form.LineComment, Form.BlockComment, Form.Literal .string '\"',
       Form.Literal .char '\'', Form.Annotated, Form.Number, Form.Word] :=
  .cons whitespace_recognises <| .cons lineComment_recognises <| .cons blockComment_recognises <|
    .cons (literal_recognises .string (by decide)) <| .cons (literal_recognises .char (by decide)) <|
      .cons annotated_recognises <| .cons number_recognises <| .cons word_recognises .nil

/-! ## The order of the rules -/

/-- The first rule that applies finds the token of the first form that fits. -/
theorem FirstOf.findSome? {rs : List Rule} {fs : List Form} (h : List.Forall₂ Recognises rs fs)
    {kind : Kind} {text rest : List Char} (hf : FirstOf (fs ++ [Form.Punctuation]) kind text rest) :
    (rs.findSome? (· (text ++ rest))).getD (.punctuation, 1) = (kind, text.length) := by
  induction h with
  | nil =>
    cases hf with
    | here hp => cases hp; rfl
    | later _ hl => cases hl
  | cons hr _ ih =>
    cases hf with
    | here hp => rw [List.findSome?_cons, hr.complete hp]; rfl
    | later hn hl =>
      rw [List.findSome?_cons]
      split
      · next answer ha =>
        exact absurd (hr.sound ha) (hn _ _ _ (List.take_append_drop _ _))
      · exact ih hl

/-- What the first rule that applies answers is a token of the first form that fits. -/
theorem firstOf_findSome? {rs : List Rule} {fs : List Form} (h : List.Forall₂ Recognises rs fs)
    {cs : List Char} (hc : cs ≠ []) :
    let first := (rs.findSome? (· cs)).getD (.punctuation, 1)
    FirstOf (fs ++ [Form.Punctuation]) first.1 (cs.take first.2) (cs.drop first.2) := by
  induction h with
  | nil =>
    cases cs with
    | nil => contradiction
    | cons c cs => exact .here .single
  | @cons rule form _ _ hr _ ih =>
    rw [List.findSome?_cons]
    cases ha : rule cs with
    | some answer => exact .here (hr.sound ha)
    | none =>
      refine .later (fun kind text rest ht hf => ?_) ih
      rw [List.take_append_drop] at ht
      rw [← ht, hr.complete hf] at ha
      cases ha

theorem scan_complete {kind : Kind} {text rest : List Char} (h : FirstOf forms kind text rest) :
    scan (text ++ rest) = (kind, text.length) :=
  FirstOf.findSome? rules_recognise h

theorem scan_sound {cs : List Char} (h : cs ≠ []) :
    FirstOf forms (scan cs).1 (cs.take (scan cs).2) (cs.drop (scan cs).2) :=
  firstOf_findSome? rules_recognise h

/-! ## The tokens -/

theorem wellFormed_ofChars (cs : List Char) : WellFormed (ofChars cs) cs := by
  fun_induction ofChars cs with
  | case1 => exact .nil
  | case2 c cs first ih =>
    have hf : FirstOf forms first.1 (String.ofList ((c :: cs).take first.2)).toList
        ((c :: cs).drop first.2) := by
      rw [String.toList_ofList]
      exact scan_sound (List.cons_ne_nil c cs)
    have hw : WellFormed (⟨first.1, String.ofList ((c :: cs).take first.2)⟩ :: ofChars _)
        ((String.ofList ((c :: cs).take first.2)).toList ++ (c :: cs).drop first.2) := .cons hf ih
    rwa [String.toList_ofList, List.take_append_drop] at hw

theorem WellFormed.eq_ofChars {tokens : List Token} {cs : List Char} (h : WellFormed tokens cs) :
    tokens = ofChars cs := by
  induction h with
  | nil => simp
  | @cons token tokens rest hf _ ih =>
    have hs := scan_complete hf
    have hn : token.text.toList ++ rest ≠ [] := by
      intro he
      obtain ⟨ht, hr⟩ := List.append_eq_nil_iff.1 he
      rw [ht, hr] at hs
      exact Nat.one_ne_zero (congrArg Prod.snd hs)
    rw [ofChars_eq hn, hs, List.take_left, List.drop_left, ← ih, String.ofList_toList]

/-- The tokens of a source are the one list of tokens that makes it up and follows the grammar. -/
theorem wellFormed_iff (source : String) (tokens : List Token) :
    WellFormed tokens source.toList ↔ tokens = classify source := by
  constructor
  · intro h
    exact h.eq_ofChars
  · rintro rfl
    exact wellFormed_ofChars source.toList

end CodeMarkup.Token
