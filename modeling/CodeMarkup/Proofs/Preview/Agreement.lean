import CodeMarkup.Proofs.Preview.Formats
import CodeMarkup.Proofs.Token.Paint
/-!
# The preview shows the tokens of the text

In a document that is highlighted line by line, the ranges of a line give each of its places, counted in characters,
the format that belongs to the token there in the text as a whole. One fact about a line carries it: a line and its
state are those of the text read from there on, be it outside or inside a block comment (`paintFrom_line`).
`highlightAll_state` takes that from line to line.

An editor may count its places in other units, of which a character can take several. `preview_agrees` says when what
it shows agrees with the tokens: when no character is moved into the range of another format, as is the case if every
character takes one unit. `preview_disagrees` is a line on which it does not, in an editor that counts as UTF-16 does.
-/

namespace CodeMarkup.Preview

open CodeMarkup.Text CodeMarkup.Style CodeMarkup.Token

/-! ## What is compared -/

/-- Whether a range holds a place of its line. -/
def Span.covers (span : Span) (i : Nat) : Bool := span.start ≤ i && i < span.start + span.length

/-- The format that ranges give to a place. Of several ranges that hold it the last one counts. -/
def formatAt? (spans : List Span) (i : Nat) : Option Format :=
  ((spans.filter (·.covers i)).getLast?).map (·.format)

/-- The token that holds the character at a place. -/
def holding? : List Token → Nat → Option Token
  | [], _ => none
  | token :: rest, i => if i < token.text.length then some token else holding? rest (i - token.text.length)

/-- The place in the text at which a line starts. Between two lines stands a line end. -/
def lineStart : List String → Nat → Nat
  | line :: rest, n + 1 => line.length + 1 + lineStart rest n
  | _, _ => 0

/-- How many units characters take. -/
def unitsIn (width : Char → Nat) : List Char → Nat
  | [] => 0
  | c :: rest => width c + unitsIn width rest

/-- How many units the characters of a line take that come before a place. -/
def unitsBefore (width : Char → Nat) (line : String) (j : Nat) : Nat := unitsIn width (line.toList.take j)

/-- How a line and what highlighting leaves on it show the tokens of the text in an editor in which a character takes
up this many units, and ranges are ranges of units. -/
structure LineAgrees (width : Char → Nat) (preview : Preview) (text : String) (n : Nat) (line : String)
    (block : Block) : Prop where
  /-- Every unit of a character has the format of the kind of the token that holds it, if the kind has one. -/
  formats : ∀ j c, line.toList[j]? = some c →
    ∃ token, holding? (classify text) (lineStart (lines text) n + j) = some token ∧
      text.toList[lineStart (lines text) n + j]? = some c ∧
      (∀ u < width c, formatAt? block.spans (unitsBefore width line j + u) = preview.format? token.kind) ∧
      (preview.format? token.kind).isSome = token.kind.isStyled
  /-- The state tells whether the line end after the line, if there is one, is in a comment. -/
  state : n + 1 < (lines text).length →
    ∃ token, holding? (classify text) (lineStart (lines text) n + line.length) = some token ∧
      text.toList[lineStart (lines text) n + line.length]? = some '\n' ∧
      block.state = if token.kind = .comment then 1 else 0

/-- How a preview shows the tokens of a text. -/
def Agrees (width : Char → Nat) (preview : Preview) (text : String) : Prop :=
  (preview.setText text).blocks.length = (lines text).length ∧
    ∀ n line block, (lines text)[n]? = some line → (preview.setText text).blocks[n]? = some block →
      LineAgrees width preview text n line block

/-- The format of the token that holds a place of a line, counted in characters. -/
def formatOn? (preview : Preview) (text : String) (n : Nat) (line : String) (i : Nat) : Option Format :=
  if i < line.length then
    (holding? (classify text) (lineStart (lines text) n + i)).bind fun token => preview.format? token.kind
  else none

/-- Units taken for characters, every unit of a character is still at a place with the format of that character. -/
def Aligned (width : Char → Nat) (preview : Preview) (text : String) : Prop :=
  ∀ n line, (lines text)[n]? = some line → ∀ j c, line.toList[j]? = some c → ∀ u < width c,
    preview.formatOn? text n line (unitsBefore width line j + u) = preview.formatOn? text n line j

/-! ## Tokens and places -/

theorem painted_holding {tokens : List Token} {i : Nat} {c : Char} {kind : Kind}
    (h : (painted tokens)[i]? = some (c, kind)) :
    ∃ token, holding? tokens i = some token ∧ token.kind = kind := by
  induction tokens generalizing i with
  | nil => simp at h
  | cons token rest ih =>
    rw [holding?]
    split
    · next hi =>
      obtain ⟨d, hd⟩ := painted_left hi rest
      rw [hd] at h
      cases h
      exact ⟨token, rfl, rfl⟩
    · next hi =>
      rw [painted_right (Nat.le_of_not_lt hi)] at h
      exact ih h

/-! ## Ranges -/

theorem formatAt?_append (before after : List Span) (i : Nat) :
    formatAt? (before ++ after) i = (formatAt? after i).or (formatAt? before i) := by
  simp only [formatAt?, List.filter_append, List.getLast?_append]
  cases (after.filter (·.covers i)).getLast? <;> rfl

/-- The range of a kind, if the kind has a format. -/
def rangeOf (preview : Preview) (start length : Nat) (kind : Kind) : List Span :=
  (preview.format? kind).toList.map fun format => ⟨start, length, format⟩

theorem formatAt?_rangeOf (preview : Preview) (start length : Nat) (kind : Kind) (i : Nat) :
    formatAt? (preview.rangeOf start length kind) i =
      if start ≤ i ∧ i < start + length then preview.format? kind else none := by
  rw [rangeOf]
  cases preview.format? kind with
  | none => simp [formatAt?]
  | some format => by_cases h : start ≤ i ∧ i < start + length <;> simp [formatAt?, Span.covers, h]

theorem spansFrom_cons (preview : Preview) (offset : Nat) (token : Token) (tokens : List Token) :
    preview.spansFrom offset (token :: tokens) =
      preview.rangeOf offset token.text.length token.kind ++
        preview.spansFrom (offset + token.text.length) tokens := by
  rw [spansFrom, rangeOf]
  cases preview.format? token.kind <;> rfl

theorem formatAt?_before (preview : Preview) {offset i : Nat} (h : i < offset) (tokens : List Token) :
    formatAt? (preview.spansFrom offset tokens) i = none := by
  induction tokens generalizing offset with
  | nil => rfl
  | cons token tokens ih =>
    rw [spansFrom_cons, formatAt?_append, ih (by omega), Option.none_or, formatAt?_rangeOf,
      if_neg (by omega)]

/-- Ranges of tokens give each character the format of its kind. -/
theorem formatAt?_spansFrom (preview : Preview) (offset : Nat) (tokens : List Token) (i : Nat) :
    formatAt? (preview.spansFrom offset tokens) (offset + i) =
      (painted tokens)[i]?.bind (preview.format? ·.2) := by
  induction tokens generalizing offset i with
  | nil => rfl
  | cons token tokens ih =>
    rw [spansFrom_cons, formatAt?_append, formatAt?_rangeOf]
    rcases Nat.lt_or_ge i token.text.length with hi | hi
    · obtain ⟨c, hc⟩ := painted_left hi tokens
      rw [formatAt?_before preview (by omega), Option.none_or, hc, if_pos (by omega), Option.bind_some]
    · have hk : offset + i = offset + token.text.length + (i - token.text.length) := by omega
      rw [if_neg (by omega), Option.or_none, painted_right hi, hk, ih]

/-! ## Lines -/

/-- Lines with line ends between them. -/
def joinLines : List String → List Char
  | [] => []
  | [line] => line.toList
  | line :: rest => line.toList ++ '\n' :: joinLines rest

theorem joinLines_cons (line : String) {rest : List String} (h : rest ≠ []) :
    joinLines (line :: rest) = line.toList ++ '\n' :: joinLines rest := by
  cases rest with
  | nil => contradiction
  | cons => rfl

theorem joinLines_lines (text : String) : joinLines (lines text) = text.toList := by
  have h : ∀ cs : List Char, joinLines ((splitOn '\n' cs).map String.ofList) = cs := by
    intro cs
    induction cs with
    | nil => rfl
    | cons c cs ih =>
      by_cases hc : c = '\n'
      · rw [splitOn, if_pos hc, List.map_cons, joinLines_cons _ (by simp [splitOn_ne_nil]), ih, hc]
        rfl
      · obtain ⟨part, parts, hp⟩ := List.exists_cons_of_ne_nil (splitOn_ne_nil '\n' cs)
        rw [hp] at ih
        rw [splitOn, if_neg hc, hp]
        cases parts with
        | nil =>
          simp only [List.map_cons, List.map_nil, joinLines, String.toList_ofList] at ih ⊢
          rw [ih]
        | cons next parts =>
          simp only [List.map_cons, joinLines, String.toList_ofList] at ih ⊢
          rw [List.cons_append, ih]
  exact h text.toList

/-- The kinds of the characters of a text that is read in some state. -/
def paintFrom (state : Int) (cs : List Char) : List (Char × Kind) :=
  if state = insideComment then paintCarried cs else paint cs

theorem map_fst_paintFrom (state : Int) (cs : List Char) : (paintFrom state cs).map (·.1) = cs := by
  rw [paintFrom]
  split
  · exact map_fst_paintCarried cs
  · exact map_fst_paint cs

theorem length_paintFrom (state : Int) (line : String) :
    (paintFrom state line.toList).length = line.length := by
  rw [← List.length_map (·.1), map_fst_paintFrom, String.length_toList]

/-- The kind that the line end has after a line that leaves this state. -/
def lineEndKind (state : Int) : Kind := if state = insideComment then .comment else .whitespace

theorem highlightFrom_state (preview : Preview) (start : Nat) (before : List Span) (line : List Char) :
    (preview.highlightFrom start before line).state =
      if leavesOpen (ofChars (line.drop start)) then insideComment else outside := rfl

/-- A line is highlighted as the text read in its state, and its own state is the one in which to read
what follows. -/
theorem paintFrom_line (preview : Preview) {state : Int} {line : String} {rest : List Char}
    (hl : LiteralsEnd (paintFrom state (line.toList ++ '\n' :: rest))) :
    paintFrom state (line.toList ++ '\n' :: rest) = paintFrom state line.toList ++
      ('\n', lineEndKind (preview.highlight state line).state) ::
        paintFrom (preview.highlight state line).state rest := by
  have hne : outside ≠ insideComment := by decide
  by_cases hs : state = insideComment
  · simp only [paintFrom, hs, if_true] at hl ⊢
    rw [paintCarried_line hl, highlight, if_pos rfl]
    cases hc : closing? line.toList with
    | none => simp [lineEndKind]
    | some n =>
      simp only [highlightFrom_state]
      split <;> simp [lineEndKind, hne]
  · simp only [paintFrom, hs, if_false] at hl ⊢
    rw [paint_line hl, highlight, if_neg hs, highlightFrom_state, List.drop_zero]
    split <;> simp [lineEndKind, hne]

theorem commentSpan_eq (preview : Preview) (length : Nat) :
    preview.commentSpan length = preview.rangeOf 0 length .comment := rfl

theorem format?_comments (preview : Preview) (cs : List Char) (i : Nat) :
    (cs.map (·, Kind.comment))[i]?.bind (preview.format? ·.2) =
      if i < cs.length then preview.format? .comment else none := by
  rw [List.getElem?_map]
  split
  · next h => rw [List.getElem?_eq_getElem h]; rfl
  · next h => rw [List.getElem?_eq_none (Nat.le_of_not_lt h)]; rfl

/-- On a line every character gets the format of its kind. -/
theorem formatAt?_highlight (preview : Preview) (state : Int) (line : String) (i : Nat) :
    formatAt? (preview.highlight state line).spans i =
      (paintFrom state line.toList)[i]?.bind (preview.format? ·.2) := by
  rw [highlight, paintFrom]
  split
  · rw [paintCarried]
    cases hc : closing? line.toList with
    | none =>
      simp only [commentSpan_eq, formatAt?_rangeOf, format?_comments, String.length_toList]
      simp
    | some n =>
      have htake : (line.toList.take n).length = n := List.length_take_of_le (closing?_le hc)
      have hn : ((line.toList.take n).map (·, Kind.comment)).length = n := by
        rw [List.length_map, htake]
      simp only [highlightFrom, formatAt?_append, commentSpan_eq, formatAt?_rangeOf]
      rcases Nat.lt_or_ge i n with hi | hi
      · rw [formatAt?_before preview hi, Option.none_or, if_pos (by omega),
          List.getElem?_append_left (by omega), format?_comments, htake, if_pos hi]
      · obtain ⟨k, rfl⟩ := Nat.exists_eq_add_of_le hi
        rw [if_neg (by omega), Option.or_none, formatAt?_spansFrom, List.getElem?_append_right (by omega),
          hn, Nat.add_sub_cancel_left, paint]
  · have h := formatAt?_spansFrom preview 0 (ofChars line.toList) i
    rw [Nat.zero_add] at h
    rw [highlightFrom, List.drop_zero, List.nil_append, h, paint]

/-! ## Documents -/

theorem length_highlightAll (preview : Preview) (previous : Int) (lines : List String) :
    (preview.highlightAll previous lines).length = lines.length := by
  induction lines generalizing previous with
  | nil => rfl
  | cons line rest ih => rw [highlightAll, List.length_cons, List.length_cons, ih]

/-- Where a document is highlighted line by line, what is left of it from a line on is read in the state
in which the line is. -/
theorem highlightAll_state (preview : Preview) {lines : List String} {previous : Int} {n : Nat}
    {line : String} {block : Block} (hl : LiteralsEnd (paintFrom previous (joinLines lines)))
    (hline : lines[n]? = some line) (hblock : (preview.highlightAll previous lines)[n]? = some block) :
    ∃ state before, block = preview.highlight state line ∧ before.length = lineStart lines n ∧
      paintFrom previous (joinLines lines) = before ++ paintFrom state (joinLines (lines.drop n)) := by
  induction lines generalizing previous n with
  | nil => simp at hline
  | cons first rest ih =>
    cases n with
    | zero =>
      cases hline
      cases hblock
      exact ⟨previous, [], rfl, rfl, rfl⟩
    | succ n =>
      have hr : rest ≠ [] := by rintro rfl; simp at hline
      rw [joinLines_cons first hr] at hl ⊢
      have hp := paintFrom_line preview hl
      rw [hp] at hl ⊢
      have hrest : LiteralsEnd (paintFrom (preview.highlight previous first).state (joinLines rest)) :=
        fun kind hk => hl kind (List.mem_append_right _ (List.mem_cons_of_mem _ hk))
      -- The first line and its line end come before all that the other lines are about.
      obtain ⟨state, before, hb, hlen, hs⟩ := ih hrest (by simpa using hline)
        (by simpa [highlightAll] using hblock)
      refine ⟨state, paintFrom previous first.toList ++ ('\n',
        lineEndKind (preview.highlight previous first).state) :: before, hb, ?_, ?_⟩
      · rw [lineStart, List.length_append, List.length_cons, length_paintFrom, hlen]
        omega
      · rw [hs, List.drop_succ_cons, List.append_assoc, List.cons_append]

theorem state_highlight (preview : Preview) (state : Int) (line : String) :
    (preview.highlight state line).state = insideComment ∨
      (preview.highlight state line).state = outside := by
  have hfrom : ∀ start before cs, (preview.highlightFrom start before cs).state = insideComment ∨
      (preview.highlightFrom start before cs).state = outside := by
    intro start before cs
    rw [highlightFrom_state]
    split
    · exact .inl rfl
    · exact .inr rfl
  rw [highlight]
  split
  · split
    · exact .inl rfl
    · exact hfrom ..
  · exact hfrom ..

theorem literalsEnd_paint {cs : List Char}
    (h : ∀ token ∈ ofChars cs, token.kind = .string ∨ token.kind = .char → '\n' ∉ token.text.toList) :
    LiteralsEnd (paint cs) := by
  intro kind hk
  obtain ⟨token, ht, hm⟩ := List.mem_flatMap.1 hk
  obtain ⟨c, hc, he⟩ := List.mem_map.1 hm
  cases he
  exact ⟨fun hs => h token ht (.inl hs) hc, fun hs => h token ht (.inr hs) hc⟩

/-- What the kinds of a text say about one place. -/
theorem exists_holding {text : String} {i : Nat} {c : Char} {kind : Kind}
    (h : (paint text.toList)[i]? = some (c, kind)) :
    ∃ token, holding? (classify text) i = some token ∧ token.kind = kind ∧ text.toList[i]? = some c := by
  obtain ⟨token, ht, hk⟩ := painted_holding h
  refine ⟨token, ht, hk, ?_⟩
  have hc : ((paint text.toList).map (·.1))[i]? = some c := by rw [List.getElem?_map, h]; rfl
  rwa [map_fst_paint] at hc

/-- What the kinds of a text are on a line and at its end. -/
theorem paint_line_of_blocks (preview : Preview) {text : String} (hl : LiteralsEnd (paint text.toList))
    {n : Nat} {line : String} {block : Block} (hline : (lines text)[n]? = some line)
    (hblock : (preview.highlightAll noState (lines text))[n]? = some block) :
    ∃ state, block = preview.highlight state line ∧
      (∀ j p, (paintFrom state line.toList)[j]? = some p →
        (paint text.toList)[lineStart (lines text) n + j]? = some p) ∧
      (n + 1 < (lines text).length →
        (paint text.toList)[lineStart (lines text) n + line.length]? =
          some ('\n', lineEndKind block.state)) := by
  have hstart : paintFrom noState (joinLines (lines text)) = paint text.toList := by
    rw [joinLines_lines]; rfl
  obtain ⟨state, before, rfl, hlen, hs⟩ := highlightAll_state preview (hstart ▸ hl) hline hblock
  obtain ⟨hn, rfl⟩ := List.getElem?_eq_some_iff.1 hline
  rw [hstart, List.drop_eq_getElem_cons hn] at hs
  rw [hs] at hl ⊢
  rw [← hlen]
  refine ⟨state, rfl, fun j p hj => ?_, fun hnext => ?_⟩
  -- The characters of the last line are the end of the text; every other line has a line end after it.
  · rw [List.getElem?_append_right (by omega), Nat.add_sub_cancel_left]
    by_cases hr : (lines text).drop (n + 1) = []
    · rw [hr]
      exact hj
    · rw [joinLines_cons _ hr] at hl ⊢
      rw [paintFrom_line preview hl.append.2,
        List.getElem?_append_left (List.getElem?_eq_some_iff.1 hj).1, hj]
  · have hr : (lines text).drop (n + 1) ≠ [] := by simp; omega
    rw [joinLines_cons _ hr] at hl ⊢
    rw [paintFrom_line preview hl.append.2, List.getElem?_append_right (by omega), Nat.add_sub_cancel_left,
      List.getElem?_append_right (Nat.le_of_eq (length_paintFrom ..)), length_paintFrom, Nat.sub_self,
      List.getElem?_cons_zero]

section Agreement

variable {width : Char → Nat} {isColor : CodePoints → Bool} {palette : Palette} {theme : Option Theme}
  {preview : Preview} {text : String}

/-- The ranges of a line give its places, counted in characters, the formats of the tokens there. -/
theorem formatAt?_block (hl : LiteralsEnd (paint text.toList)) {n : Nat} {line : String} {block : Block}
    (hline : (lines text)[n]? = some line) (hblock : (preview.setText text).blocks[n]? = some block) (i : Nat) :
    formatAt? block.spans i = preview.formatOn? text n line i := by
  obtain ⟨state, rfl, hchars, -⟩ := paint_line_of_blocks (preview.setText text) hl hline hblock
  rw [formatAt?_highlight, formatOn?]
  split
  · next hi =>
    rw [← length_paintFrom state] at hi
    have hpainted := List.getElem?_eq_getElem hi
    obtain ⟨token, htoken, hkind, -⟩ := exists_holding (hchars i _ hpainted)
    rw [hpainted, htoken, Option.bind_some, Option.bind_some, hkind]
    rfl
  · next hi =>
    rw [List.getElem?_eq_none (by rw [length_paintFrom]; omega)]
    rfl

/-- The state of a line tells whether its end is in a comment. -/
theorem state_block (hl : LiteralsEnd (paint text.toList)) {n : Nat} {line : String} {block : Block}
    (hline : (lines text)[n]? = some line) (hblock : (preview.setText text).blocks[n]? = some block)
    (hn : n + 1 < (lines text).length) :
    ∃ token, holding? (classify text) (lineStart (lines text) n + line.length) = some token ∧
      text.toList[lineStart (lines text) n + line.length]? = some '\n' ∧
      block.state = if token.kind = .comment then 1 else 0 := by
  obtain ⟨state, rfl, -, hend⟩ := paint_line_of_blocks (preview.setText text) hl hline hblock
  obtain ⟨token, ht, hk, hc⟩ := exists_holding (hend hn)
  refine ⟨token, ht, hc, ?_⟩
  rw [hk, lineEndKind]
  rcases state_highlight (preview.setText text) state line with h | h <;> rw [h] <;> rfl

/-- A character of a line is held by a token of the text, the format of which belongs to its place. -/
theorem exists_holding_of_line (hp : create isColor palette theme = .ok preview)
    (hl : LiteralsEnd (paint text.toList)) {n : Nat} {line : String} (hline : (lines text)[n]? = some line)
    {j : Nat} {c : Char} (hj : line.toList[j]? = some c) :
    ∃ token, holding? (classify text) (lineStart (lines text) n + j) = some token ∧
      text.toList[lineStart (lines text) n + j]? = some c ∧
      preview.formatOn? text n line j = preview.format? token.kind ∧
      (preview.format? token.kind).isSome = token.kind.isStyled := by
  obtain ⟨hn, -⟩ := List.getElem?_eq_some_iff.1 hline
  rw [← length_highlightAll preview noState] at hn
  obtain ⟨state, -, hchars, -⟩ :=
    paint_line_of_blocks preview hl hline (List.getElem?_eq_getElem hn)
  have hfst : ((paintFrom state line.toList).map (·.1))[j]? = some c := by rwa [map_fst_paintFrom]
  rw [List.getElem?_map] at hfst
  obtain ⟨⟨c', kind⟩, hk, rfl⟩ := Option.map_eq_some_iff.1 hfst
  obtain ⟨token, ht, rfl, hc⟩ := exists_holding (hchars j (c', kind) hk)
  have hlength : j < line.length := by
    rw [← String.length_toList]
    exact (List.getElem?_eq_some_iff.1 hj).1
  refine ⟨token, ht, hc, ?_, format?_isSome hp token.kind⟩
  rw [formatOn?, if_pos hlength, ht, Option.bind_some]

theorem isSome_formatOn? (hp : create isColor palette theme = .ok preview) (n : Nat) (line : String) (i : Nat) :
    (preview.formatOn? text n line i).isSome =
      (decide (i < line.length) &&
        (holding? (classify text) (lineStart (lines text) n + i)).any (·.kind.isStyled)) := by
  rw [formatOn?]
  split
  · next hi => cases holding? (classify text) (lineStart (lines text) n + i) <;> simp [hi, format?_isSome hp]
  · next hi => simp [hi]

theorem agrees_iff_aligned (hp : create isColor palette theme = .ok preview)
    (hl : LiteralsEnd (paint text.toList)) : Agrees width preview text ↔ Aligned width preview text := by
  have hlength : (preview.setText text).blocks.length = (lines text).length := length_highlightAll ..
  constructor
  · rintro ⟨-, hagrees⟩ n line hline j c hj u hu
    obtain ⟨hn, -⟩ := List.getElem?_eq_some_iff.1 hline
    have hblock := List.getElem?_eq_getElem (hlength ▸ hn)
    obtain ⟨token, ht, -, hunits, -⟩ := (hagrees n line _ hline hblock).formats j c hj
    obtain ⟨token', ht', -, hplace, -⟩ := exists_holding_of_line hp hl hline hj
    cases ht.symm.trans ht'
    rw [← formatAt?_block hl hline hblock, hunits u hu, hplace]
  · intro haligned
    refine ⟨hlength, fun n line block hline hblock => ⟨fun j c hj => ?_, state_block hl hline hblock⟩⟩
    obtain ⟨token, ht, hc, hplace, hstyled⟩ := exists_holding_of_line hp hl hline hj
    refine ⟨token, ht, hc, fun u hu => ?_, hstyled⟩
    rw [formatAt?_block hl hline hblock, haligned n line hline j c hj u hu, hplace]

/-- The characters of a line are characters of the text. -/
theorem mem_of_mem_line {n : Nat} {line : String} (hline : (lines text)[n]? = some line) {c : Char}
    (hc : c ∈ line.toList) : c ∈ text.toList := by
  have hjoin : ∀ {rows : List String}, line ∈ rows → c ∈ joinLines rows := by
    intro rows hm
    induction rows with
    | nil => cases hm
    | cons first rest ih =>
      cases rest with
      | nil => exact List.mem_singleton.1 hm ▸ hc
      | cons next rest =>
        rw [joinLines_cons first (List.cons_ne_nil _ _)]
        rcases List.mem_cons.1 hm with rfl | hm
        · exact List.mem_append_left _ hc
        · exact List.mem_append_right _ (List.mem_cons_of_mem _ (ih hm))
  rw [← joinLines_lines text]
  exact hjoin (List.mem_of_getElem? hline)

theorem unitsIn_of_single {cs : List Char} (h : ∀ c ∈ cs, width c = 1) : unitsIn width cs = cs.length := by
  induction cs with
  | nil => rfl
  | cons c rest ih =>
    rw [List.forall_mem_cons] at h
    rw [unitsIn, h.1, ih h.2, List.length_cons, Nat.add_comm]

/-- If every character takes one unit, units and characters are the same. -/
theorem aligned_of_single (h : ∀ c ∈ text.toList, width c = 1) : Aligned width preview text := by
  intro n line hline j c hj u hu
  have hsingle : ∀ c ∈ line.toList, width c = 1 := fun c hc => h c (mem_of_mem_line hline hc)
  have hbefore : unitsBefore width line j = j := by
    rw [unitsBefore, unitsIn_of_single fun c hc => hsingle c (List.mem_of_mem_take hc)]
    exact List.length_take_of_le (Nat.le_of_lt (List.getElem?_eq_some_iff.1 hj).1)
  rw [hsingle c (List.mem_of_getElem? hj)] at hu
  rw [hbefore, Nat.lt_one_iff.1 hu, Nat.add_zero]

/-- If no literal holds a line end, the states of the lines agree with the tokens of the whole text, in whatever units
an editor counts. The formats agree exactly if it makes no difference for them to take units for characters, and so
they do if every character takes one unit. -/
theorem preview_agrees (hp : create isColor palette theme = .ok preview)
    (hl : ∀ token ∈ classify text, token.kind = .string ∨ token.kind = .char → '\n' ∉ token.text.toList) :
    (Agrees width preview text ↔ Aligned width preview text) ∧
      ((∀ c ∈ text.toList, width c = 1) → Agrees width preview text) ∧
      ∀ n line block, (lines text)[n]? = some line → (preview.setText text).blocks[n]? = some block →
        n + 1 < (lines text).length →
          ∃ token, holding? (classify text) (lineStart (lines text) n + line.length) = some token ∧
            text.toList[lineStart (lines text) n + line.length]? = some '\n' ∧
            block.state = if token.kind = .comment then 1 else 0 := by
  have hends := literalsEnd_paint hl
  have hiff := @agrees_iff_aligned width _ _ _ _ _ hp hends
  exact ⟨hiff, fun h => hiff.2 (aligned_of_single h), fun n line block => state_block hends⟩

end Agreement

/-- The units of a character in UTF-16. -/
def utf16Width (c : Char) : Nat := if c.toNat < 0x10000 then 1 else 2

/-- A comment that `/*/` opens goes on over an empty line, and a line that ends one opens another. -/
theorem preview_agrees_reopened :
    ∃ preview, create hexColor .light none = .ok preview ∧
      (∀ token ∈ classify "x /*/\n\n/**/ */ \"s\" /* y\n*/ 'c'\n",
        token.kind = .string ∨ token.kind = .char → '\n' ∉ token.text.toList) ∧
      Agrees utf16Width preview "x /*/\n\n/**/ */ \"s\" /* y\n*/ 'c'\n" := by
  have hl : ∀ token ∈ classify "x /*/\n\n/**/ */ \"s\" /* y\n*/ 'c'\n",
      token.kind = .string ∨ token.kind = .char → '\n' ∉ token.text.toList := by decide +kernel
  have hsingle : ("x /*/\n\n/**/ */ \"s\" /* y\n*/ 'c'\n".toList.all fun c => utf16Width c = 1) = true := by
    decide +kernel
  obtain ⟨preview, hp⟩ := @exists_create_light hexColor
  refine ⟨preview, hp, hl, (preview_agrees hp hl).2.1 fun c hc => ?_⟩
  simpa using List.all_eq_true.1 hsingle c hc

/-- A character that takes two units moves the range of the word after it, so that the last letter is left out. -/
theorem preview_disagrees :
    ∃ preview, create hexColor .light none = .ok preview ∧
      (∀ token ∈ classify "😀 int x;", token.kind = .string ∨ token.kind = .char → '\n' ∉ token.text.toList) ∧
      ¬ Agrees utf16Width preview "😀 int x;" := by
  have hl : ∀ token ∈ classify "😀 int x;",
      token.kind = .string ∨ token.kind = .char → '\n' ∉ token.text.toList := by decide +kernel
  obtain ⟨preview, hp⟩ := @exists_create_light hexColor
  refine ⟨preview, hp, hl, fun hagrees => ?_⟩
  -- The last letter of the word is at the fifth place but takes the sixth unit, and the sixth place is blank.
  have hlast := (agrees_iff_aligned hp (literalsEnd_paint hl)).1 hagrees 0 "😀 int x;" (by decide +kernel) 4 't'
    (by decide +kernel) 0 (by decide +kernel)
  have hshown := congrArg Option.isSome hlast
  rw [isSome_formatOn? hp, isSome_formatOn? hp] at hshown
  exact absurd hshown (by decide +kernel)

end CodeMarkup.Preview
