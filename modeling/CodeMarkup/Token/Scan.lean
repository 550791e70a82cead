import CodeMarkup.Text.CharClass
import CodeMarkup.Text.Letter
import CodeMarkup.Token.Kind
/-!
How far the first token of a source text reaches. There is a rule for each form of token, and the first
one that applies decides; an unfinished comment or literal reaches to the end. Every rule takes up a
character at least and none past the end (`bounded_of_mem_rules`).
-/

namespace CodeMarkup.Token

open CodeMarkup.Text

/-- Words with a meaning in the grammar. -/
def keywords : List String :=
  ["abstract", "assert", "break", "case", "catch", "class", "const", "continue", "default", "do",
   "else", "enum", "extends", "final", "finally", "for", "goto", "if", "implements", "import",
   "instanceof", "interface", "native", "new", "package", "private", "protected", "public",
   "return", "strictfp", "static", "super", "switch", "synchronized", "this", "throw", "throws",
   "transient", "try", "volatile", "while", "record", "sealed", "permits", "var"]

/-- Names of common types. -/
def typeNames : List String :=
  ["void", "int", "long", "double", "float", "short", "byte", "char", "boolean", "String", "Object",
   "List", "Map", "Set"]

/-- Whether a word may start with this character. -/
def isWordStart (c : Char) : Bool := isLetter c || c = '_' || c = '$'

/-- Whether a word may go on with this character. -/
def isWordPart (c : Char) : Bool := isAlphanumeric c || c = '_' || c = '$'

/-- The characters that a number may go on with: decimal and hexadecimal digits, the point, the
underscore and the marks of a radix. -/
def numberParts : List Char := "0123456789._xXbBabcdefABCDEF".toList

/-- Whether a number may go on with this character. -/
def isNumberPart (c : Char) : Bool := numberParts.contains c

/-- The length of the run of characters with a property at the start. -/
def runLength (p : Char → Bool) (cs : List Char) : Nat := (cs.takeWhile p).length

theorem runLength_le (p : Char → Bool) (cs : List Char) : runLength p cs ≤ cs.length :=
  (List.takeWhile_prefix p).length_le

/-- How many characters there are up to and with the first end of a block comment, if it ends. -/
def closing? : List Char → Option Nat
  | '*' :: '/' :: _ => some 2
  | _ :: rest => (closing? rest).map (· + 1)
  | [] => none

theorem closing?_le {cs : List Char} {n : Nat} (h : closing? cs = some n) : n ≤ cs.length := by
  induction cs using closing?.induct generalizing n with
  | case1 => simp [closing?] at h; simp [← h]
  | case2 c rest hc ih =>
    rw [closing?] at h
    · obtain ⟨m, hm, rfl⟩ := Option.map_eq_some_iff.1 h
      simpa using ih hm
    · exact hc
  | case3 => simp [closing?] at h

/-- How many characters a literal takes up after its opening quote: up to and with the first closing
quote that no backslash escapes, or all. -/
def quotedTail (quote : Char) : List Char → Nat
  | '\\' :: _ :: rest => 2 + quotedTail quote rest
  | c :: rest => if c = quote then 1 else 1 + quotedTail quote rest
  | [] => 0

theorem quotedTail_le (quote : Char) (cs : List Char) : quotedTail quote cs ≤ cs.length := by
  fun_induction quotedTail quote cs <;> simp <;> omega

/-- The kind of a whole word. -/
def wordKind (word : List Char) : Kind :=
  if keywords.contains (String.ofList word) then .keyword
  else if typeNames.contains (String.ofList word) then .type
  else .identifier

/-- A rule looks at the characters from some place on. If it applies there, it answers the kind of the
token that starts there and its length. -/
abbrev Rule := List Char → Option (Kind × Nat)

namespace Rule

/-- A run of white space. -/
def whitespace : Rule
  | [] => none
  | c :: cs => if isBlank c then some (.whitespace, runLength isBlank (c :: cs)) else none

/-- A comment up to the end of the line. -/
def lineComment : Rule
  | '/' :: '/' :: cs => some (.comment, 2 + runLength (· ≠ '\n') cs)
  | _ => none

/-- A comment up to the first end after its opening, or to the end of the text. -/
def blockComment : Rule
  | '/' :: '*' :: cs => some (.comment, 2 + (closing? cs).getD cs.length)
  | _ => none

/-- A literal between quotes. -/
def literal (kind : Kind) (quote : Char) : Rule
  | [] => none
  | c :: cs => if c = quote then some (kind, 1 + quotedTail quote cs) else none

/-- An annotation; its mark alone is none. -/
def annotated : Rule
  | '@' :: cs =>
    if runLength isWordPart cs = 0 then none else some (Prod.mk Kind.annotation (1 + runLength isWordPart cs))
  | _ => none

/-- A number. -/
def number : Rule
  | [] => none
  | c :: cs => if isDigit c then some (.number, 1 + runLength isNumberPart cs) else none

/-- A keyword, the name of a type or another name. -/
def word : Rule
  | [] => none
  | c :: cs =>
    if isWordStart c then
      some (wordKind (c :: cs.takeWhile isWordPart), 1 + runLength isWordPart cs)
    else none

/-- A rule that never answers for no character, nor for more than there are. -/
def Bounded (rule : Rule) : Prop :=
  ∀ ⦃cs kind n⦄, rule cs = some (kind, n) → 0 < n ∧ n ≤ cs.length

theorem whitespace_bounded : whitespace.Bounded := by
  intro cs kind n h
  cases cs with
  | nil => simp [whitespace] at h
  | cons c cs =>
    by_cases hc : isBlank c
    · simp only [whitespace, hc, if_true, Option.some.injEq, Prod.mk.injEq] at h
      have := runLength_le isBlank (c :: cs)
      refine ⟨?_, by omega⟩
      simp [← h.2, runLength, hc]
    · simp [whitespace, hc] at h

theorem lineComment_bounded : lineComment.Bounded := by
  intro cs kind n h
  simp only [lineComment] at h
  split at h
  · next cs =>
    simp only [Option.some.injEq, Prod.mk.injEq] at h
    have := runLength_le (· ≠ '\n') cs
    simp only [List.length_cons]; omega
  · cases h

theorem blockComment_bounded : blockComment.Bounded := by
  intro cs kind n h
  simp only [blockComment] at h
  split at h
  · next cs =>
    simp only [Option.some.injEq, Prod.mk.injEq] at h
    have : (closing? cs).getD cs.length ≤ cs.length := by
      cases hc : closing? cs with
      | none => simp
      | some m => simpa using closing?_le hc
    simp only [List.length_cons]; omega
  · cases h

theorem literal_bounded (kind : Kind) (quote : Char) : (literal kind quote).Bounded := by
  intro cs kind' n h
  cases cs with
  | nil => simp [literal] at h
  | cons c cs =>
    simp only [literal, Option.ite_none_right_eq_some, Option.some.injEq, Prod.mk.injEq] at h
    have := quotedTail_le quote cs
    simp only [List.length_cons]; omega

theorem annotated_bounded : annotated.Bounded := by
  intro cs kind n h
  simp only [annotated] at h
  split at h
  · next cs =>
    simp only [Option.ite_none_left_eq_some, Option.some.injEq, Prod.mk.injEq] at h
    have := runLength_le isWordPart cs
    simp only [List.length_cons]; omega
  · cases h

theorem number_bounded : number.Bounded := by
  intro cs kind n h
  cases cs with
  | nil => simp [number] at h
  | cons c cs =>
    simp only [number, Option.ite_none_right_eq_some, Option.some.injEq, Prod.mk.injEq] at h
    have := runLength_le isNumberPart cs
    simp only [List.length_cons]; omega

theorem word_bounded : word.Bounded := by
  intro cs kind n h
  cases cs with
  | nil => simp [word] at h
  | cons c cs =>
    simp only [word, Option.ite_none_right_eq_some, Option.some.injEq, Prod.mk.injEq] at h
    have := runLength_le isWordPart cs
    simp only [List.length_cons]; omega

end Rule

/-- The rules, in the order in which they are tried. -/
def rules : List Rule :=
  [Rule.whitespace, Rule.lineComment, Rule.blockComment, Rule.literal .string '\"',
   Rule.literal .char '\'', Rule.annotated, Rule.number, Rule.word]

/-- Every rule takes up a character at least, and none past the end. -/
theorem bounded_of_mem_rules {rule : Rule} (h : rule ∈ rules) : rule.Bounded := by
  simp only [rules, List.mem_cons, List.not_mem_nil, or_false] at h
  rcases h with rfl | rfl | rfl | rfl | rfl | rfl | rfl | rfl
  · exact Rule.whitespace_bounded
  · exact Rule.lineComment_bounded
  · exact Rule.blockComment_bounded
  · exact Rule.literal_bounded _ _
  · exact Rule.literal_bounded _ _
  · exact Rule.annotated_bounded
  · exact Rule.number_bounded
  · exact Rule.word_bounded

/-- The kind and the length of the token at the start of characters. The first rule that applies
decides; where none does, the character is punctuation. -/
def scan (cs : List Char) : Kind × Nat := (rules.findSome? (· cs)).getD (.punctuation, 1)

/-- A token takes up a character at least, and none past the end. -/
theorem scan_bounds {cs : List Char} (h : cs ≠ []) : 0 < (scan cs).2 ∧ (scan cs).2 ≤ cs.length := by
  rw [scan]
  cases hs : rules.findSome? (· cs) with
  | none => exact ⟨Nat.one_pos, List.length_pos_iff.2 h⟩
  | some answer =>
    obtain ⟨rule, hr, ha⟩ := List.exists_of_findSome?_eq_some hs
    exact bounded_of_mem_rules hr ha

end CodeMarkup.Token
