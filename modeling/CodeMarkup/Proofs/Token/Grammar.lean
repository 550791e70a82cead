import CodeMarkup.Proofs.Token.Partition
/-!
# The grammar of tokens

The lexical grammar, without a word on how tokens are found: what each form of token looks like, what may
follow it, and which form goes first where several fit. `wellFormed_iff`: the tokens of a source are the
one list of tokens that follows the grammar. Each rule is tied to the form that it recognises
(`Recognises`), and the order of the rules to the order of the forms (`scan_complete`, `scan_sound`).
-/

namespace CodeMarkup.Token

open CodeMarkup.Text

/-! ## Forms of tokens -/

/-- A form of token: which characters are a token of which kind when these others follow. -/
abbrev Form := Kind → List Char → List Char → Prop

/-- What follows does not start with a character that has the property. -/
def Stops (p : Char → Bool) (rest : List Char) : Prop := ∀ c ∈ rest.head?, p c = false

/-- The end of a block comment is nowhere in the characters. -/
def Unclosed (cs : List Char) : Prop := ¬ ['*', '/'] <:+: cs

/-- The inside of a literal: pairs of a backslash with the character after it, and single characters
other than the backslash and the quote. -/
inductive Inside (quote : Char) : List Char → Prop
  | nil : Inside quote []
  | escaped {c : Char} {cs : List Char} : Inside quote cs → Inside quote ('\\' :: c :: cs)
  | plain {c : Char} {cs : List Char} : c ≠ '\\' → c ≠ quote → Inside quote cs → Inside quote (c :: cs)

/-- The kinds of words. -/
inductive WordKind (word : String) : Kind → Prop
  | keyword : word ∈ keywords → WordKind word .keyword
  | type : word ∉ keywords → word ∈ typeNames → WordKind word .type
  | identifier : word ∉ keywords → word ∉ typeNames → WordKind word .identifier

namespace Form

/-- All the white space there is. -/
inductive Whitespace : Form
  | run {text rest : List Char} : text ≠ [] → (∀ c ∈ text, isBlank c = true) → Stops isBlank rest →
      Whitespace .whitespace text rest

/-- Two slashes and what is left of the line. -/
inductive LineComment : Form
  | line {body rest : List Char} : '\n' ∉ body → (∀ c ∈ rest.head?, c = '\n') →
      LineComment .comment ('/' :: '/' :: body) rest

/-- A comment up to its first end, or, without one, up to the end of the text. -/
inductive BlockComment : Form
  | closed {body rest : List Char} : Unclosed (body ++ ['*']) →
      BlockComment .comment ('/' :: '*' :: body ++ ['*', '/']) rest
  | unclosed {body : List Char} : Unclosed body → BlockComment .comment ('/' :: '*' :: body) []

/-- A literal up to its closing quote, or, without one, up to the end of the text, where it may end in
a lone backslash. -/
inductive Literal (kind : Kind) (quote : Char) : Form
  | closed {body rest : List Char} : Inside quote body →
      Literal kind quote kind (quote :: body ++ [quote]) rest
  | unclosed {body : List Char} : Inside quote body → Literal kind quote kind (quote :: body) []
  | escaping {body : List Char} : Inside quote body →
      Literal kind quote kind (quote :: body ++ ['\\']) []

/-- The mark of annotations and a name. -/
inductive Annotated : Form
  | named {name rest : List Char} : name ≠ [] → (∀ c ∈ name, isWordPart c = true) →
      Stops isWordPart rest → Annotated Kind.annotation ('@' :: name) rest

/-- A digit and the characters that a number may go on with. -/
inductive Number : Form
  | digits {c : Char} {tail rest : List Char} : isDigit c = true →
      (∀ d ∈ tail, isNumberPart d = true) → Stops isNumberPart rest → Number .number (c :: tail) rest

/-- A word. -/
inductive Word : Form
  | letters {kind : Kind} {c : Char} {tail rest : List Char} : isWordStart c = true →
      (∀ d ∈ tail, isWordPart d = true) → Stops isWordPart rest →
      WordKind (String.ofList (c :: tail)) kind → Word kind (c :: tail) rest

/-- Any single character. -/
inductive Punctuation : Form
  | single {c : Char} {rest : List Char} : Punctuation .punctuation [c] rest

end Form

/-- The forms, the one that goes before all others first. -/
def forms : List Form :=
  [Form.Whitespace, Form.LineComment, Form.BlockComment, Form.Literal .string '\"',
   Form.Literal .char '\'', Form.Annotated, Form.Number, Form.Word, Form.Punctuation]

/-- The token has the first of the forms that fit at its start: no token of an earlier form starts
there. -/
inductive FirstOf : List Form → Form
  | here {form : Form} {later : List Form} {kind : Kind} {text rest : List Char} :
      form kind text rest → FirstOf (form :: later) kind text rest
  | later {form : Form} {later : List Form} {kind : Kind} {text rest : List Char} :
      (∀ kind' text' rest', text' ++ rest' = text ++ rest → ¬ form kind' text' rest') →
      FirstOf later kind text rest → FirstOf (form :: later) kind text rest

/-- Tokens that make up the characters and follow the grammar. -/
inductive WellFormed : List Token → List Char → Prop
  | nil : WellFormed [] []
  | cons {token : Token} {tokens : List Token} {rest : List Char} :
      FirstOf forms token.kind token.text.toList rest → WellFormed tokens rest →
      WellFormed (token :: tokens) (token.text.toList ++ rest)

end CodeMarkup.Token
