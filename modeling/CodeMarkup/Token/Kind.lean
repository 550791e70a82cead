/-!
The lexical kinds of source text, their names in theme files, and the kinds that get a style.
-/

namespace CodeMarkup.Token

/-- The lexical kind of a piece of source text. -/
inductive Kind
  | comment
  | string
  | char
  | number
  | keyword
  | type
  | annotation
  | identifier
  | punctuation
  | whitespace
  deriving DecidableEq, Repr

namespace Kind

/-- Every kind, in the order of listings. -/
def all : List Kind :=
  [.comment, .string, .char, .number, .keyword, .type, Kind.annotation, .identifier, .punctuation,
   .whitespace]

/-- The name of a kind in theme files. -/
def key : Kind → String
  | .comment => "comment"
  | .string => "string"
  | .char => "char"
  | .number => "number"
  | .keyword => "keyword"
  | .type => "type"
  | Kind.annotation => "annotation"
  | .identifier => "identifier"
  | .punctuation => "punctuation"
  | .whitespace => "whitespace"

/-- The kind with this very name. -/
def named? (name : String) : Option Kind := all.find? fun kind => kind.key = name

/-- The kind that a key of a theme file means: older files shorten `identifier`. -/
def ofKey? (key : String) : Option Kind :=
  if key = "ident" then some .identifier else named? key

/-- Whether pieces of this kind are marked up; the others stay plain text. -/
def isStyled : Kind → Bool
  | .identifier | .punctuation | .whitespace => false
  | _ => true

/-- The kinds that are marked up. -/
def styled : List Kind := all.filter isStyled

end Kind

end CodeMarkup.Token
