import CodeMarkup.Token.Kind
/-!
Palettes: the built-in sets of colours, one for each kind of token that is marked up.
-/

namespace CodeMarkup

/-- A set of colours. -/
structure Palette where
  id : String
  name : String
  background : String
  /-- The colour of text that has no style of its own. -/
  base : String
  keyword : String
  type : String
  string : String
  comment : String
  number : String
  /-- The colour of annotations; without one they have the colour of keywords. -/
  annotation : Option String := none
  /-- The colour of character literals; without one they have the colour of strings. -/
  char : Option String := none
  deriving DecidableEq, Repr

namespace Palette

/-- A colour that may be left out or empty. -/
def orElse (color : Option String) (instead : String) : String :=
  match color with
  | none | some "" => instead
  | some color => color

/-- The inline style of a kind. -/
def style (palette : Palette) : Token.Kind → String
  | .keyword => "color:" ++ palette.keyword ++ ";font-weight:bold;"
  | .type => "color:" ++ palette.type ++ ";font-weight:bold;"
  | .string => "color:" ++ palette.string ++ ";"
  | .char => "color:" ++ orElse palette.char palette.string ++ ";"
  | .comment => "color:" ++ palette.comment ++ ";font-style:italic;"
  | .number => "color:" ++ palette.number ++ ";"
  | Token.Kind.annotation => "color:" ++ orElse palette.annotation palette.keyword ++ ";"
  | .identifier | .punctuation | .whitespace => "color:" ++ palette.base ++ ";"

/-! ## The built-in palettes -/

/-- Light colours. -/
def light : Palette where
  id := "default"
  name := "Default Light"
  background := "#ffffff"
  base := "#222"
  keyword := "#0000aa"
  type := "#0044aa"
  string := "#aa1111"
  comment := "#777777"
  number := "#aa00aa"
  annotation := "#aa5500"
  char := "#aa1111"

/-- Dark colours. -/
def dark : Palette where
  id := "dark"
  name := "Dark"
  background := "#1e1e1e"
  base := "#d4d4d4"
  keyword := "#569cd6"
  type := "#4fc1ff"
  string := "#ce9178"
  comment := "#6a9955"
  number := "#b5cea8"
  annotation := "#c586c0"
  char := "#ce9178"

/-- Light colours of the Tango set. -/
def tango : Palette where
  id := "tango"
  name := "Tango"
  background := "#f8f8f8"
  base := "#222"
  keyword := "#204a87"
  type := "#204a87"
  string := "#c41a16"
  comment := "#8f5902"
  number := "#5c3566"
  annotation := "#75507b"
  char := "#c41a16"

/-- Dark colours of the Monokai set. -/
def monokai : Palette where
  id := "monokai"
  name := "Monokai Dark"
  background := "#272822"
  base := "#f8f8f2"
  keyword := "#f92672"
  type := "#66d9ef"
  string := "#e6db74"
  comment := "#75715e"
  number := "#ae81ff"

end Palette

end CodeMarkup
