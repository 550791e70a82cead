import CodeMarkup.Keyed
import CodeMarkup.Palette
import CodeMarkup.Text.CharClass
import CodeMarkup.Text.Lines
import CodeMarkup.Text.LowerCase
import CodeMarkup.Theme
/-!
Inline styles: `property:value;` declarations, with the properties in lower case. A later declaration
of a property takes the place of an earlier one.

The style of each kind of token comes from a theme and a palette. The first that is not empty counts: the
theme's style for the kind, its default style, its foreground colour, the palette's style. A style
that sets no colour is then given one.
-/

namespace CodeMarkup.Style

open CodeMarkup.Text

/-! ## Declarations -/

/-- The declarations of a style: values under properties, in order. -/
abbrev Declarations := Keyed CodePoints CodePoints

/-- The declaration that a part between semicolons makes: it needs a colon and, before it, a property
that is not blank. -/
def declaration? (part : CodePoints) : Option (CodePoints × CodePoints) :=
  match part.span (· ≠ .char ':') with
  | (_, []) => none
  | (before, _ :: after) =>
    let property := lower (strip before)
    if property = [] then none else some (property, strip after)

/-- The declarations of a style. -/
def declarations (style : CodePoints) : Declarations :=
  Keyed.ofList ((splitOn (.char ';') style).filterMap declaration?)

/-- The value of a property, empty if the style does not declare it. -/
def value (property style : CodePoints) : CodePoints :=
  (Keyed.get? property (declarations style)).getD []

/-- Whether a style sets the colour of text. -/
def hasColor (style : CodePoints) : Bool := value "color" style ≠ []

/-! ## Styles of kinds -/

/-- A theme and a palette, either of which may be missing. -/
structure Resolver where
  palette : Option Palette
  theme : Option Theme := none
  deriving DecidableEq, Repr

/-- The colour of text where neither theme nor palette has one. -/
def neutralColor : String := "#222"

/-- The background where neither theme nor palette has one. -/
def neutralBackground : String := "#ffffff"

/-- The first text that is there and not empty. -/
def firstFilled? (candidates : List (Option CodePoints)) : Option CodePoints :=
  candidates.findSome? fun candidate => candidate.filter (· ≠ [])

/-- The style that only sets a colour. -/
def colorStyle (color : CodePoints) : CodePoints := "color:" ++ color ++ ";"

namespace Resolver

/-- The theme's foreground colour, unless it is empty. -/
def foreground? (resolver : Resolver) : Option CodePoints :=
  firstFilled? [resolver.theme.bind (·.foreground)]

/-- Where the style of a kind may come from, in the order of precedence. -/
def candidates (resolver : Resolver) (kind : Token.Kind) : List (Option CodePoints) :=
  [resolver.theme.bind (·.style? kind),
   resolver.theme.bind (·.defaultStyle),
   resolver.foreground?.map colorStyle,
   resolver.palette.map fun palette => palette.style kind]

/-- The style chosen for a kind, before it is given a colour. -/
def chosen? (resolver : Resolver) (kind : Token.Kind) : Option CodePoints :=
  firstFilled? (resolver.candidates kind)

/-- The colour for styles that set none. -/
def textColor (resolver : Resolver) : CodePoints :=
  (firstFilled? [resolver.foreground?, resolver.palette.map fun palette => palette.base]).getD
    neutralColor

/-- A style with a semicolon at its end. -/
def closed (style : CodePoints) : CodePoints :=
  let trimmed := stripEnd style
  if trimmed.getLast? = some (.char ';') then style else trimmed ++ ";"

/-- A style with a colour in front. -/
def colored (resolver : Resolver) (style : CodePoints) : CodePoints :=
  colorStyle resolver.textColor ++ closed style

/-- The style of a kind. -/
def style (resolver : Resolver) (kind : Token.Kind) : CodePoints :=
  match resolver.chosen? kind with
  | none => colorStyle neutralColor
  | some style => if hasColor style then style else resolver.colored style

/-- The chosen style of a kind that has to be given a colour. -/
def colorless? (resolver : Resolver) (kind : Token.Kind) : Option CodePoints :=
  (resolver.chosen? kind).filter fun style => !hasColor style

/-- The background: the theme's, the palette's, or white. -/
def background (resolver : Resolver) : CodePoints :=
  (firstFilled? [resolver.theme.bind (·.background),
    resolver.palette.map fun palette => palette.background]).getD neutralBackground

end Resolver

end CodeMarkup.Style
