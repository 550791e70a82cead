import CodeMarkup.Keyed
import CodeMarkup.Palette.Registry
import CodeMarkup.Style.Resolver
import CodeMarkup.Token
/-!
Tokens as markup: one `pre` element in which the tokens of marked-up kinds stand in `span` elements
with inline styles. Each kind is resolved once, when its first token comes. The five characters with a
meaning in markup are written as entities.
-/

namespace CodeMarkup.Markup

open CodeMarkup.Style CodeMarkup.Text

/-! ## Entities -/

/-- A character in element content or in an attribute. -/
def escapeChar : Char → List Char
  | '&' => "&amp;".toList
  | '<' => "&lt;".toList
  | '>' => "&gt;".toList
  | '\"' => "&quot;".toList
  | '\'' => "&#x27;".toList
  | c => [c]

/-- A text in element content or in an attribute. -/
def escape (s : CodePoints) : CodePoints := s.flatMap (·.expand escapeChar)

/-! ## Elements -/

/-- What the `pre` element declares after its background. -/
def preStyle : String :=
  "padding:0.8rem;border:1px solid #ccc;overflow:auto;" ++
    "font-family:'Courier New',monospace;font-size:0.85rem;line-height:1.35;"

/-- A `pre` element. -/
def preElement (style body : CodePoints) : CodePoints :=
  "<pre style=\"" ++ style ++ "\">" ++ body ++ "</pre>"

/-- A `span` element. -/
def spanElement (style body : CodePoints) : CodePoints :=
  "<span style=\"" ++ style ++ "\">" ++ body ++ "</span>"

/-! ## Tokens -/

/-- Markup on its way: the pieces so far, last one first, the escaped styles of the kinds met so far,
and the styles that had to be given a colour, in the order in which they were resolved. -/
structure Progress where
  pieces : List CodePoints := []
  styles : Keyed Token.Kind CodePoints := []
  colorless : List CodePoints := []

namespace Progress

/-- The escaped style of a kind, and the progress that remembers it. -/
def resolve (progress : Progress) (resolver : Resolver) (kind : Token.Kind) : CodePoints × Progress :=
  match Keyed.get? kind progress.styles with
  | some style => (style, progress)
  | none =>
    let style := escape (resolver.style kind)
    (style, { progress with
      styles := Keyed.set kind style progress.styles
      colorless := progress.colorless ++ (resolver.colorless? kind).toList })

/-- Adds a token. -/
def add (resolver : Resolver) (progress : Progress) (token : Token) : Progress :=
  let text := escape token.text
  if token.isStyled then
    let (style, progress) := progress.resolve resolver token.kind
    { progress with pieces := spanElement style text :: progress.pieces }
  else { progress with pieces := text :: progress.pieces }

/-- The markup of the tokens so far. -/
def body (progress : Progress) : CodePoints := progress.pieces.reverse.flatten

end Progress

/-- All tokens. -/
def progressOf (resolver : Resolver) (tokens : List Token) : Progress :=
  tokens.foldl (Progress.add resolver) {}

/-- Tokens as markup. -/
def render (resolver : Resolver) (tokens : List Token) : CodePoints :=
  preElement ("background:" ++ escape resolver.background ++ ";" ++ preStyle)
    (progressOf resolver tokens).body

end CodeMarkup.Markup
