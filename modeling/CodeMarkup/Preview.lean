import CodeMarkup.Palette.Registry
import CodeMarkup.Style.Format
import CodeMarkup.Style.Resolver
import CodeMarkup.Text.Lines
import CodeMarkup.Token
/-!
Live preview in an editor: each line gets formats for ranges of places, which are counted in characters.
A block comment that a line leaves open is carried to the next line by the state of the line.
-/

namespace CodeMarkup

open CodeMarkup.Text CodeMarkup.Style

/-- A preview: how kinds are styled, the formats made from that, and the document once there is
one. -/
structure Preview where
  resolver : Resolver
  formats : Keyed Token.Kind Format
  document : Option (List String) := none

namespace Preview

/-- A range of a line and its format. -/
structure Span where
  start : Nat
  length : Nat
  format : Format
  deriving DecidableEq, Repr

/-- What highlighting leaves on a line: the state for the next line and the ranges. -/
structure Block where
  state : Int
  spans : List Span
  deriving DecidableEq, Repr

/-- The state before the first line. -/
def noState : Int := -1

/-- The state of a line that ends outside block comments. -/
def outside : Int := 0

/-- The state of a line that ends inside a block comment. -/
def insideComment : Int := 1

/-- The formats of the kinds that are marked up. -/
def formatsOf (isColor : CodePoints → Bool) (resolver : Resolver) :
    Except Failure (Keyed Token.Kind Format) :=
  Token.Kind.styled.mapM fun kind =>
    (Format.ofStyle isColor (resolver.style kind)).map fun format => (kind, format)

/-- A preview without a document. -/
def create (isColor : CodePoints → Bool) (palette : Palette) (theme : Option Theme) :
    Except Failure Preview :=
  let resolver : Resolver := ⟨some palette, theme⟩
  (formatsOf isColor resolver).map fun formats => { resolver, formats }

/-- The format of a kind; kinds that are not marked up have none. -/
def format? (preview : Preview) (kind : Token.Kind) : Option Format :=
  Keyed.get? kind preview.formats

/-- The background. -/
def background (preview : Preview) : CodePoints := preview.resolver.background

/-- The ranges of tokens, the first of which starts at `offset`. -/
def spansFrom (preview : Preview) (offset : Nat) : List Token → List Span
  | [] => []
  | token :: rest =>
    let length := token.text.length
    let later := preview.spansFrom (offset + length) rest
    match preview.format? token.kind with
    | some format => ⟨offset, length, format⟩ :: later
    | none => later

/-- Whether a token is a block comment that is not closed. -/
def isOpenComment (token : Token) : Bool :=
  let text := token.text.toList
  token.kind = .comment && ['/', '*'].isPrefixOf text &&
    (text.length < 4 || !(['*', '/'].isSuffixOf text))

/-- Whether a line ends inside a block comment that one of its tokens opens. -/
def leavesOpen (tokens : List Token) : Bool := (tokens.getLast?.map isOpenComment).getD false

/-- The range of a carried-over comment. -/
def commentSpan (preview : Preview) (length : Nat) : List Span :=
  (preview.format? .comment).toList.map fun format => ⟨0, length, format⟩

/-- A line from `start` on, after the range `before`. -/
def highlightFrom (preview : Preview) (start : Nat) (before : List Span) (line : List Char) : Block :=
  let tokens := Token.ofChars (line.drop start)
  { state := if leavesOpen tokens then insideComment else outside
    spans := before ++ preview.spansFrom start tokens }

/-- A line, given the state of the line before. A comment carried over from there takes up the line up to
and with the first end of a comment, if there is one. -/
def highlight (preview : Preview) (previous : Int) (line : String) : Block :=
  if previous = insideComment then
    match Token.closing? line.toList with
    | none => ⟨insideComment, preview.commentSpan line.length⟩
    | some length => preview.highlightFrom length (preview.commentSpan length) line.toList
  else preview.highlightFrom 0 [] line.toList

/-- Lines one after the other, given the state before the first. -/
def highlightAll (preview : Preview) (previous : Int) : List String → List Block
  | [] => []
  | line :: rest =>
    let block := preview.highlight previous line
    block :: preview.highlightAll block.state rest

/-- The document highlighted afresh. -/
def blocks (preview : Preview) : List Block :=
  preview.highlightAll noState (preview.document.getD [])

/-- Replaces the document. -/
def setText (preview : Preview) (text : String) : Preview :=
  { preview with document := some (lines text) }

/-- Changes theme and palette. When the new formats cannot be made, the old ones stay, although the
styles are already the new ones. -/
def setTheme (isColor : CodePoints → Bool) (preview : Preview) (palette : Palette)
    (theme : Option Theme) : Except Failure Unit × Preview :=
  let resolver : Resolver := ⟨some palette, theme⟩
  match formatsOf isColor resolver with
  | .ok formats => (.ok (), { preview with resolver, formats })
  | .error failure => (.error failure, { preview with resolver })

end Preview

end CodeMarkup
