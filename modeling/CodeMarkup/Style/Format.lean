import CodeMarkup.Failure
import CodeMarkup.Style.Resolver
import CodeMarkup.Text.CharClass
/-!
Text formats for an editor, made from inline styles: a colour, bold and italic. Which texts are colours
is the editor's to say.
-/

namespace CodeMarkup.Style

open CodeMarkup.Text

/-- How an editor shows a piece of text. -/
structure Format where
  /-- The colour as the style gives it; none if the style has no colour that the editor knows. -/
  color : Option CodePoints
  bold : Bool
  italic : Bool
  deriving DecidableEq, Repr

/-- The least weight that counts as bold. -/
def boldWeight : Nat := 600

/-- The number that a text of digits writes. Digits in forms that cannot be read as numbers, such as
superscripts, are refused, and so are too many digits. -/
def weightOf (digits : String) : Except Failure Nat :=
  let values := digits.toList.map decimalValue?
  let leading := (values.takeWhile Option.isSome).length
  if digitLimit < leading then .error (.tooManyDigits digitLimit leading)
  else if leading < values.length then .error (.notANumber digits)
  else .ok (ofDecimals (values.filterMap id))

/-- Whether a weight is bold: by name, or by a number that is large enough. -/
def isBold (weight : String) : Except Failure Bool :=
  if weight = "bold" ∨ weight = "bolder" then .ok true
  else if weight ≠ "" ∧ weight.toList.all isDigit then
    (weightOf weight).map fun n => decide (boldWeight ≤ n)
  else .ok false

/-- Whether a style asks for bold. A weight with a surrogate in it does not. -/
def asksBold (style : CodePoints) : Except Failure Bool :=
  match CodePoints.string? (lower (value "font-weight" style)) with
  | some weight => isBold weight
  | none => .ok false

/-- The format that a style asks for in an editor that knows these colours. -/
def Format.ofStyle (isColor : CodePoints → Bool) (style : CodePoints) : Except Failure Format :=
  let slant := lower (value "font-style" style)
  (asksBold style).map fun bold =>
    { color := some (value "color" style) |>.filter isColor
      bold := bold
      italic := slant = "italic" ∨ slant = "oblique" }

end CodeMarkup.Style
