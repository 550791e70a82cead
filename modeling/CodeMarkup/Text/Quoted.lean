import CodeMarkup.Text.CodePoint
import CodeMarkup.Text.Printable
/-!
Texts in quotes, as messages show them: on one line, with every code point that would not show
written as an escape. Escapes are made of hexadecimal digits, which are in lower case when they are written
and in either case when they are read.
-/

namespace CodeMarkup.Text

/-! ## Hexadecimal digits -/

/-- The digit of a number below sixteen. -/
def hexDigit (n : Nat) : Char := Char.ofNat (if n < 10 then 0x30 + n else 0x57 + n)

/-- The last `width` hexadecimal digits of a number, leading zeros included. -/
def hexDigits : (width n : Nat) → List Char
  | 0, _ => []
  | width + 1, n => hexDigits width (n / 16) ++ [hexDigit (n % 16)]

/-- A 16-bit number as an escape. -/
def unitEscape (unit : Nat) : List Char := '\\' :: 'u' :: hexDigits 4 unit

/-- The value of a hexadecimal digit in either case. -/
def hexValue? (c : Char) : Option Nat :=
  if '0' ≤ c ∧ c ≤ '9' then some (c.toNat - 0x30)
  else if 'a' ≤ c ∧ c ≤ 'f' then some (c.toNat - 0x57)
  else if 'A' ≤ c ∧ c ≤ 'F' then some (c.toNat - 0x37)
  else none

/-- Whether a character is a hexadecimal digit. -/
def isHexDigit (c : Char) : Bool := (hexValue? c).isSome

/-! ## Quotes -/

/-- The quote that a text is put in: the single one, unless the text has single quotes and no
double ones. -/
def quoteFor (s : CodePoints) : Char :=
  if s.contains (.char '\'') && !s.contains (.char '\"') then '\"' else '\''

/-- A character inside quotes. -/
def quotedChar (quote c : Char) : List Char :=
  if c = quote ∨ c = '\\' then ['\\', c]
  else if c = '\n' then ['\\', 'n']
  else if c = '\r' then ['\\', 'r']
  else if c = '\t' then ['\\', 't']
  else if isPrintable c then [c]
  else if c.toNat < 0x100 then '\\' :: 'x' :: hexDigits 2 c.toNat
  else if c.toNat < 0x10000 then unitEscape c.toNat
  else '\\' :: 'U' :: hexDigits 8 c.toNat

/-- A code point inside quotes. -/
def quotedPoint (quote : Char) : CodePoint → List Char
  | .char c => quotedChar quote c
  | point => unitEscape point.toNat

/-- The characters of a text in quotes. -/
def quotedChars (s : CodePoints) : List Char :=
  let quote := quoteFor s
  quote :: s.flatMap (quotedPoint quote) ++ [quote]

/-- A text in quotes. -/
def quoted (s : CodePoints) : String := String.ofList (quotedChars s)

end CodeMarkup.Text
