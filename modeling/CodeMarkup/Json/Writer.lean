import CodeMarkup.Decimal.Shortest
import CodeMarkup.Json.Value
import CodeMarkup.Text.CharClass
import CodeMarkup.Text.Quoted
/-!
Writing JSON text in ASCII, indented and with the keys of every object in the order of their code points.
-/

namespace CodeMarkup.Json

open CodeMarkup.Text CodeMarkup.Decimal

/-- A character inside a string: itself if it is printable ASCII, otherwise an escape, and beyond the
16-bit units a pair of escapes. -/
def stringChar (c : Char) : List Char :=
  if c = '\"' then ['\\', '\"']
  else if c = '\\' then ['\\', '\\']
  else if c = '\n' then ['\\', 'n']
  else if c = '\r' then ['\\', 'r']
  else if c = '\t' then ['\\', 't']
  else if c = '\x08' then ['\\', 'b']
  else if c = '\x0c' then ['\\', 'f']
  else if ' ' ≤ c ∧ c ≤ '~' then [c]
  else if c.toNat < 0x10000 then unitEscape c.toNat
  else
    let offset := c.toNat - 0x10000
    unitEscape (0xD800 + offset / 0x400) ++ unitEscape (0xDC00 + offset % 0x400)

/-- A code point inside a string: a surrogate is written as the one unit that it is. -/
def stringPoint : CodePoint → List Char
  | .char c => stringChar c
  | point => unitEscape point.toNat

/-- A string in quotes. -/
def stringChars (s : CodePoints) : List Char :=
  '\"' :: s.flatMap stringPoint ++ ['\"']

/-- Numbers are written with digits alone while the first one counts at least `10 ^ -4` and less than
`10 ^ 16`; exponents have two digits or more. -/
def numberLayout : Layout := ⟨-4, 16, 2⟩

/-- A number that is not written as a whole one. -/
def realChars (x : Binary64) : List Char :=
  if x.isNaN then "NaN".toList
  else (if x.isNegative then ['-'] else []) ++
    (if x.isInfinite then "Infinity".toList
     else if x.isZero then "0.0".toList
     else numberLayout.chars (shortest x))

/-- A whole number. -/
def intChars (n : Int) : List Char := (toString n).toList

namespace Value

/-- A line end and the blanks that start a line at this depth. -/
def newLine (depth : Nat) : List Char := '\n' :: List.replicate (2 * depth) ' '

/-- Members in the order of their keys. -/
def sortMembers (members : List (CodePoints × List Char)) : List (CodePoints × List Char) :=
  members.mergeSort fun a b => CodePoints.le a.1 b.1

/-- Items between brackets, each on a line of its own; nothing between the brackets of an empty
list. -/
def block (opening closing : Char) (depth : Nat) (items : List (List Char)) : List Char :=
  if items.isEmpty then [opening, closing]
  else opening :: newLine (depth + 1) ++ (',' :: newLine (depth + 1)).intercalate items ++
    newLine depth ++ [closing]

mutual

/-- A value over several lines, for a place at the given depth. -/
def indented (depth : Nat) : Value → List Char
  | .null => "null".toList
  | .bool b => if b then "true".toList else "false".toList
  | .int n => intChars n
  | .real x => realChars x
  | .str s => stringChars s
  | .arr items => block '[' ']' depth (indentedItems (depth + 1) items)
  | .obj members =>
    block '\x7b' '\x7d' depth ((sortMembers (indentedMembers (depth + 1) members)).map (·.2))

/-- The items of an array over several lines. -/
def indentedItems (depth : Nat) : List Value → List (List Char)
  | [] => []
  | v :: rest => v.indented depth :: indentedItems depth rest

/-- The members of an object over several lines, under their keys. -/
def indentedMembers (depth : Nat) : List (CodePoints × Value) → List (CodePoints × List Char)
  | [] => []
  | (key, v) :: rest =>
    (key, stringChars key ++ [':', ' '] ++ v.indented depth) :: indentedMembers depth rest

end

/-- Whether a whole number has more digits than are written. -/
def isOversized (n : Int) : Bool := digitLimit < (toString n.natAbs).length

mutual

/-- Whether a value holds a whole number with more digits than are written. -/
def hasOversized : Value → Bool
  | .int n => isOversized n
  | .arr items => anyOversized items
  | .obj members => anyMemberOversized members
  | _ => false

/-- Whether one of the items holds such a number. -/
def anyOversized : List Value → Bool
  | [] => false
  | v :: rest => v.hasOversized || anyOversized rest

/-- Whether one of the members holds such a number. -/
def anyMemberOversized : List (CodePoints × Value) → Bool
  | [] => false
  | (_, v) :: rest => v.hasOversized || anyMemberOversized rest

end

/-- JSON text over several lines, two blanks for each level, keys in order. -/
def toText (v : Value) : String := String.ofList (v.indented 0)

end Value

end CodeMarkup.Json
