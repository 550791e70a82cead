/-!
Why a text cannot be read as JSON: what is wrong, where, and the words for it. A place is counted in
characters from the start, and in lines and columns that start at one.
-/

namespace CodeMarkup.Json

/-- What is wrong at a place of a text that is not JSON. -/
inductive Complaint
  | byteOrderMark
  | valueMissing
  | nameMissing
  | colonMissing
  | commaMissing
  | extraText
  | openString
  | controlCharacter
  | wrongEscape
  | wrongUnit
  deriving DecidableEq, Repr

/-- The complaint in words. -/
def Complaint.words : Complaint → String
  | byteOrderMark => "Unexpected UTF-8 BOM (decode using utf-8-sig)"
  | valueMissing => "Expecting value"
  | nameMissing => "Expecting property name enclosed in double quotes"
  | colonMissing => "Expecting ':' delimiter"
  | commaMissing => "Expecting ',' delimiter"
  | extraText => "Extra data"
  | openString => "Unterminated string starting at"
  | controlCharacter => "Invalid control character at"
  | wrongEscape => "Invalid \\escape"
  | wrongUnit => "Invalid \\uXXXX escape"

/-- Why a text cannot be read. -/
inductive Fault
  /-- From this place on it is not JSON. -/
  | malformed (complaint : Complaint) (position : Nat)
  /-- A whole number has this many digits, which is more than are read. -/
  | oversized (digits : Nat)
  deriving DecidableEq, Repr

/-- The line of a place. -/
def lineAt (s : List Char) (position : Nat) : Nat := (s.take position).count '\n' + 1

/-- The column of a place: one more than there are characters before it on its line. -/
def columnAt (s : List Char) (position : Nat) : Nat :=
  ((s.take position).reverse.takeWhile (· ≠ '\n')).length + 1

/-- A complaint about a place of a text, in words. -/
def Complaint.message (complaint : Complaint) (s : List Char) (position : Nat) : String :=
  complaint.words ++
    s!": line {lineAt s position} column {columnAt s position} (char {position})"

end CodeMarkup.Json
