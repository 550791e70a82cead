import CodeMarkup.Json.Fault
import CodeMarkup.Json.Value
import CodeMarkup.Text.CharClass
import CodeMarkup.Text.Quoted
/-!
The lexemes of JSON text: brackets, separators, strings with their escapes resolved, and scalars.
Blank space between them is space, tab, line feed and carriage return only. Beside the standard's
scalars, `NaN`, `Infinity` and `-Infinity` are numbers. What is no lexeme ends the list as one of its
own, so that the reader meets it in its turn.
-/

namespace CodeMarkup.Json

open CodeMarkup.Text CodeMarkup.Decimal

/-- A lexeme of JSON text. -/
inductive Lexeme
  | openObject
  | closeObject
  | openArray
  | closeArray
  | comma
  | colon
  | text (s : CodePoints)
  | scalar (v : Value)
  /-- A whole number with this many digits, which is more than are read. -/
  | oversized (digits : Nat)
  /-- A string that goes wrong where these characters are left, or, without them, from its opening
  quote on. -/
  | broken (complaint : Complaint) (rest : Option (List Char))
  /-- Characters that start no lexeme. -/
  | stray

namespace Lexeme

/-- Blank space between lexemes. -/
def isSpace (c : Char) : Bool := c = ' ' || c = '\t' || c = '\n' || c = '\r'

/-- A digit of a number. -/
def isDigit (c : Char) : Bool := '0' ≤ c && c ≤ '9'

/-- The number that digits write. -/
def number (digits : List Char) : Nat :=
  digits.foldl (fun n c => 10 * n + (c.toNat - 0x30)) 0

/-! ## Strings -/

/-- What an escape of one letter stands for. -/
def escaped? : Char → Option Char
  | '\"' => some '\"'
  | '\\' => some '\\'
  | '/' => some '/'
  | 'b' => some '\x08'
  | 'f' => some '\x0c'
  | 'n' => some '\n'
  | 'r' => some '\r'
  | 't' => some '\t'
  | _ => none

/-- The number that four hexadecimal digits write. -/
def unit? (a b c d : Char) : Option Nat := do
  let a ← hexValue? a
  let b ← hexValue? b
  let c ← hexValue? c
  let d ← hexValue? d
  return ((a * 16 + b) * 16 + c) * 16 + d

/-- What is wrong inside a string: the complaint and, unless it is about the opening quote, the
characters that are left where the string goes wrong. -/
abbrev Break := Complaint × Option (List Char)

/-- The inside of a string up to its closing quote, as code points and escaped 16-bit units, and the
characters after the quote. Characters below the space must be escaped, and an escaped unit must not
be the last thing in the text. -/
def units : List Char → Except Break (List Nat × List Char)
  | '\"' :: rest => .ok ([], rest)
  | '\\' :: 'u' :: a :: b :: c :: d :: rest =>
    match rest, unit? a b c d with
    | _ :: _, some unit => (units rest).map fun (later, rest) => (unit :: later, rest)
    | _, _ => .error (.wrongUnit, some ('u' :: a :: b :: c :: d :: rest))
  | '\\' :: 'u' :: rest => .error (.wrongUnit, some ('u' :: rest))
  | '\\' :: c :: rest =>
    match escaped? c with
    | some meant => (units rest).map fun (later, rest) => (meant.toNat :: later, rest)
    | none => .error (.wrongEscape, some ('\\' :: c :: rest))
  | c :: rest =>
    if c = '\\' then .error (.openString, none)
    else if c.toNat < 0x20 then .error (.controlCharacter, some (c :: rest))
    else (units rest).map fun (later, rest) => (c.toNat :: later, rest)
  | [] => .error (.openString, none)

/-- Whether a unit is the first half of a pair. -/
def isHigh (unit : Nat) : Bool := 0xD800 ≤ unit && unit ≤ 0xDBFF

/-- Whether a unit is the second half of a pair. -/
def isLow (unit : Nat) : Bool := 0xDC00 ≤ unit && unit ≤ 0xDFFF

/-- The code points that units stand for: a high half with a low one after it makes one character, and
any other half is a surrogate by itself. -/
def joinUnits : List Nat → CodePoints
  | [] => []
  | [unit] => [.ofNat unit]
  | high :: low :: rest =>
    if isHigh high && isLow low then
      .ofNat (0x10000 + (high - 0xD800) * 0x400 + (low - 0xDC00)) :: joinUnits rest
    else .ofNat high :: joinUnits (low :: rest)

/-! ## Numbers -/

/-- Digits at the start, at least one. -/
def digits? (s : List Char) : Option (List Char × List Char) :=
  match s.span isDigit with
  | ([], _) => none
  | (digits, rest) => some (digits, rest)

/-- The whole part: a zero alone, or digits that do not start with zero. -/
def whole? : List Char → Option (List Char × List Char)
  | '0' :: rest => some (['0'], rest)
  | s => digits? s

/-- The digits after a point, if a point and a digit follow. -/
def fraction (s : List Char) : List Char × List Char :=
  match s with
  | '.' :: rest => (digits? rest).getD ([], s)
  | _ => ([], s)

/-- The exponent, if a mark, perhaps a sign, and a digit follow. -/
def exponent? (s : List Char) : Option (Int × List Char) :=
  match s with
  | mark :: rest =>
    if mark = 'e' ∨ mark = 'E' then
      match rest with
      | '-' :: rest => (digits? rest).map fun (digits, rest) => (-(number digits : Int), rest)
      | '+' :: rest => (digits? rest).map fun (digits, rest) => ((number digits : Int), rest)
      | rest => (digits? rest).map fun (digits, rest) => ((number digits : Int), rest)
    else none
  | [] => none

/-- A whole number, if it has no more digits than are read. -/
def wholeNumber (negative : Bool) (digits : List Char) : Lexeme :=
  if digitLimit < digits.length then .oversized digits.length
  else .scalar (.int (if negative then -(number digits : Int) else number digits))

/-- A number without its sign: whole, unless it has a fraction or an exponent. -/
def unsigned? (negative : Bool) (s : List Char) : Option (Lexeme × List Char) := do
  let (whole, rest) ← whole? s
  let (part, rest) := fraction rest
  match exponent? rest with
  | some (exponent, rest) =>
    return (.scalar (.real (.ofDecimal negative (number (whole ++ part)) (exponent - part.length))),
      rest)
  | none =>
    if part.isEmpty then return (wholeNumber negative whole, rest)
    else return (.scalar (.real (.ofDecimal negative (number (whole ++ part)) (-(part.length : Int)))),
      rest)

/-! ## All lexemes -/

/-- What follows a fixed word at the start. -/
def afterWord? (word : String) (s : List Char) : Option (List Char) :=
  if word.toList.isPrefixOf s then some (s.drop word.length) else none

/-- The words that stand for scalars. -/
def words : List (String × Value) :=
  [("null", .null), ("true", .bool true), ("false", .bool false), ("NaN", .real .notANumber),
   ("Infinity", .real (.infinity false)), ("-Infinity", .real (.infinity true))]

/-- A scalar that is written as a word. -/
def word? (s : List Char) : Option (Lexeme × List Char) :=
  words.findSome? fun (word, value) => (afterWord? word s).map ((.scalar value, ·))

/-- A number or a word at the start. -/
def scalar? (s : List Char) : Option (Lexeme × List Char) :=
  match word? s with
  | some found => some found
  | none => match s with
    | '-' :: rest => unsigned? true rest
    | _ => unsigned? false s

/-- The lexeme of a string whose opening quote is taken, and what follows it. -/
def string (s : List Char) : Lexeme × List Char :=
  match units s with
  | .ok (units, rest) => (.text (joinUnits units), rest)
  | .error (complaint, rest) => (.broken complaint rest, [])

/-- The lexeme at the start of characters that do not start with space, and what follows it. Nothing
follows what is no lexeme. -/
def next : List Char → Lexeme × List Char
  | '\x7b' :: rest => (.openObject, rest)
  | '\x7d' :: rest => (.closeObject, rest)
  | '[' :: rest => (.openArray, rest)
  | ']' :: rest => (.closeArray, rest)
  | ',' :: rest => (.comma, rest)
  | ':' :: rest => (.colon, rest)
  | '\"' :: rest => string rest
  | s => (scalar? s).getD (.stray, [])

/-- The lexemes of characters, each with the characters from its start on. Every lexeme takes up a
character at least, so as many steps as there are characters are enough. -/
def list : (steps : Nat) → List Char → List (Lexeme × List Char)
  | steps, s =>
    match s.dropWhile isSpace with
    | [] => []
    | c :: cs => match steps with
      | 0 => [(.stray, c :: cs)]
      | steps + 1 =>
        let (lexeme, rest) := next (c :: cs)
        (lexeme, c :: cs) :: list steps rest

/-- The lexemes of characters. -/
def ofChars (s : List Char) : List (Lexeme × List Char) := list s.length s

end Lexeme

end CodeMarkup.Json
