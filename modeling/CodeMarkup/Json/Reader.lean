import CodeMarkup.Json.Lexeme
/-!
Reading JSON text. A machine takes the lexemes one by one and keeps the arrays and objects that are
still open; its stack makes recursion over nested text unnecessary.
-/

namespace CodeMarkup.Json

open CodeMarkup.Text

/-- An array or object that is still open. -/
inductive Frame
  /-- The items so far, last one first. -/
  | items (done : List Value)
  /-- The members so far. -/
  | members (done : Keyed CodePoints Value)
  /-- The members so far and the key that waits for its value. -/
  | member (done : Keyed CodePoints Value) (key : CodePoints)

/-- What may come next. -/
inductive Expected
  /-- A value. -/
  | value
  /-- A value, or the end of the array just opened. -/
  | firstItem
  /-- A key, or the end of the object just opened. -/
  | firstKey
  /-- A key. -/
  | key
  /-- A colon after this key. -/
  | colon (key : CodePoints)
  /-- A comma, or the end of what is open. -/
  | more
  deriving DecidableEq, Repr

/-- A state of the machine. -/
inductive State
  | reading (expected : Expected) (stack : List Frame)
  | finished (v : Value)

namespace State

/-- Puts a complete value where it belongs: into the innermost open array or object, or, if none is
open, as the whole text's value. -/
def complete (v : Value) : List Frame → Option State
  | [] => some (.finished v)
  | .items done :: rest => some (.reading .more (.items (v :: done) :: rest))
  | .member done key :: rest => some (.reading .more (.members (Keyed.set key v done) :: rest))
  | .members _ :: _ => none

/-- The start of a value. -/
def startValue (lexeme : Lexeme) (stack : List Frame) : Option State :=
  match lexeme with
  | .text s => complete (.str s) stack
  | .scalar v => complete v stack
  | .openArray => some (.reading .firstItem (.items [] :: stack))
  | .openObject => some (.reading .firstKey (.members [] :: stack))
  | _ => none

/-- The end of the innermost array. -/
def closeArray : List Frame → Option State
  | .items done :: rest => complete (.arr done.reverse) rest
  | _ => none

/-- The end of the innermost object. -/
def closeObject : List Frame → Option State
  | .members done :: rest => complete (.obj done) rest
  | _ => none

/-- What comes after a comma. -/
def afterComma (stack : List Frame) : Option State :=
  match stack with
  | .items _ :: _ => some (.reading .value stack)
  | .members _ :: _ => some (.reading .key stack)
  | _ => none

/-- What comes after a key and its colon. -/
def afterColon (key : CodePoints) : List Frame → Option State
  | .members done :: rest => some (.reading .value (.member done key :: rest))
  | _ => none

/-- One lexeme. -/
def step (state : State) (lexeme : Lexeme) : Option State :=
  match state with
  | .finished _ => none
  | .reading expected stack =>
    match expected, lexeme with
    | .value, _ => startValue lexeme stack
    | .firstItem, .closeArray => closeArray stack
    | .firstItem, _ => startValue lexeme stack
    | .firstKey, .closeObject => closeObject stack
    | .firstKey, .text key => some (.reading (.colon key) stack)
    | .key, .text key => some (.reading (.colon key) stack)
    | .colon key, .colon => afterColon key stack
    | .more, .comma => afterComma stack
    | .more, .closeArray => closeArray stack
    | .more, .closeObject => closeObject stack
    | _, _ => none

/-- What is wrong with a text in which no lexeme, or none that fits, follows this state. -/
def complaint : State → Complaint
  | .finished _ => .extraText
  | .reading expected _ => match expected with
    | .value | .firstItem => .valueMissing
    | .firstKey | .key => .nameMissing
    | .colon _ => .colonMissing
    | .more => .commaMissing

/-- Whether a value may come next. -/
def takesValue : State → Bool
  | .reading .value _ | .reading .firstItem _ => true
  | _ => false

/-- Whether a string may come next. -/
def takesText : State → Bool
  | .reading .firstKey _ | .reading .key _ => true
  | state => state.takesValue

/-- What is wrong where a lexeme does not fit, given how many characters the text has. -/
def faultAt (state : State) (total : Nat) : Lexeme × List Char → Fault
  | (.oversized digits, s) =>
    if state.takesValue then .oversized digits else .malformed state.complaint (total - s.length)
  | (.broken complaint rest, s) =>
    if state.takesText then .malformed complaint (total - (rest.getD s).length)
    else .malformed state.complaint (total - s.length)
  | (_, s) => .malformed state.complaint (total - s.length)

/-- Lexemes one by one, up to the value of the whole text or the first one that does not fit. -/
def run (total : Nat) : State → List (Lexeme × List Char) → Except Fault Value
  | .finished v, [] => .ok v
  | state, [] => .error (.malformed state.complaint total)
  | state, (lexeme, s) :: rest => match state.step lexeme with
    | some next => next.run total rest
    | none => .error (state.faultAt total (lexeme, s))

end State

/-- The value that characters write. -/
def readChars (s : List Char) : Except Fault Value :=
  if s.head? = some '\ufeff' then .error (.malformed .byteOrderMark 0)
  else State.run s.length (.reading .value []) (Lexeme.ofChars s)

/-- The value that a text writes. -/
def read (s : String) : Except Fault Value := readChars s.toList

end CodeMarkup.Json
