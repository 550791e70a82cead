import CodeMarkup.Files.Fault
import CodeMarkup.Json.Fault
import CodeMarkup.Json.Value
import CodeMarkup.Text.CharClass
import CodeMarkup.Text.Quoted
import CodeMarkup.Text.Utf8
/-!
What can go wrong, by cause, and the words for it.
-/

namespace CodeMarkup

open CodeMarkup.Text

/-- Why an operation gives no result. -/
inductive Failure
  /-- The file system refused. -/
  | file (fault : Files.Fault)
  /-- The default of a registry is no palette of it. -/
  | defaultNotRegistered (id : String)
  /-- Digits that write no number. -/
  | notANumber (digits : String)
  /-- More digits than are read as a number. -/
  | tooManyDigits (limit count : Nat)
  /-- A number with more digits than are written. -/
  | tooLongNumber (limit : Nat)
  /-- A text that is not JSON, with the complaint about it in full. -/
  | notJson (complaint : String)
  /-- A theme that is no object. -/
  | themeNotObject (kind : Json.Kind)
  /-- A theme name that is no text. -/
  | nameNotText (kind : Json.Kind)
  /-- A path that is no text. -/
  | pathNotText (kind : Json.Kind)
  /-- A path with a NUL character. -/
  | nulInPath
  /-- A text that cannot be encoded. -/
  | notEncodable (fault : SurrogateFault)
  /-- A level name that is no text. -/
  | levelNotText (kind : Json.Kind)
  /-- A level name that stands for this text instead of a level. -/
  | unknownLevel (text : String)
  /-- A level name that stands for neither a level nor a text. -/
  | noLevel (shown : String)
  deriving DecidableEq, Repr

namespace Failure

/-- A type that lacks what was asked of it. -/
def lacks (kind : Json.Kind) (what : String) : String :=
  "'" ++ kind.word ++ "' object has no attribute '" ++ what ++ "'"

/-- The limit of digits that was exceeded. -/
def exceeded (limit : Nat) : String :=
  s!"Exceeds the limit ({limit} digits) for integer string conversion"

/-- How the limit of digits can be raised. -/
def advice : String := "; use sys.set_int_max_str_digits() to increase the limit"

/-- The failure in words. A text that is no number is quoted up to 200 characters. -/
def message : Failure → String
  | file fault => fault.message
  | defaultNotRegistered id => "Default palette " ++ quoted id ++ " is not registered"
  | notANumber digits =>
    "invalid literal for int() with base 10: " ++ String.ofList ((quotedChars digits).take 200)
  | tooManyDigits limit count => exceeded limit ++ s!": value has {count} digits" ++ advice
  | tooLongNumber limit => exceeded limit ++ advice
  | notJson complaint => complaint
  | themeNotObject kind => lacks kind "get"
  | nameNotText kind => lacks kind "strip"
  | pathNotText kind => "expected str, bytes or os.PathLike object, not " ++ kind.word
  | nulInPath => "embedded null byte"
  | notEncodable fault => fault.message
  | levelNotText kind => lacks kind "upper"
  | unknownLevel text => "Unknown level: " ++ quoted text
  | noLevel shown => "Level not an integer or a valid string: " ++ shown

/-- The failure to read a text as JSON. -/
def ofFault (text : String) : Json.Fault → Failure
  | .malformed complaint position => notJson (complaint.message text.toList position)
  | .oversized digits => tooManyDigits digitLimit digits

end Failure

end CodeMarkup
