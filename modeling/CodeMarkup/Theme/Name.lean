import CodeMarkup.Json.Writer
import CodeMarkup.Text.Quoted
/-!
Theme names, which may come from a settings file and so be any JSON value. Texts name themes; null and
values that count as nothing name none; other values are an error where a theme is looked up.
-/

namespace CodeMarkup.Theme

open CodeMarkup.Json CodeMarkup.Text

/-- What was given as the name of a theme. -/
inductive Name
  /-- No name at all. -/
  | missing
  /-- A value that counts as nothing, as notices show it. -/
  | nothing (shown : String)
  /-- A name that is not empty. -/
  | named (name : CodePoints)
  /-- A value of another type. -/
  | illTyped (kind : Kind)
  deriving DecidableEq, Repr

namespace Name

/-- The name in a text. -/
def ofText (s : CodePoints) : Name := if s = [] then .nothing (quoted s) else .named s

/-- The name in a text, if there is one. -/
def ofOption (s : Option CodePoints) : Name :=
  match s with
  | none => .missing
  | some s => ofText s

/-- The name in a JSON value. -/
def ofValue : Value → Name
  | .null => .missing
  | .str s => ofText s
  | .bool false => .nothing "False"
  | .int 0 => .nothing "0"
  | .real x => if x.isZero then .nothing (String.ofList (realChars x)) else .illTyped .real
  | .arr [] => .nothing "[]"
  | .obj [] => .nothing "\x7b\x7d"
  | v => .illTyped v.kind

/-- The name as a text, if it is one. -/
def text? : Name → Option CodePoints
  | named name => some name
  | _ => none

/-- The name as notices show it. -/
def shown : Name → String
  | missing => "None"
  | nothing shown => shown
  | named name => quoted name
  | illTyped kind => kind.word

end Name

end CodeMarkup.Theme
