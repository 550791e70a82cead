import CodeMarkup.Json.Reader
import CodeMarkup.Json.Writer
import CodeMarkup.Text.CharClass
import CodeMarkup.Text.Lines
import CodeMarkup.Workspace
/-!
Settings: a JSON object in a file. They are written whole to a second file, which then takes the place
of the first, so a write that fails leaves the settings as they were.
-/

namespace CodeMarkup

open CodeMarkup.Files CodeMarkup.Json CodeMarkup.Log CodeMarkup.Text

/-- Settings: JSON values under names. -/
abbrev Settings := Keyed CodePoints Value

namespace Settings

/-- The directory of the settings file. -/
def directory : Path := ⟨.here, ["config"]⟩

/-- The settings file. -/
def file : Path := directory.child "settings.json"

/-- The file that settings are written to at first. -/
def draft : Path := directory.child "settings.tmp"

/-- The values of settings that are not stored. -/
def defaults : Settings := [("theme", .str "default"), ("themes_dir", .str "themes")]

/-- The settings in the file's bytes: none if they hold no object. -/
def ofBytes (content : ByteArray) : Attempt Settings := do
  match decodeUtf8 content with
  | .error _ =>
    report (.unreadableSettings file)
    return []
  | .ok text => match read text with
    | .ok v => return v.members?.getD []
    | .error (.malformed _ _) =>
      report (.unreadableSettings file)
      return []
    | .error (.oversized digits) => throw (.tooManyDigits digitLimit digits)

/-- The settings in the file: none if it is missing or cannot be read. That it cannot be looked up at all
is a failure. -/
def load : Attempt Settings := do
  let files := (← get).files
  match Tree.has files file with
  | .error cause => refuse cause file.toText
  | .ok false => return []
  | .ok true =>
    match Tree.read files file with
    | .ok content => ofBytes content
    | .error _ =>
      report (.unreadableSettings file)
      return []

/-- Writes a value to the settings file. Any value may be written, but only members of an object are
settings. -/
def save (v : Value) : Attempt Unit := do
  makeDirectories directory
  if v.hasOversized then throw (.tooLongNumber digitLimit)
  writeBytes draft draft.toText v.toText.toUTF8
  match (← get).move draft file with
  | .error cause => throw (.file { cause, path := draft.toText, target := some file.toText })
  | .ok workspace => set workspace

/-- The value of a setting: the stored one, else the one given here, else the default. -/
def value (settings : Settings) (key : CodePoints) (otherwise : Value) : Value :=
  match Keyed.get? key settings with
  | some v => v
  | none => match otherwise with
    | .null => (Keyed.get? key defaults).getD .null
    | otherwise => otherwise

/-- Looks up a setting. -/
def lookup (key : CodePoints) (otherwise : Value := .null) : Attempt Value :=
  return (← load).value key otherwise

/-- Stores a setting beside the others. -/
def store (key : CodePoints) (v : Value) : Attempt Unit := do
  let settings ← load
  save (.obj (Keyed.set key v settings))

end Settings

end CodeMarkup
