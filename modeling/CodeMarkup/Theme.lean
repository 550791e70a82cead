import CodeMarkup.Failure
import CodeMarkup.Json.Reader
import CodeMarkup.Keyed
import CodeMarkup.Text.CharClass
import CodeMarkup.Token.Kind
/-!
Themes: styles that go over those of a palette, for some or all kinds. A theme file is a JSON object;
entries that are unknown or of no use are passed over.
-/

namespace CodeMarkup

open CodeMarkup.Text CodeMarkup.Json

/-- A theme. -/
structure Theme where
  /-- The name. It is empty if the theme's file gives none. -/
  name : Option CodePoints := some []
  /-- What the theme is for. It is empty if the theme's file does not say. -/
  description : Option CodePoints := some []
  background : Option CodePoints := none
  /-- The colour of text that the theme gives no style to. -/
  foreground : Option CodePoints := none
  /-- The styles of single kinds. A kind without a style may be named too. -/
  styles : Keyed Token.Kind (Option CodePoints) := []
  /-- The style of the kinds without one of their own. -/
  defaultStyle : Option CodePoints := none
  deriving DecidableEq, Repr

namespace Theme

/-- A text that is not blank, without the blanks around it; other values are of no use. -/
def usable? (v : Value) : Option CodePoints :=
  match v with
  | .str s => if allBlank s then none else some (strip s)
  | _ => none

/-- The usable text under a key. -/
def usableAt? (key : CodePoints) (members : Keyed CodePoints Value) : Option CodePoints :=
  (Keyed.get? key members).bind usable?

/-- Takes over one entry of the styles. -/
def addStyle (theme : Theme) (key : CodePoints) (v : Value) : Theme :=
  match usable? v with
  | none => theme
  | some style =>
    if key = "default" then { theme with defaultStyle := some style }
    else match (CodePoints.string? key).bind Token.Kind.ofKey? with
      | none => theme
      | some kind => { theme with styles := Keyed.set kind (some style) theme.styles }

/-- The entries under `styles`, none if they are no object. -/
def styleMembers (members : Keyed CodePoints Value) : Keyed CodePoints Value :=
  ((Keyed.get? (CodePoints.ofString "styles") members).bind Value.members?).getD []

/-- The theme that the members of an object describe. -/
def ofMembers (members : Keyed CodePoints Value) : Theme :=
  (styleMembers members).foldl (fun theme entry => theme.addStyle entry.1 entry.2)
    { name := some ((usableAt? "name" members).getD [])
      description := some ((usableAt? "description" members).getD [])
      background := usableAt? "background" members
      foreground := usableAt? "foreground" members }

/-- The theme that a JSON value describes; it has to be an object. -/
def ofValue (v : Value) : Except Failure Theme :=
  match v with
  | .obj members => .ok (ofMembers members)
  | v => .error (.themeNotObject v.kind)

/-- The theme that JSON text describes. -/
def ofText (s : String) : Except Failure Theme := do
  ofValue (← (read s).mapError (Failure.ofFault s))

/-- The theme's own style of a kind. -/
def style? (theme : Theme) (kind : Token.Kind) : Option CodePoints := (Keyed.get? kind theme.styles).join

/-- The name, unless it is empty. -/
def ownName? (theme : Theme) : Option CodePoints := theme.name.filter (· ≠ [])

end Theme

end CodeMarkup
