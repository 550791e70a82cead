import CodeMarkup.Settings
import CodeMarkup.Text.CaseFold
import CodeMarkup.Text.CharClass
import CodeMarkup.Theme
import CodeMarkup.Theme.Name
/-!
Libraries of theme files. A theme named `ocean` is in the file `ocean.json` of the first directory that
has one. A file that cannot be used is noted in the log and gives no theme.
-/

namespace CodeMarkup.Theme

open CodeMarkup.Files CodeMarkup.Json CodeMarkup.Log CodeMarkup.Text

/-- Directories of theme files, in the order in which they are searched. -/
structure Library where
  directories : List Path := []
  deriving DecidableEq, Repr

/-- What the name of a theme file ends with. -/
def suffix : String := ".json"

/-- The name of a file without its last extension. A point at the start or the end starts no
extension. -/
def stem (name : CodePoints) : CodePoints :=
  let afterPoint := (name.reverse.takeWhile (· ≠ .char '.')).length
  let before := name.length - afterPoint - 1
  if 0 < afterPoint ∧ 0 < before then name.take before else name

/-- The stem of the last name of a path. -/
def stemOf (path : Path) : CodePoints := stem (path.names.getLast?.getD [])

/-- Whether a name could lead out of the directory it is looked up in, or to a hidden file. -/
def leadsElsewhere (name : CodePoints) : Bool :=
  name.contains (.char '/') || name.contains (.char '\\') || name.head? = some (.char '.')

/-- The content of a theme file, or the notice of what is wrong with it. A number with too many digits
is a failure. -/
def contentOf (files : Tree) (file : Path) : Except Failure (Except Notice Value) :=
  match Tree.read files file with
  | .error _ => .ok (.error (.unreadTheme file))
  | .ok content => match decodeUtf8 content with
    | .error _ => .ok (.error (.unreadTheme file))
    | .ok text => match read text with
      | .error (.malformed _ _) => .ok (.error (.unparsedTheme file))
      | .error (.oversized digits) => .error (.tooManyDigits digitLimit digits)
      | .ok v => .ok (.ok v)

/-- The theme in a file. -/
def loadFile (file : Path) : Attempt (Option Theme) := do
  match ← MonadExcept.ofExcept (contentOf (← get).files file) with
  | .error notice =>
    report notice
    return none
  | .ok (.obj members) =>
    let theme := ofMembers members
    report (.loadedTheme (theme.ownName?.getD (stemOf file)) file)
    return some theme
  | .ok _ =>
    report (.notAnObject file)
    return none

namespace Library

/-- The first of the directories that has a file for this name. When looking into one of them fails,
the search ends. -/
def search (name : CodePoints) : List Path → Action (Option Path)
  | [] => return none
  | directory :: rest => do
    let candidate := directory.child (name ++ suffix)
    match Tree.isFile (← get).files candidate with
    | .ok true => return some candidate
    | .ok false => search name rest
    | .error _ =>
      report (.failedLookup name directory)
      return none

/-- The file of the theme with this name; blanks around the name do not count. -/
def findNamed (library : Library) (name : CodePoints) : Action (Option Path) := do
  let name := strip name
  if name = [] then return none
  if leadsElsewhere name then
    report (.rejectedName name)
    return none
  search name library.directories

/-- The file of the theme that a name means. -/
def find (library : Library) : Name → Attempt (Option Path)
  | .missing | .nothing _ => return none
  | .named name => library.findNamed name
  | .illTyped kind => throw (.nameNotText kind)

/-- The theme that a name means, if there is a usable one. -/
def load (library : Library) (name : Name) : Attempt (Option Theme) := do
  match ← library.find name with
  | some file => loadFile file
  | none =>
    report (.noTheme name.shown)
    return none

/-- The name that a theme file gives, or its stem if it gives none. -/
def displayName (file : Path) : Attempt CodePoints := do
  match ← MonadExcept.ofExcept (contentOf (← get).files file) with
  | .error _ =>
    report (.namedByFile file)
    return stemOf file
  | .ok v => return (v.members?.bind (usableAt? "name")).getD (stemOf file)

/-- The theme files in a directory. -/
def filesIn (files : Tree) (directory : Path) : List Path :=
  match Tree.locate files directory with
  | .error _ => []
  | .ok place =>
    ((Tree.namesIn files place).filter fun name => suffix.toList.isSuffixOf name.toList).map
      fun (name : String) => directory.child name

/-- The names that the theme files of directories give. Directories that are missing have none. -/
def namesFrom : List Path → Attempt (List CodePoints)
  | [] => return []
  | directory :: rest => do
    match Tree.isDirectory (← get).files directory with
    | .error cause => refuse cause directory.toText
    | .ok false => namesFrom rest
    | .ok true =>
      let names ← (filesIn (← get).files directory).mapM displayName
      return names ++ (← namesFrom rest)

/-- The names of all themes, each once, in an order in which case does not count. -/
def names (library : Library) : Attempt (List CodePoints) :=
  return (← namesFrom library.directories).eraseDups.mergeSort foldedLe

/-- The library over a directory, if it is named, and the bundled themes. -/
def withBundled (directory : Option CodePoints) : Library :=
  ⟨(directory.map Path.ofText).toList ++ [Path.bundledThemes]⟩

/-- The library that the settings ask for. -/
def fromSettings : Attempt Library := do
  match ← Settings.lookup "themes_dir" with
  | .str directory => return withBundled (if allBlank directory then none else some directory)
  | _ => return withBundled none

end Library

end CodeMarkup.Theme
