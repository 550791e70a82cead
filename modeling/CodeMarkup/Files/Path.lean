import CodeMarkup.Text.Lines
import CodeMarkup.Text.Utf8
/-!
Paths as they are written, and places in the file tree, where names are followed one by one. The disk has
names as bytes, which are their UTF-8; in it the surrogates U+DC80 to U+DCFF stand for the single bytes 0x80
to 0xFF, and a name with any other surrogate has no bytes.
-/

namespace CodeMarkup.Files

open CodeMarkup.Text

/-! ## Names -/

/-- The bytes of a code point in a name. -/
def pointBytes? : CodePoint → Option (List UInt8)
  | .char c => some (String.utf8EncodeChar c)
  | .surrogate offset =>
    if 0x480 ≤ offset.val ∧ offset.val < 0x500 then some [UInt8.ofNat (offset.val - 0x400)] else none

/-- The bytes of a name. -/
def nameBytes? (name : CodePoints) : Option (List UInt8) :=
  (name.mapM pointBytes?).map List.flatten

/-- How many bytes a name takes, if it has bytes. -/
def nameSize (name : CodePoints) : Nat := ((nameBytes? name).getD []).length

/-- What a file is called that has this name. Names whose bytes are no UTF-8 belong to no file. -/
def nameString? (name : CodePoints) : Option String :=
  match CodePoints.string? name with
  | some name => some name
  | none => (nameBytes? name).bind fun bytes => (decodeUtf8 bytes.toByteArray).toOption

/-! ## Paths -/

/-- Where a path starts. -/
inductive Start
  /-- In the working directory. -/
  | here
  /-- At the root. -/
  | root
  /-- At the root, written with exactly two slashes, which are kept. -/
  | doubleRoot
  /-- In the directory of the themes that come with the program. -/
  | bundled
  deriving DecidableEq, Repr

/-- A path: where it starts and the names to follow from there. -/
structure Path where
  start : Start
  names : List CodePoints
  deriving DecidableEq, Repr

/-- Texts with a separator between them. -/
def join (separator : String) : List String → String
  | [] => ""
  | [s] => s
  | s :: rest => s ++ separator ++ join separator rest

namespace Path

/-- Where a written path starts. -/
def startOf (s : CodePoints) : Start :=
  match s with
  | .char '/' :: .char '/' :: .char '/' :: _ => .root
  | .char '/' :: .char '/' :: _ => .doubleRoot
  | .char '/' :: _ => .root
  | _ => .here

/-- How the start of a path is written; the directory of bundled themes has a mark of its own. -/
def startText : Start → CodePoints
  | .here => ""
  | .root => "/"
  | .doubleRoot => "//"
  | .bundled => "<bundled>"

/-- What stands between the names of a path. -/
def separator : CodePoints := "/"

/-- The names between slashes, empty ones included. -/
def namesOf (s : CodePoints) : List CodePoints := splitOn (.char '/') s

/-- A written path with every name after its start kept: an empty name, which doubled slashes and a
slash at the end make, stands for the directory it is looked up in. -/
def literal (s : CodePoints) : Path := ⟨startOf s, namesOf (s.drop (startText (startOf s)).length)⟩

/-- Whether a name leads to the directory it is looked up in. -/
def staysHere (name : CodePoints) : Bool := name = [] || name = "."

/-- A written path without the names that lead nowhere. -/
def ofText (s : CodePoints) : Path := ⟨startOf s, (namesOf s).filter (!staysHere ·)⟩

/-- The path in writing. -/
def toText (path : Path) : CodePoints :=
  match path.start, path.names with
  | .here, [] => "."
  | .bundled, _ :: _ => startText .bundled ++ separator ++ separator.intercalate path.names
  | start, names => startText start ++ separator.intercalate names

/-- The path of a name in the directory that a path leads to. -/
def child (path : Path) (name : CodePoints) : Path := ⟨path.start, path.names ++ [name]⟩

/-- The path of the directory that a path lies in. -/
def above (path : Path) : Path := ⟨path.start, path.names.dropLast⟩

/-- The directory of the bundled themes. -/
def bundledThemes : Path := ⟨.bundled, []⟩

/-- Whether a name holds a NUL character, which no file name does. -/
def hasNul (path : Path) : Bool := path.names.any fun name => name.contains (.char '\x00')

/-- Whether every name has bytes. -/
def hasBytes (path : Path) : Bool := path.names.all fun name => (nameBytes? name).isSome

/-- How many bytes the path takes in writing. -/
def size (path : Path) : Nat := nameSize path.toText

/-- The longest path the file system takes, in bytes. -/
def byteLimit : Nat := 4095

/-- The longest name the file system takes, in bytes. -/
def nameByteLimit : Nat := 255

end Path

/-! ## Places -/

/-- The directories from which places are counted. -/
inductive Anchor
  | workspace
  | root
  | bundled
  deriving DecidableEq, Repr

/-- A place in the file tree: the names that lead there from an anchor. -/
structure Place where
  anchor : Anchor
  names : List String
  deriving DecidableEq, Repr

namespace Place

/-- The place of a name in a directory. -/
def child (place : Place) (name : String) : Place := ⟨place.anchor, place.names ++ [name]⟩

/-- The directory that holds a place. Above the anchors lies the root. -/
def parent (place : Place) : Place :=
  match place.names with
  | [] => ⟨.root, []⟩
  | names => ⟨place.anchor, names.dropLast⟩

end Place

/-- The place where a path starts. -/
def Start.place : Start → Place
  | .here => ⟨.workspace, []⟩
  | .root | .doubleRoot => ⟨.root, []⟩
  | .bundled => ⟨.bundled, []⟩

end CodeMarkup.Files
