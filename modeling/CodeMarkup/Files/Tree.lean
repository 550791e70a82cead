import CodeMarkup.Files.Fault
import CodeMarkup.Files.Path
import CodeMarkup.Keyed
/-!
The file tree: directories and files at places. Paths are followed name by name, and every name but
the last must lead to a directory that may be entered.
-/

namespace CodeMarkup.Files

open CodeMarkup.Text

/-- What stands at a place. -/
inductive Entry
  | directory
  /-- A directory that may not be entered, nor may it be listed. -/
  | closed
  | file (content : ByteArray)

/-- Files are equal when their bytes are. -/
instance : DecidableEq Entry
  | .directory, .directory | .closed, .closed => isTrue rfl
  | .directory, .file _ | .directory, .closed => isFalse nofun
  | .closed, .file _ | .closed, .directory => isFalse nofun
  | .file _, .directory | .file _, .closed => isFalse nofun
  | .file a, .file b =>
    if h : a.data = b.data then isTrue (congrArg Entry.file (ByteArray.ext h))
    else isFalse fun same => h (congrArg ByteArray.data (Entry.file.inj same))

/-- Whether this is a file. -/
def Entry.isFile : Entry → Bool
  | directory | closed => false
  | file _ => true

/-- Files and directories at their places. Anchors are directories without being listed. -/
abbrev Tree := Keyed Place Entry

namespace Tree

/-- What stands at a place. -/
def lookup? (tree : Tree) (place : Place) : Option Entry :=
  if place.names = [] then some .directory else Keyed.get? place tree

/-- Follows names from a place. The last one need not lead to anything. -/
def walk (tree : Tree) (place : Place) : List CodePoints → Except Cause Place
  | [] => .ok place
  | name :: rest =>
    match lookup? tree place with
    | none => .error .notFound
    | some (.file _) => .error .notDirectory
    | some .closed => .error .permissionDenied
    | some .directory =>
      if Path.staysHere name then walk tree place rest
      else if name = ".." then walk tree place.parent rest
      else if Path.nameByteLimit < nameSize name then .error .nameTooLong
      else match nameString? name with
        | none => .error .notFound
        | some name => walk tree (place.child name) rest

/-- The place that a path leads to. -/
def locate (tree : Tree) (path : Path) : Except Cause Place :=
  if Path.byteLimit < path.size then .error .nameTooLong
  else walk tree path.start.place path.names

/-! ## Questions -/

/-- Whether a path leads to something with a property. A path that leads nowhere does not, nor does one
that cannot be followed for what its names hold, and neither is an error; a name that is too long is
one, and so is a directory on the way that may not be entered. -/
def holds (tree : Tree) (property : Entry → Bool) (path : Path) : Except Cause Bool :=
  if path.hasNul || !path.hasBytes then .ok false
  else match locate tree path with
    | .ok place => .ok ((lookup? tree place).any property)
    | .error .notFound | .error .notDirectory => .ok false
    | .error cause => .error cause

/-- Whether a path leads to a file. -/
def isFile (tree : Tree) : Path → Except Cause Bool := holds tree Entry.isFile

/-- Whether a path leads to a directory. -/
def isDirectory (tree : Tree) : Path → Except Cause Bool := holds tree (!·.isFile)

/-- Whether a path leads to anything. -/
def has (tree : Tree) : Path → Except Cause Bool := holds tree fun _ => true

/-- The content of the file that a path leads to. -/
def read (tree : Tree) (path : Path) : Except Cause ByteArray := do
  match lookup? tree (← locate tree path) with
  | none => .error .notFound
  | some .directory => .error .isDirectory
  | some .closed => .error .permissionDenied
  | some (.file content) => .ok content

/-- The names in a directory. One that may not be listed shows none. -/
def namesIn (tree : Tree) (directory : Place) : List String :=
  if lookup? tree directory = some .closed then []
  else tree.filterMap fun (place, _) =>
    match place.names.getLast? with
    | some name => if place = directory.child name then some name else none
    | none => none

/-! ## Changes -/

/-- Puts an entry at a place. -/
def put (tree : Tree) (place : Place) (entry : Entry) : Tree := Keyed.set place entry tree

/-- Putting an entry changes what stands at the one place; anchors stay directories. -/
theorem lookup?_put (tree : Tree) (place other : Place) (entry : Entry) :
    lookup? (put tree place entry) other =
      if other.names = [] then some .directory
      else if place = other then some entry else lookup? tree other := by
  simp only [lookup?, put, Keyed.get?_set]
  split <;> simp_all

/-- The place of a file that is to be written. A path that ends with a slash can only mean a
directory. -/
def locateForWriting (tree : Tree) (path : Path) : Except Cause Place :=
  if Path.byteLimit < path.size then .error .nameTooLong
  else if 1 < path.names.length ∧ path.names.getLast? = some [] then do
    let names := (path.names.reverse.dropWhile (· = [])).reverse
    let _ ← locate tree ⟨path.start, names.dropLast ++ [CodePoints.ofString "."]⟩
    .error .isDirectory
  else do
    let place ← locate tree path
    match lookup? tree place with
    | some .directory | some .closed => .error .isDirectory
    | _ => .ok place

/-- Makes a directory in one that is there. -/
def makeDirectory (tree : Tree) (path : Path) : Except Cause Tree := do
  if Path.byteLimit < path.size then .error .nameTooLong
  let above ← locate tree path.above
  match lookup? tree above with
  | none => .error .notFound
  | some (.file _) => .error .notDirectory
  | some .closed => .error .permissionDenied
  | some .directory =>
    match path.names.getLast? with
    | none => .error .alreadyExists
    | some name =>
      if Path.staysHere name ∨ name = ".." then .error .alreadyExists
      else if Path.nameByteLimit < nameSize name then .error .nameTooLong
      else match nameString? name with
        | none => .error .notFound
        | some name =>
          if (lookup? tree (above.child name)).isSome then .error .alreadyExists
          else .ok (put tree (above.child name) .directory)

/-- Makes a directory in one that is there, unless it is a directory already. -/
def ensureDirectory (tree : Tree) (path : Path) : Except Cause Tree :=
  match makeDirectory tree path with
  | .ok tree => .ok tree
  | .error cause => match isDirectory tree path with
    | .ok true => .ok tree
    | _ => .error cause

/-- Makes a directory, unless it is one already. If the one above it is missing it is made first, and
so on for at most `depth` directories. What was made before a refusal stays. -/
def makeWithin (tree : Tree) (path : Path) : (depth : Nat) → Except Fault Unit × Tree
  | 0 => match ensureDirectory tree path with
    | .ok tree => (.ok (), tree)
    | .error cause => (.error { cause, path := path.toText }, tree)
  | depth + 1 => match ensureDirectory tree path with
    | .ok tree => (.ok (), tree)
    | .error .notFound => match makeWithin tree path.above depth with
      | (.error fault, tree) => (.error fault, tree)
      | (.ok (), tree) => match ensureDirectory tree path with
        | .ok tree => (.ok (), tree)
        | .error cause => (.error { cause, path := path.toText }, tree)
    | .error cause => (.error { cause, path := path.toText }, tree)

/-- Makes a directory and those above it, as far as they are missing. -/
def makeDirectories (tree : Tree) (path : Path) : Except Fault Unit × Tree :=
  makeWithin tree path path.names.length

end Tree

end CodeMarkup.Files
