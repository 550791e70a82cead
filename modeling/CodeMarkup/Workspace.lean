import CodeMarkup.Failure
import CodeMarkup.Files.Tree
import CodeMarkup.Log
import CodeMarkup.Text.Utf8
/-!
What the program works on: the file tree, the log, and the texts written to the two outputs. Actions
change it; an attempt is an action that may fail, and what it changed before it failed stays changed.
-/

namespace CodeMarkup

open CodeMarkup.Files CodeMarkup.Log CodeMarkup.Text

/-- What the program works on. -/
structure Workspace where
  files : Tree
  log : Log := {}
  /-- The time, as log lines give it. -/
  time : String := Notice.noTime
  /-- The notices that passed their loggers, in order. -/
  notices : List Notice := []
  /-- What was written to the standard output. -/
  output : String := ""
  /-- What was written to the error output. -/
  errors : String := ""

/-- An action on the workspace. -/
abbrev Action := StateM Workspace

/-- An action on the workspace that may fail. -/
abbrev Attempt := ExceptT Failure Action

/-- Bytes with others written over them from a position on; a gap before it is filled with zeros. -/
def overwrite (content : ByteArray) (position : Nat) (bytes : ByteArray) : ByteArray :=
  let gap := (List.replicate (position - content.size) (0 : UInt8)).toByteArray
  content.extract 0 position ++ gap ++ bytes ++
    content.extract (position + bytes.size) content.size

namespace Workspace

/-! ## Reports -/

/-- Hands a line to a handler, which moves on in its file. A file does not get lines that cannot be
encoded; the console gets them with escapes. -/
def handOver (workspace : Workspace) (line : CodePoints) (handler : Handler) :
    Workspace × Handler :=
  match handler.target with
  | .file place position =>
    match Tree.lookup? workspace.files place, encodable line with
    | some (.file content), .ok line =>
      let bytes := line.toUTF8
      ({ workspace with
          files := Tree.put workspace.files place (.file (overwrite content position bytes)) },
        { handler with target := .file place (position + bytes.size) })
    | _, _ => (workspace, handler)
  | .console => ({ workspace with errors := workspace.errors ++ escapeSurrogates line }, handler)
  | .lostFile | .nowhere => (workspace, handler)

/-- Hands a notice to those handlers that take its severity. -/
def handle (workspace : Workspace) (notice : Notice) :
    List Handler → Workspace × List Handler
  | [] => (workspace, [])
  | handler :: rest =>
    let (workspace, handler) :=
      if handler.level ≤ notice.severity.level then workspace.handOver (notice.line workspace.time) handler
      else (workspace, handler)
    let (workspace, rest) := workspace.handle notice rest
    (workspace, handler :: rest)

/-- Reports a notice to the log. -/
def report (workspace : Workspace) (notice : Notice) : Workspace :=
  if workspace.log.passes notice then
    let (workspace, handlers) := workspace.handle notice workspace.log.handlers
    { workspace with
      log := { workspace.log with handlers }
      notices := workspace.notices ++ [notice] }
  else workspace

/-! ## Files -/

/-- Moves a file to a place where another file may be, but no directory. -/
def move (workspace : Workspace) (source target : Path) : Except Cause Workspace := do
  let content ← Tree.read workspace.files source
  let sourcePlace ← Tree.locate workspace.files source
  let targetPlace ← Tree.locateForWriting workspace.files target
  return { workspace with
    files := Tree.put (Keyed.erase sourcePlace workspace.files) targetPlace (.file content)
    log := { workspace.log with
      handlers := workspace.log.handlers.map (·.follow sourcePlace targetPlace) } }

end Workspace

/-- Reports a notice to the log. -/
def report (notice : Notice) : Action Unit := modify (·.report notice)

/-- Writes to the standard output, which takes no surrogates. -/
def print (text : CodePoints) : Attempt Unit := do
  match encodable text with
  | .ok text => modify fun workspace => { workspace with output := workspace.output ++ text }
  | .error fault => throw (.notEncodable fault)

/-- Writes to the error output. -/
def printError (text : String) : Action Unit :=
  modify fun workspace => { workspace with errors := workspace.errors ++ text }

/-- A failure of the file system at a path. -/
def refuse {α : Type} (cause : Cause) (path : CodePoints) : Attempt α :=
  throw (.file { cause, path })

/-- The bytes of the file that a path leads to, where `shown` is the path as messages give it. -/
def bytesAt (files : Tree) (path : Path) (shown : CodePoints) : Except Failure ByteArray :=
  if path.hasNul then .error .nulInPath
  else if shown = [] then .error (.file { cause := .notFound, path := shown })
  else (Tree.read files path).mapError fun cause => .file { cause, path := shown }

/-- The place at which a file is to be written, where `shown` is its path as messages give it. -/
def placeFor (files : Tree) (path : Path) (shown : CodePoints) : Except Failure Place :=
  if path.hasNul then .error .nulInPath
  else if shown = [] then .error (.file { cause := .notFound, path := shown })
  else (Tree.locateForWriting files path).mapError fun cause => .file { cause, path := shown }

/-- Puts a file at a place. -/
def putFile (place : Place) (content : ByteArray) : Action Unit :=
  modify fun workspace => { workspace with files := Tree.put workspace.files place (.file content) }

/-- Writes a file, where `shown` is its path as messages give it. -/
def writeBytes (path : Path) (shown : CodePoints) (content : ByteArray) : Attempt Unit := do
  match placeFor (← get).files path shown with
  | .error failure => throw failure
  | .ok place => putFile place content

/-- Takes over the tree that a change of directories leaves, also when it was refused. -/
def changeFiles (change : Tree → Except Fault Unit × Tree) : Attempt Unit := do
  let (result, files) := change (← get).files
  modify fun workspace => { workspace with files }
  match result with
  | .ok () => return ()
  | .error fault => throw (.file fault)

/-- Makes a directory and those above it, as far as they are missing. -/
def makeDirectories (path : Path) : Attempt Unit := do
  if path.hasNul then throw .nulInPath
  changeFiles (Tree.makeDirectories · path)

end CodeMarkup
