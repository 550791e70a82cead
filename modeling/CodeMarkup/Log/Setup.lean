import CodeMarkup.Workspace
/-!
Setting up logging. The level and the handlers are replaced, the log file is opened afresh, and the two
loggers with a notice for every lookup or style are held at `INFO` unless they are asked for.
-/

namespace CodeMarkup.Log

open CodeMarkup.Files CodeMarkup.Text

/-- How logging is to be set up. -/
structure Setup where
  level : String := "WARNING"
  /-- The log file. It is used only for levels up to `INFO`. -/
  file : Option Given := none
  /-- Whether notices go to the console too; if this is not said, they do not. -/
  console : Option Bool := some false
  /-- Whether every lookup and style is noted; if this is not said, they are not. -/
  traceThemes : Option Bool := some false
  deriving DecidableEq, Repr

/-- The highest level with which a log file is used. -/
def fileLevel : Nat := 20

/-- A name followed where `..` takes back the name before. -/
def climb (start : Start × List CodePoints) (name : CodePoints) : Start × List CodePoints :=
  if name = ".." then
    match start with
    | (.here, []) => (.root, [])
    | (start, names) => (start, names.dropLast)
  else (start.1, start.2 ++ [name])

/-- A path without `..`. -/
def settled (path : Path) : Path :=
  let (start, names) := path.names.foldl climb (path.start, [])
  ⟨start, names⟩

namespace Setup

/-- The log file that is to be opened at this level. -/
def openedFile? (setup : Setup) (level : Nat) : Option String :=
  if level ≤ fileLevel then setup.file.bind Given.filled? else none

/-- The handlers at this level, given the place of the log file if one was opened. -/
def handlers (setup : Setup) (level : Nat) (file : Option Place) : List Handler :=
  let targets := (file.map fun place => Target.file place 0).toList ++
    (if setup.console = some true then [Target.console] else [])
  if targets.isEmpty then [⟨.nowhere, 0⟩] else targets.map fun target => ⟨target, level⟩

/-- The level of the loggers that are held back. -/
def traceLevel (setup : Setup) (level : Nat) : Nat :=
  if setup.traceThemes = some true then 0 else max level Severity.info.level

/-- The notice that logging is set up. -/
def notice (setup : Setup) : Notice :=
  .configured setup.level setup.file setup.console setup.traceThemes

/-- The first part: the new level counts and the old handlers are gone. -/
def start (level : Nat) (log : Log) : Log :=
  { log.setLevel programLogger level with handlers := [] }

/-- The last part, once the log file is open. -/
def finish (setup : Setup) (level : Nat) (file : Option Place) (log : Log) : Log :=
  let log := { log with handlers := setup.handlers level file }
  (log.setLevel themeLogger (setup.traceLevel level)).setLevel styleLogger (setup.traceLevel level)

end Setup

/-- Opens a log file: it is made empty. -/
def openFile (file : String) : Attempt Place := do
  let path := settled (Path.ofText file)
  match placeFor (← get).files path path.toText with
  | .error failure => throw failure
  | .ok place =>
    putFile place ByteArray.empty
    return place

/-- Opens the log file of a setup, if it has one that is used at this level. -/
def Setup.openedPlace? (setup : Setup) (level : Nat) : Attempt (Option Place) :=
  match setup.openedFile? level with
  | none => return none
  | some file => some <$> openFile file

/-- Sets up logging. When the name of the level is refused, nothing has changed; when the log file
cannot be opened, the level has already changed and there are no handlers. -/
def configure (setup : Setup) : Attempt Unit := do
  let level ← MonadExcept.ofExcept (levelNamed setup.level)
  modify fun workspace => { workspace with log := Setup.start level workspace.log }
  let file ← setup.openedPlace? level
  modify fun workspace => { workspace with log := setup.finish level file workspace.log }
  report setup.notice

end CodeMarkup.Log
