import CodeMarkup.Command.Options
import CodeMarkup.Command.Usage
import CodeMarkup.Highlight
import CodeMarkup.Log.Setup
/-!
A run of the command: reads source text, from a file or from the standard input, and writes markup, to
a file or to the standard output; or lists the themes, or stores the default theme. What the file tree does
not tell is left to the host: how the standard input comes in, and how much the disk takes of an output file.
-/

namespace CodeMarkup.Command

open CodeMarkup.Files CodeMarkup.Log CodeMarkup.Palette CodeMarkup.Text

/-- What a run finds around it besides the file tree. -/
structure Host where
  /-- Whether carriage returns that come in on the standard input are made line feeds, as they are in files. -/
  unifiesInput : Bool
  /-- What the disk says to bytes for an output file that is open and empty: nothing if it takes them all, else
  how many it takes and why no more. -/
  refusal? : Place → ByteArray → Option (Nat × Cause)

/-- The text of bytes, with one kind of line end if this is asked for, or the words for why they are none. -/
def textOf (unified : Bool) (input : ByteArray) : Except String String :=
  match decodeUtf8 input with
  | .ok text => .ok (if unified then String.ofList (unifyLineEnds text.toList) else text)
  | .error fault => .error fault.message

/-- The words of a refusal of the file system. Other failures end the run. -/
def refusalWords {α : Type} : Failure → Attempt (Except String α)
  | .file fault => return .error fault.message
  | failure => throw failure

/-- The source text, or the words for why it cannot be read. -/
def readSource (host : Host) (source : Option String) (input : ByteArray) :
    Attempt (Except String String) := do
  match source with
  | none | some "-" => return textOf host.unifiesInput input
  | some path => match bytesAt (← get).files (Path.literal path) path with
    | .ok content => return textOf true content
    | .error failure => refusalWords failure

/-- What the standard output gets for markup: a line end is added where one is missing. -/
def printed (markup : CodePoints) : CodePoints :=
  if markup = [] ∨ markup.getLast? = some (.char '\n') then markup else markup ++ "\n"

/-- Writes as much to a file as the disk takes, and gives the words for why it is not all. -/
def fillFile (host : Host) (place : Place) (content : ByteArray) : Action (Except String Unit) := do
  match host.refusal? place content with
  | none =>
    putFile place content
    return .ok ()
  | some (taken, cause) =>
    putFile place (content.extract 0 taken)
    return .error cause.message

/-- Writes markup to the standard output or to a file, or gives the words for why it cannot. The file is
made empty before the markup is encoded, and a disk that refuses does so after that. -/
def writeMarkup (host : Host) (output : Option Given) (markup : CodePoints) :
    Attempt (Except String Unit) := do
  match output with
  | none =>
    print (printed markup)
    return .ok ()
  | some .nothing => throw (.pathNotText .arr)
  | some (.text path) => match placeFor (← get).files (Path.literal path) path with
    | .ok place =>
      putFile place ByteArray.empty
      match encodable markup with
      | .ok markup => fillFile host place markup.toUTF8
      | .error fault => throw (.notEncodable fault)
    | .error failure => refusalWords failure

/-- Prints names on lines of their own. -/
def printNames : List CodePoints → Attempt Unit
  | [] => return ()
  | name :: rest => do
    print ("  " ++ name ++ "\n")
    printNames rest

/-- Lists palettes and themes. -/
def listThemes (library : Theme.Library) : Attempt Unit := do
  print "Built-in palettes:\n"
  printNames (Registry.builtIn.ids.map CodePoints.ofString)
  print "External themes:\n"
  printNames (← library.names)

/-- The status of a run that did what it was to do. -/
def success : Nat := 0

/-- The status of a run that could not read its source or write its markup. -/
def unusable : Nat := 1

/-- The status of a run with a wrong command line. -/
def misused : Nat := 2

/-- Complains that something cannot be done with a path. -/
def complain (verb path words : String) : Action Nat := do
  printError ("Cannot " ++ verb ++ " " ++ path ++ ": " ++ words ++ "\n")
  return unusable

/-- The theme that the options name, or else the settings. -/
def themeName (options : Options) : Attempt Theme.Name := do
  match options.theme.bind Given.filled? with
  | some name => return .named name
  | none => return .ofValue (← Settings.lookup "theme")

/-- Reads source text and writes markup. -/
def renderSource (host : Host) (options : Options) (library : Theme.Library) (input : ByteArray) :
    Attempt Nat := do
  let name ← themeName options
  match ← readSource host options.source input with
  | .error words => complain "read" (options.source.getD Notice.missing) words
  | .ok source =>
    let markup ←
      if options.inlineCode then convertProse source name (some library)
      else highlight (some source) name (some library)
    match ← writeMarkup host options.output markup with
    | .error words => complain "write" ((options.output.map Given.shown).getD Notice.missing) words
    | .ok () => return success

/-- How the options set up logging. -/
def Options.logging (options : Options) : Except Failure Setup :=
  match options.level with
  | .nothing => .error (.levelNotText .arr)
  | .text level => .ok {
      level
      file := some options.logFile
      console := some options.logConsole
      traceThemes := some options.traceThemes }

/-- A run with these options. Answers its status. -/
def perform (host : Host) (options : Options) (input : ByteArray) : Attempt Nat := do
  configure (← MonadExcept.ofExcept options.logging)
  match options.defaultTheme.bind Given.filled? with
  | some name =>
    Settings.store "theme" (.str name)
    print ("Default theme set to " ++ name ++ "\n")
    return success
  | none =>
    let library ← match options.themesDir.bind Given.filled? with
      | some directory => pure (Theme.Library.withBundled (some directory))
      | none => Theme.Library.fromSettings
    if options.listThemes then
      listThemes library
      return success
    renderSource host options library input

/-- What the arguments ask for. Answers the status. -/
def answer (host : Host) (arguments : List String) (input : ByteArray) : Attempt Nat := do
  match Options.ofArguments arguments with
  | .error .help =>
    print help
    return success
  | .error (.error error) =>
    printError error.report
    return misused
  | .ok options => perform host options input

/-- A run of the command with these arguments and this standard input. Answers its status. When it ends,
in whatever way, the log files are closed. -/
def run (host : Host) (arguments : List String) (input : ByteArray) : Attempt Nat :=
  ExceptT.mk do
    let result ← (answer host arguments input).run
    modify fun workspace => { workspace with log := workspace.log.closeFiles }
    return result

end CodeMarkup.Command
