import CodeMarkup.Files.Path
import CodeMarkup.Text.Quoted
/-!
Notices: what the log is told, by what it is about, with its severity, the logger it goes to and its
words. Words that differ from run to run, such as the cause of a failed read, are not part of a
notice; a mark stands for them. What was given for an option is told as it was given.
-/

namespace CodeMarkup

/-- What is given for an option: a text, or an empty list where every text was taken away. -/
inductive Given
  | text (s : String)
  | nothing
  deriving DecidableEq, Repr

namespace Given

/-- The text, unless it is empty. -/
def filled? : Given → Option String
  | text s => if s = "" then none else some s
  | nothing => none

/-- What was given, as notices show it. -/
def shown : Given → String
  | text s => s
  | nothing => "[]"

end Given

end CodeMarkup

namespace CodeMarkup.Log

open CodeMarkup.Text CodeMarkup.Files

/-- How severe a notice is. -/
inductive Severity
  | debug
  | info
  | warning
  deriving DecidableEq, Repr

namespace Severity

/-- The level of a severity. -/
def level : Severity → Nat
  | debug => 10
  | info => 20
  | warning => 30

/-- The severity in log lines. -/
def word : Severity → String
  | debug => "DEBUG"
  | info => "INFO"
  | warning => "WARNING"

end Severity

/-- The program's own logger, above all others. -/
def programLogger : String := "discussion_formatter"

/-- The logger of the settings. -/
def settingsLogger : String := "discussion_formatter.core.settings"

/-- The logger of theme lookup. -/
def themeLogger : String := "discussion_formatter.theme.loader"

/-- The logger of style resolution. -/
def styleLogger : String := "discussion_formatter.theme.resolver"

/-- The logger of highlighting. -/
def markupLogger : String := "discussion_formatter.render.html"

/-- A notice. -/
inductive Notice
  /-- Logging was set up; what was not given is shown as missing. -/
  | configured (level : String) (file : Option Given) (console traceThemes : Option Bool)
  | unreadableSettings (file : Path)
  | rejectedName (name : CodePoints)
  | failedLookup (name : CodePoints) (directory : Path)
  /-- No theme has this name, given as it was shown. -/
  | noTheme (shown : String)
  | unreadTheme (file : Path)
  | unparsedTheme (file : Path)
  | notAnObject (file : Path)
  | loadedTheme (name : CodePoints) (file : Path)
  | namedByFile (file : Path)
  | unknownTheme (name : CodePoints) (palette : String)
  | addedColor (style color : CodePoints)
  deriving DecidableEq, Repr

namespace Notice

/-- What stands for a cause. -/
def causeMark : String := "<cause>"

/-- What stands for something that is missing. -/
def missing : String := "None"

/-- Yes or no in a notice. -/
def truth : Option Bool → String
  | none => missing
  | some true => "True"
  | some false => "False"

/-- The severity of a notice. -/
def severity : Notice → Severity
  | unreadableSettings _ | rejectedName _ | failedLookup _ _ | unreadTheme _ | unparsedTheme _
  | notAnObject _ => .warning
  | unknownTheme _ _ => .info
  | configured _ _ _ _ | noTheme _ | loadedTheme _ _ | namedByFile _ | addedColor _ _ => .debug

/-- The logger of a notice. -/
def logger : Notice → String
  | configured _ _ _ _ => programLogger
  | unreadableSettings _ => settingsLogger
  | unknownTheme _ _ => markupLogger
  | addedColor _ _ => styleLogger
  | _ => themeLogger

/-- The words of a notice. -/
def message : Notice → CodePoints
  | configured level file console traceThemes =>
    "Logging configured: level=" ++ level ++ ", log_file=" ++ (file.map Given.shown).getD missing ++
      ", console=" ++ truth console ++ ", trace_themes=" ++ truth traceThemes
  | unreadableSettings file =>
    "Ignoring unreadable settings file " ++ file.toText ++ ": " ++ causeMark
  | rejectedName name => "Rejecting theme name with path components: " ++ quoted name
  | failedLookup name directory =>
    "Cannot look up theme " ++ quoted (name.take 40) ++ " in " ++
      directory.toText ++ ": " ++ causeMark
  | noTheme shown => "No external theme named " ++ shown
  | unreadTheme file => "Failed to read theme file " ++ file.toText ++ ": " ++ causeMark
  | unparsedTheme file => "Failed to parse theme file " ++ file.toText ++ ": " ++ causeMark
  | notAnObject file => "Theme file " ++ file.toText ++ " does not contain a JSON object"
  | loadedTheme name file => "Loaded theme " ++ quoted name ++ " from " ++ file.toText
  | namedByFile file =>
    "Using file name for unparseable theme " ++ file.toText ++ ": " ++ causeMark
  | unknownTheme name palette =>
    "Unknown theme " ++ quoted name ++ ", using palette " ++ quoted palette
  | addedColor style color => "Style " ++ quoted style ++ " has no color, prepending " ++ color

/-- What stands for the time where none is known; it takes as much room as a time does. -/
def noTime : String := "0000-00-00 00:00:00,000"

/-- The notice as a line of a log. -/
def line (notice : Notice) (time : String) : CodePoints :=
  time ++ " - " ++ notice.logger ++ " - " ++ notice.severity.word ++ " - " ++ notice.message ++ "\n"

end Notice

end CodeMarkup.Log
