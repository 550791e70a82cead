import CodeMarkup.Files.Path
import CodeMarkup.Text.Quoted
/-!
The switches of the command line: how they are spelled and whether they take a value. A long switch may
be shortened as long as only one fits, and its value may follow after an equals sign.
-/

namespace CodeMarkup.Command

open CodeMarkup.Files CodeMarkup.Text

/-- A switch. -/
inductive Switch
  | help
  | theme
  | output
  | themesDir
  | inlineCode
  | listThemes
  | defaultTheme
  | level
  | logFile
  | logConsole
  | traceThemes
  deriving DecidableEq, Repr

namespace Switch

/-- Every switch, in the order of the help text. -/
def all : List Switch :=
  [help, theme, output, themesDir, inlineCode, listThemes, defaultTheme, level, logFile, logConsole,
   traceThemes]

/-- The spellings of a switch. -/
def spellings : Switch → List String
  | help => ["-h", "--help"]
  | theme => ["-t", "--theme"]
  | output => ["-o", "--output"]
  | themesDir => ["--themes-dir"]
  | inlineCode => ["--inline"]
  | listThemes => ["--list-themes"]
  | defaultTheme => ["--set-default-theme"]
  | level => ["-l", "--loglevel"]
  | logFile => ["--logfile"]
  | logConsole => ["--log-console"]
  | traceThemes => ["--trace-themes"]

/-- Whether a value belongs to the switch. -/
def takesValue : Switch → Bool
  | theme | output | themesDir | defaultTheme | level | logFile => true
  | help | inlineCode | listThemes | logConsole | traceThemes => false

/-- The switch as error messages name it. -/
def label (switch : Switch) : String := join "/" switch.spellings

/-- Every spelling with its switch, in order. -/
def table : List (String × Switch) :=
  all.flatMap fun switch => switch.spellings.map fun spelling => (spelling, switch)

/-- The switch with this very spelling. -/
def spelled? (spelling : String) : Option Switch := table.lookup spelling

end Switch

/-- What is wrong with a command line. -/
inductive UsageError
  | ambiguous (argument : String) (fitting : List String)
  | valueMissing (switch : Switch)
  | valueIgnored (switch : Switch) (given : String)
  | badLevel (given : String)
  | unrecognized (arguments : List String)
  deriving DecidableEq, Repr

/-- The levels that may be chosen. -/
def levelChoices : List String := ["DEBUG", "INFO", "WARNING", "ERROR", "CRITICAL"]

namespace UsageError

/-- A complaint about a switch. -/
def about (switch : Switch) (complaint : String) : String :=
  "argument " ++ switch.label ++ ": " ++ complaint

/-- The error in words. -/
def message : UsageError → String
  | ambiguous argument fitting =>
    "ambiguous option: " ++ argument ++ " could match " ++ join ", " fitting
  | valueMissing switch => about switch "expected one argument"
  | valueIgnored switch given => about switch ("ignored explicit argument " ++ quoted given)
  | badLevel given =>
    about .level ("invalid choice: " ++ quoted given ++ " (choose from " ++
      join ", " (levelChoices.map fun (choice : String) => quoted choice) ++ ")")
  | unrecognized arguments => "unrecognized arguments: " ++ join " " arguments

end UsageError

/-- What an argument is by its looks. -/
inductive Argument
  | plain (text : String)
  /-- The mark after which every argument is plain. -/
  | mark
  /-- A switch, none if it looks like one but is not known, and the value in the same argument. -/
  | switch (text : String) (switch : Option Switch) (attached : Option (List Char))
  deriving DecidableEq, Repr

namespace Argument

/-- The argument as it was written. -/
def text : Argument → String
  | plain text => text
  | mark => "--"
  | switch text _ _ => text

/-- Whether a text looks like a negative number: digits of any script, perhaps with a point before
the last of them. A line end after it does not count. -/
def isNegativeNumber (digit : Char → Bool) : List Char → Bool
  | '-' :: rest =>
    let rest := if rest.getLast? = some '\n' then rest.dropLast else rest
    match rest.span digit with
    | (whole, []) => !whole.isEmpty
    | (_, '.' :: part) => !part.isEmpty && part.all digit
    | _ => false
  | _ => false

/-- The part before the first equals sign and, if there is one, the part after it. -/
def splitEquals (s : List Char) : List Char × Option (List Char) :=
  match s.span (· ≠ '=') with
  | (before, _ :: after) => (before, some after)
  | (before, []) => (before, none)

/-- The spellings that an argument may be short for, with the value attached to it. -/
def fitting (s : List Char) : List (String × Switch × Option (List Char)) :=
  if ['-', '-'].isPrefixOf s then
    let (start, attached) := splitEquals s
    (Switch.table.filter fun (spelling, _) => start.isPrefixOf spelling.toList).map
      fun (spelling, found) => (spelling, found, attached)
  else
    (Switch.table.filter fun (spelling, _) => spelling.toList = s.take 2).map
      fun (spelling, found) => (spelling, found, some (s.drop 2))

/-- The switch that an argument spells out in full, perhaps with a value after an equals sign. -/
def spelledOut? (text : String) : Option Argument :=
  match Switch.spelled? text with
  | some found => some (.switch text (some found) none)
  | none => match splitEquals text.toList with
    | (_, none) => none
    | (start, attached) => (Switch.spelled? (String.ofList start)).map fun found =>
        .switch text (some found) attached

/-- What an argument is. One that starts with a hyphen is a switch, unless it is a hyphen alone or,
without being short for any switch, a negative number or something with a space in it. -/
def classify (digit : Char → Bool) (text : String) : Except UsageError Argument :=
  match text.toList with
  | '-' :: _ :: _ => match spelledOut? text with
    | some argument => .ok argument
    | none => match fitting text.toList with
      | [(_, found, attached)] => .ok (.switch text (some found) attached)
      | [] =>
        if isNegativeNumber digit text.toList || text.toList.contains ' ' then .ok (.plain text)
        else .ok (.switch text none none)
      | several => .error (.ambiguous text (several.map (·.1)))
  | _ => .ok (.plain text)

/-- What each argument is; after the mark all are plain. -/
def classifyAll (digit : Char → Bool) : List String → Except UsageError (List Argument)
  | [] => .ok []
  | "--" :: rest => .ok (.mark :: rest.map .plain)
  | text :: rest => do
    let argument ← classify digit text
    let arguments ← classifyAll digit rest
    return argument :: arguments

end Argument

end CodeMarkup.Command
