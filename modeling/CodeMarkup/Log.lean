import CodeMarkup.Failure
import CodeMarkup.Keyed
import CodeMarkup.Log.Notice
/-!
The state of logging. Loggers have dotted names, and a logger without a level has that of the nearest
one above it that has one. Handlers take the notices that pass: files, the console, or nothing. What
lies above a name with an empty part in it depends on which loggers there are.
-/

namespace CodeMarkup

open CodeMarkup.Text CodeMarkup.Files CodeMarkup.Log

namespace Log

/-! ## Levels -/

/-- The levels that have names. -/
def levelNames : List (String × Nat) :=
  [("NOTSET", 0), ("DEBUG", 10), ("INFO", 20), ("WARNING", 30), ("WARN", 30), ("ERROR", 40),
   ("CRITICAL", 50), ("FATAL", 50)]

/-- The level where none is set or a name is unknown. -/
def usualLevel : Nat := 30

/-- The shape of the lines of a log. Its name, in capitals, is taken and stands for no level. -/
def lineShape : String := "%(levelname)s:%(name)s:%(message)s"

/-- The three ways to write the shape of a line, as messages show them. Their name is taken too. -/
def lineStyles : String :=
  "\x7b'%': (<class 'logging.PercentStyle'>, '" ++ lineShape ++
  "'), '\x7b': (<class 'logging.StrFormatStyle'>, '\x7blevelname\x7d:\x7bname\x7d:\x7bmessage\x7d'), " ++
  "'$': (<class 'logging.StringTemplateStyle'>, '$\x7blevelname\x7d:$\x7bname\x7d:$\x7bmessage\x7d')\x7d"

/-- The capital form of a letter in a level name. The dotless `ı` and the long `ſ` are forms of `i` and
`s`, and the two ligatures of `s` and `t` are taken apart. -/
def capital (c : Char) : List Char :=
  if c = 'ı' then ['I']
  else if c = 'ſ' then ['S']
  else if c = 'ﬅ' ∨ c = 'ﬆ' then ['S', 'T']
  else [c.toUpper]

/-- A level name in capitals. -/
def capitals (name : String) : String := String.ofList (name.toList.flatMap capital)

/-- The level of a name; case does not count, and unknown names mean the usual level. -/
def levelNamed (name : String) : Except Failure Nat :=
  let name := capitals name
  if name = "BASIC_FORMAT" then .error (.unknownLevel lineShape)
  else if name = "_STYLES" then .error (.noLevel lineStyles)
  else .ok ((levelNames.lookup name).getD usualLevel)

/-! ## Handlers -/

/-- Where a handler writes. -/
inductive Target
  /-- To a file, from this position on. -/
  | file (place : Place) (position : Nat)
  /-- To a file that is no longer in the tree or was closed. Nothing comes of what is written. -/
  | lostFile
  | console
  | nowhere
  deriving DecidableEq, Repr

/-- A handler and the level from which on it takes notices. -/
structure Handler where
  target : Target
  level : Nat
  deriving DecidableEq, Repr

end Log

/-- The loggers and the handlers, which belong to the program's own logger. -/
structure Log where
  /-- The levels of the loggers that there are, 0 where none is set. -/
  levels : Keyed String Nat := []
  handlers : List Log.Handler := []
  deriving DecidableEq, Repr

namespace Log

/-- The name of the logger that is handed out for a name: a name that starts like that of the program's
own logger is kept, and any other is put below it. -/
def loggerName (name : String) : String :=
  if programLogger.toList.isPrefixOf name.toList then name else programLogger ++ "." ++ name

/-- The parts of a name between its dots, last one first. -/
def partsOf (name : String) : List (List Char) := (splitOn '.' name.toList).reverse

/-- The name that parts make, last one first. -/
def nameOf (parts : List (List Char)) : String := join "." (parts.reverse.map String.ofList)

/-- The level set for a logger itself, 0 if there is none. -/
def ownLevel (log : Log) (logger : String) : Nat := (Keyed.get? logger log.levels).getD 0

/-- The level found from the name with these parts upwards, last part first. The part after the last dot
is left out at each step. Where there is no logger, an empty part takes the one before it along, so
that the logger there is passed over. -/
def levelFrom (log : Log) : List (List Char) → Nat
  | [] => usualLevel
  | part :: rest =>
    match Keyed.get? (nameOf (part :: rest)) log.levels with
    | some 0 => levelFrom log rest
    | some level => level
    | none => match part, rest with
      | [], _ :: rest => levelFrom log rest
      | _, rest => levelFrom log rest

/-- The level that counts for a logger. -/
def level (log : Log) (logger : String) : Nat :=
  if log.ownLevel logger = 0 then levelFrom log (partsOf logger).tail else log.ownLevel logger

/-- Whether a notice passes its logger. -/
def passes (log : Log) (notice : Notice) : Bool :=
  log.level notice.logger ≤ notice.severity.level

/-- Sets the level of a logger. -/
def setLevel (log : Log) (logger : String) (level : Nat) : Log :=
  { log with levels := Keyed.set logger level log.levels }

/-- Hands out the logger for a name. From then on there is one. -/
def handOut (log : Log) (name : String) : String × Log :=
  let logger := loggerName name
  (logger, log.setLevel logger (log.ownLevel logger))

/-! ## Files that handlers hold open -/

/-- What becomes of a handler when its file is closed. -/
def Handler.close (handler : Handler) : Handler :=
  match handler.target with
  | .file _ _ => { handler with target := .lostFile }
  | _ => handler

/-- Closes the files of all handlers. The handlers stay. -/
def closeFiles (log : Log) : Log := { log with handlers := log.handlers.map Handler.close }

/-- What becomes of a handler when a file is moved over another one. -/
def Handler.follow (handler : Handler) (source target : Place) : Handler :=
  match handler.target with
  | .file place position =>
    if place = source then { handler with target := .file target position }
    else if place = target then { handler with target := .lostFile }
    else handler
  | _ => handler

end Log

end CodeMarkup
