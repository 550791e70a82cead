import CodeMarkup.Command.Switch
import CodeMarkup.Log.Notice
import CodeMarkup.Text.CharClass
/-!
The options that a command line gives. Arguments are taken from left to right; the first plain one is
the source, and what has no place is an error once all else is in order.
-/

namespace CodeMarkup.Command

open CodeMarkup.Text

/-- The options of a run. -/
structure Options where
  source : Option String := none
  theme : Option Given := none
  output : Option Given := none
  themesDir : Option Given := none
  inlineCode : Bool := false
  listThemes : Bool := false
  defaultTheme : Option Given := none
  level : Given := .text "WARNING"
  logFile : Given := .text "/tmp/discussion_formatter.log"
  logConsole : Bool := false
  traceThemes : Bool := false
  deriving DecidableEq, Repr

/-- Why no run follows. -/
inductive Stop
  | help
  | error (error : UsageError)
  deriving DecidableEq, Repr

namespace Options

/-- Sets a switch without a value. -/
def enable (options : Options) : Switch → Except Stop Options
  | .help => .error .help
  | .inlineCode => .ok { options with inlineCode := true }
  | .listThemes => .ok { options with listThemes := true }
  | .logConsole => .ok { options with logConsole := true }
  | .traceThemes => .ok { options with traceThemes := true }
  | switch => .error (.error (.valueMissing switch))

/-- Gives a switch its value; a later value replaces an earlier one. A level has to be one of those that
may be chosen. -/
def assign (options : Options) (switch : Switch) (value : Given) : Except Stop Options :=
  match switch with
  | .theme => .ok { options with theme := some value }
  | .output => .ok { options with output := some value }
  | .themesDir => .ok { options with themesDir := some value }
  | .defaultTheme => .ok { options with defaultTheme := some value }
  | .logFile => .ok { options with logFile := value }
  | .level => match value with
    | .nothing => .ok { options with level := value }
    | .text name =>
      if levelChoices.contains name then .ok { options with level := value }
      else .error (.error (.badLevel name))
  | switch => .error (.error (.valueIgnored switch value.shown))

end Options

/-- Options on their way: what was not recognized so far goes with them. -/
structure Taken where
  options : Options := {}
  extras : List String := []
  deriving DecidableEq, Repr

namespace Taken

/-- Puts arguments aside that have no place. -/
def putAside (taken : Taken) (arguments : List String) : Taken :=
  { taken with extras := taken.extras ++ arguments }

/-- Takes a plain argument as the source. -/
def takeSource (taken : Taken) (source : String) : Taken :=
  { taken with options := { taken.options with source := some source } }

/-- The texts of arguments. -/
def texts (arguments : List Argument) : List String := arguments.map (·.text)

/-- What follows from letters attached to `-h`: each is a switch of its own, until one takes the rest
as its value. Nothing but the help comes of it, if it is well formed. -/
def afterHelp : List Char → List Argument → Stop
  | [], _ => .error (.valueIgnored .help "")
  | letter :: more, rest =>
    match Switch.spelled? (String.ofList ['-', letter]) with
    | none => .error (.valueIgnored .help (String.ofList (letter :: more)))
    | some switch => match switch.takesValue, more, rest with
      | false, [], _ => .help
      | false, _ :: _, _ => afterHelp more rest
      | true, [], .plain _ :: _ => .help
      | true, [], _ => .error (.valueMissing switch)
      | true, _ :: _, _ => .help

/-- A switch that needs no value, with a value attached. -/
def rejectAttached (switch : Switch) (value : List Char) (short : Bool) (rest : List Argument) :
    Stop :=
  if short then afterHelp value rest else .error (.valueIgnored switch (String.ofList value))

/-- What an attached value gives: the mark `--` is taken away. -/
def attachedValue (value : List Char) : Given :=
  if value = ['-', '-'] then .nothing else .text (String.ofList value)

/-- Whether an argument spells its switch with one hyphen. -/
def isShort (text : String) : Bool := !(['-', '-'].isPrefixOf text.toList)

/-- Takes arguments from left to right. -/
def takeAll (taken : Taken) : List Argument → Except Stop Taken
  | [] => .ok taken
  | .plain text :: .mark :: rest =>
    if taken.options.source = none then .ok ((taken.takeSource text).putAside (texts rest))
    else .ok (taken.putAside (text :: "--" :: texts rest))
  | .plain text :: rest =>
    if taken.options.source = none then (taken.takeSource text).takeAll rest
    else (taken.putAside [text]).takeAll rest
  | .mark :: rest =>
    if taken.options.source = none then match rest with
      | [] => .ok taken
      | source :: rest => .ok ((taken.takeSource source.text).putAside (texts rest))
    else .ok (taken.putAside ("--" :: texts rest))
  | .switch text none _ :: rest => (taken.putAside [text]).takeAll rest
  | .switch text (some switch) (some attached) :: rest =>
    if switch.takesValue then
      match taken.options.assign switch (attachedValue attached) with
      | .ok options => { taken with options }.takeAll rest
      | .error stop => .error stop
    else .error (rejectAttached switch attached (isShort text) rest)
  | .switch _ (some switch) none :: rest =>
    if switch.takesValue then match rest with
      | .plain value :: rest => match taken.options.assign switch (.text value) with
        | .ok options => { taken with options }.takeAll rest
        | .error stop => .error stop
      | _ => .error (.error (.valueMissing switch))
    else match taken.options.enable switch with
      | .ok options => { taken with options }.takeAll rest
      | .error stop => .error stop

end Taken

/-- The options that arguments give. -/
def Options.ofArguments (arguments : List String) : Except Stop Options :=
  match Argument.classifyAll (fun c => (decimalValue? c).isSome) arguments with
  | .error error => .error (.error error)
  | .ok arguments => match Taken.takeAll {} arguments with
    | .error stop => .error stop
    | .ok taken =>
      if taken.extras = [] then .ok taken.options else .error (.error (.unrecognized taken.extras))

end CodeMarkup.Command
