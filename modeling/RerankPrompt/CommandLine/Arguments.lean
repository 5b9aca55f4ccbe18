import RerankPrompt.CommandLine.Command
import RerankPrompt.CommandLine.Error
import RerankPrompt.Text.Search

/-!
# Reading arguments

The arguments of a command are read from left to right into items: flags, settings with their values
and positional arguments. A setting that has no value attached takes the next argument, whatever it
looks like. `--` ends the options, and all arguments after it are positional.
-/

namespace RerankPrompt.CommandLine

/-- One part of a command line, read. -/
inductive Item where
  | flag (structured : Bool)
  | setting (setting : Setting) (value : String)
  | positional (value : String)
deriving DecidableEq

/-- The argument that ends the options. -/
def terminator : String := "--"

/-- Whether an argument stands for itself where options are read: it starts with no dash, or is a
dash alone. -/
def isPositional (argument : String) : Bool :=
  match argument.toList with
  | '-' :: _ :: _ => false
  | _ => true

/-- The name of an option and the value attached to it, which the first `=` sets off. -/
def splitOption (argument : String) : String × Option String :=
  match Text.cut? ['='] argument.toList with
  | some (name, value) => (String.ofList name, some (String.ofList value))
  | none => (argument, none)

/-- The name by which an unknown option is reported: after a single dash its first letter only. -/
def reportedName (argument : String) : String :=
  match argument.toList with
  | '-' :: '-' :: _ => (splitOption argument).1
  | '-' :: c :: _ => String.ofList ['-', c]
  | _ => argument

/-- What one argument is where options are read. -/
inductive Reading where
  | terminator
  | item (item : Item)
  /-- A setting whose value is the next argument. -/
  | awaiting (setting : Setting)
  | refused (error : UsageError)
deriving DecidableEq

namespace Command

/-- How a command reads an argument that is an option. -/
def readOption (command : Command) (argument : String) : Reading :=
  let (name, value) := splitOption argument
  match flags.lookup name, command.setting? name, value with
  | some structured, _, none => .item (.flag structured)
  | some _, _, some _ => .refused (.unwantedValue name)
  | none, some setting, some value => .item (.setting setting value)
  | none, some setting, none => .awaiting setting
  | none, none, _ => .refused (.unknownOption (reportedName argument))

/-- How a command reads one argument. -/
def readArgument (command : Command) (argument : String) : Reading :=
  if argument == terminator then .terminator
  else if isPositional argument then .item (.positional argument)
  else command.readOption argument

/-- The items of a list of arguments, or the first error from the left. -/
def readItems (command : Command) : List String → Except UsageError (List Item)
  | [] => .ok []
  | argument :: rest =>
    match command.readArgument argument with
    | .terminator => .ok (rest.map .positional)
    | .item item => (command.readItems rest).map (item :: ·)
    | .awaiting setting =>
      match rest with
      | [] => .error (.missingValue setting.name)
      | value :: rest => (command.readItems rest).map (.setting setting value :: ·)
    | .refused error => .error error

/-- The command that a list of arguments names, after `--` or at its start, and what follows it. -/
def select (arguments : List String) : Except UsageError (Command × List String) :=
  match (if arguments.head? == some terminator then arguments.tail else arguments) with
  | [] => .error .missingCommand
  | name :: rest =>
    match ofName? name with
    | some command => .ok (command, rest)
    | none =>
      if isPositional name || name == terminator then .error (.unknownCommand name)
      else .error (.unknownOption (reportedName name))

end Command

end RerankPrompt.CommandLine
