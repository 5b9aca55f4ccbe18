import RerankPrompt.Log.Level
import RerankPrompt.Text.Control
import RerankPrompt.Text.Quoted

/-!
# Failures of the command line

A command line fails before anything is printed: because the arguments are no use of the program, or
because the log level asked for is unknown.
-/

namespace RerankPrompt.CommandLine

/-- What is wrong with the arguments. -/
inductive UsageError where
  | missingCommand
  | unknownCommand (name : String)
  | unknownOption (name : String)
  /-- An option that takes a value is the last argument. -/
  | missingValue (option : String)
  /-- A value is attached to a flag. -/
  | unwantedValue (option : String)
  | missingArgument (parameter : String)
  /-- The arguments that are left when all parameters are filled. -/
  | extraArguments (values : List String)
deriving DecidableEq

/-- The wording of an error. What the user typed is repeated without its control characters: the name
of a command in quotes, all else as it is but for them. -/
def UsageError.message : UsageError → String
  | .missingCommand => "Missing command."
  | .unknownCommand name =>
    "No such command " ++ Text.Quoted.quote name ++ "."
  | .unknownOption name => "No such option: " ++ Text.visible name
  | .missingValue option => "Option \x27" ++ option ++ "\x27 requires an argument."
  | .unwantedValue option => "Option \x27" ++ option ++ "\x27 does not take a value."
  | .missingArgument parameter => "Missing argument \x27" ++ parameter ++ "\x27."
  | .extraArguments values =>
    "Got unexpected extra argument(s) (" ++ Text.visible (" ".intercalate values) ++ ")"

inductive Failure where
  | usage (error : UsageError)
  | unknownLevel (level : Log.UnknownLevel)
deriving DecidableEq

namespace Failure

def message : Failure → String
  | .usage error => error.message
  | .unknownLevel level => level.message

/-- The exit code tells wrong usage from all else. -/
def exitCode : Failure → Nat
  | .usage _ => 2
  | .unknownLevel _ => 1

end Failure

end RerankPrompt.CommandLine
