import RerankPrompt.CommandLine.Run
import RerankPrompt.Log.Json

/-!
# The program

Runs its arguments as a command line. What a failed command line says goes to the error stream.
-/

open RerankPrompt

def main (arguments : List String) : IO UInt32 := do
  let outcome := CommandLine.run arguments
  IO.print outcome.printed
  match outcome with
  | .completed _ written => IO.eprint (Log.Json.output written)
  | .failed _ failure => IO.eprintln ("Error: " ++ failure.message)
  return outcome.exitCode.toUInt32
