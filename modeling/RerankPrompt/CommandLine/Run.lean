import RerankPrompt.CommandLine.Invocation
import RerankPrompt.Input
import RerankPrompt.Log.Output
import RerankPrompt.Text.EscapeSequence

/-!
# Running a command line

What a command line asks for is done by actions, one after the other, until one of them fails: the
console is set up, then the log records are written, then the values are printed. So a wrong level
leaves nothing printed (`Invocation.run_of_unknown`), and with a known one all is done
(`Invocation.run_of_name`). What is printed loses its terminal escape sequences, each value by itself.
-/

namespace RerankPrompt.CommandLine

/-- How a command line ends, with what is printed by then. -/
inductive Outcome where
  | completed (printed : String) (written : Log.Output)
  | failed (printed : String) (failure : Failure)
deriving DecidableEq

namespace Outcome

def exitCode : Outcome → Nat
  | .completed _ _ => 0
  | .failed _ failure => failure.exitCode

/-- What is printed on the standard output. -/
def printed : Outcome → String
  | .completed printed _ => printed
  | .failed printed _ => printed

end Outcome

/-- A text as it is printed where no terminal reads it. -/
def plain (text : String) : String :=
  String.ofList (Text.EscapeSequence.strip text.toList)

/-! ## Actions -/

/-- One thing that a command does. -/
inductive Action where
  /-- Removes all handlers and sets the console up. -/
  | setUp (level : String) (structured : Bool)
  /-- Writes a log record. -/
  | log (record : Log.Record)
  /-- Prints a value. -/
  | print (value : String)
deriving DecidableEq

/-- What has come of the actions so far. -/
structure Progress where
  logging : Log.Logging := {}
  printed : String := ""
  written : Log.Output := .text ""

namespace Progress

/-- What comes of one more action. Only a set-up can fail. -/
def perform (progress : Progress) : Action → Except Log.UnknownLevel Progress
  | .setUp level structured => do
    let _ ← Log.Level.parse level
    return { progress with logging := .setUp level structured }
  | .log record =>
    return { progress with
      written := progress.written.append (progress.logging.written [record]) }
  | .print value => return { progress with printed := progress.printed ++ plain value }

/-- Performs actions until one of them fails. What is printed by then stays printed. -/
def execute (progress : Progress) : List Action → Outcome
  | [] => .completed progress.printed progress.written
  | action :: rest =>
    match progress.perform action with
    | .ok next => next.execute rest
    | .error unknown => .failed progress.printed (.unknownLevel unknown)

theorem execute_setUp_of_unknown {level : String} {unknown : Log.UnknownLevel}
    (h : Log.Level.parse level = .error unknown) (progress : Progress) (structured : Bool)
    (rest : List Action) :
    progress.execute (.setUp level structured :: rest)
      = .failed progress.printed (.unknownLevel unknown) := by
  rw [execute, perform, h]
  rfl

theorem execute_setUp_name (progress : Progress) (threshold : Log.Level) (structured : Bool)
    (rest : List Action) :
    progress.execute (.setUp threshold.name structured :: rest)
      = execute { progress with logging := ⟨[], some ⟨threshold, structured⟩⟩ } rest := by
  rw [execute, perform, Log.Level.parse_eq_ok_iff.mpr rfl, Log.Logging.setUp_name]
  rfl

theorem execute_logs (progress : Progress) (records : List Log.Record) (rest : List Action) :
    progress.execute (records.map .log ++ rest)
      = execute { progress with
          written := progress.written.append (progress.logging.written records) } rest := by
  induction records generalizing progress with
  | nil => rw [Log.Logging.written_nil, Log.Output.append_empty]; rfl
  | cons record records ih =>
    have happend := progress.logging.written_append [record] records
    rw [List.singleton_append] at happend
    rw [List.map_cons, List.cons_append, execute, perform, happend, ← Log.Output.append_assoc]
    exact ih _

theorem execute_prints (progress : Progress) (values : List String) :
    progress.execute (values.map .print)
      = .completed (progress.printed ++ String.join (values.map plain)) progress.written := by
  induction values generalizing progress with
  | nil => rw [List.map_nil, List.map_nil, String.join_nil, String.append_empty]; rfl
  | cons value values ih =>
    rw [List.map_cons, List.map_cons, String.join_cons, ← String.append_assoc]
    exact ih _

end Progress

namespace Request

/-- The values that a request prints, one after the other. -/
def values : Request → List String
  | .detect model => [if Model.needsTemplate model then "true\n" else "false\n"]
  | .format query document model instruction =>
    ((Builder.ofModel model).build query document instruction).printed

/-- The log records of a request. -/
def records : Request → List Log.Record
  | .detect _ => []
  | .format _ _ model instruction =>
    let builder := Builder.ofModel model
    builder.announcement :: builder.remarks instruction

end Request

namespace Invocation

/-- What is done for an invocation, in this order. -/
def actions (invocation : Invocation) : List Action :=
  .setUp invocation.level invocation.structured ::
    (invocation.request.records.map .log ++ invocation.request.values.map .print)

/-- Does what an invocation asks for. -/
def run (invocation : Invocation) : Outcome :=
  Progress.execute {} invocation.actions

/-- An invocation with a known level completes, and writes as the console of that level does. -/
theorem run_of_name {invocation : Invocation} {threshold : Log.Level}
    (h : threshold.name = invocation.level) :
    invocation.run = .completed (String.join (invocation.request.values.map plain))
      (Log.Console.write ⟨threshold, invocation.structured⟩ invocation.request.records) := by
  rw [run, actions, ← h, Progress.execute_setUp_name, Progress.execute_logs,
    Progress.execute_prints, String.empty_append, Log.Output.empty_append]
  rfl

/-- An invocation with an unknown level fails before anything is printed. -/
theorem run_of_unknown {invocation : Invocation} {unknown : Log.UnknownLevel}
    (h : Log.Level.parse invocation.level = .error unknown) :
    invocation.run = .failed "" (.unknownLevel unknown) :=
  Progress.execute_setUp_of_unknown h {} _ _

end Invocation

/-- Runs a command line. Nothing is done for arguments that are not read. -/
def run (arguments : List String) : Outcome :=
  match Invocation.ofArguments arguments with
  | .ok invocation => invocation.run
  | .error error => .failed "" (.usage error)

theorem run_of_ofArguments {arguments : List String} {invocation : Invocation}
    (h : Invocation.ofArguments arguments = .ok invocation) : run arguments = invocation.run := by
  rw [run, h]

/-- A command line that is read, with an unknown level, fails before anything is printed. -/
theorem run_of_unknown_level {arguments : List String} {invocation : Invocation}
    {unknown : Log.UnknownLevel} (hread : Invocation.ofArguments arguments = .ok invocation)
    (hparse : Log.Level.parse invocation.level = .error unknown) :
    run arguments = .failed "" (.unknownLevel unknown) :=
  (run_of_ofArguments hread).trans (Invocation.run_of_unknown hparse)

/-- A command line that is read, with a known level, completes. -/
theorem run_of_known_level {arguments : List String} {request : Request} {threshold : Log.Level}
    {structured : Bool}
    (h : Invocation.ofArguments arguments = .ok ⟨request, threshold.name, structured⟩) :
    run arguments = .completed (String.join (request.values.map plain))
      (Log.Console.write ⟨threshold, structured⟩ request.records) :=
  (run_of_ofArguments h).trans (Invocation.run_of_name rfl)

theorem run_of_accepted {arguments : List String} {invocation : Invocation}
    (hread : Invocation.ofArguments arguments = .ok invocation)
    (haccepted : (run arguments).exitCode = 0) :
    ∃ threshold : Log.Level, threshold.name = invocation.level ∧
      run arguments = .completed (String.join (invocation.request.values.map plain))
        (Log.Console.write ⟨threshold, invocation.structured⟩ invocation.request.records) := by
  rw [run_of_ofArguments hread] at haccepted ⊢
  cases hparse : Log.Level.parse invocation.level with
  | ok threshold =>
    have hname := Log.Level.parse_eq_ok_iff.mp hparse
    exact ⟨threshold, hname, Invocation.run_of_name hname⟩
  | error unknown =>
    rw [Invocation.run_of_unknown hparse] at haccepted
    cases haccepted

end RerankPrompt.CommandLine
