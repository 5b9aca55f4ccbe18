import RerankPrompt.Log.Record

/-!
# Where log records go

Records go to capture sinks, each with a threshold, and to at most one console, which has a
threshold as well and takes records of this library only. To set the console up removes all sinks
and any console first, and nothing comes back when the level asked for is unknown.
-/

namespace RerankPrompt.Log

/-- The handler of the error stream. -/
structure Console where
  threshold : Level
  /-- Whether records are written with all their parts rather than as lines. -/
  structured : Bool
deriving DecidableEq

/-- What a console has written: text, or records with all their parts. -/
inductive Output where
  | text (content : String)
  | records (records : List Record)
deriving DecidableEq

namespace Console

def accepts (console : Console) (record : Record) : Bool :=
  decide (console.threshold ≤ record.level) && record.isFrom packageName

/-- The console's output for a sequence of records. Where no record passes there is only the empty
text, whatever the form. -/
def write (console : Console) (records : List Record) : Output :=
  let accepted := records.filter console.accepts
  if console.structured && !accepted.isEmpty then .records accepted
  else .text (String.join (accepted.map Record.line))

end Console

/-- The sinks, in the order in which they were added, and the console. -/
structure Logging where
  sinks : List Level := []
  console : Option Console := none
deriving DecidableEq

namespace Logging

/-- Whether there is no handler at all. -/
def isSilent (logging : Logging) : Bool :=
  logging.sinks.isEmpty && logging.console.isNone

/-- The handlers with one more sink; none is added when the level is unknown. -/
def addSink (logging : Logging) (level : String) : Logging :=
  { logging with sinks := logging.sinks ++ (Level.ofName? level).toList }

/-- The handlers after a set-up: the console alone, or none when the level is unknown. -/
def setUp (level : String) (structured : Bool) : Logging where
  console := (Level.ofName? level).map fun threshold => ⟨threshold, structured⟩

theorem setUp_name (threshold : Level) (structured : Bool) :
    setUp threshold.name structured = ⟨[], some ⟨threshold, structured⟩⟩ := by
  rw [setUp, Level.ofName?_name]
  rfl

/-- The records that the sinks capture, one entry for each sink that accepts a record. -/
def captured (logging : Logging) (records : List Record) : List Record :=
  records.flatMap fun record =>
    (logging.sinks.filter fun threshold => decide (threshold ≤ record.level)).map fun _ => record

theorem captured_of_no_sinks (console : Option Console) (records : List Record) :
    captured ⟨[], console⟩ records = [] := by
  simp [captured]

/-- What the console writes; nothing where there is no console. -/
def written (logging : Logging) (records : List Record) : Output :=
  match logging.console with
  | some console => console.write records
  | none => .text ""

end Logging

end RerankPrompt.Log
