/-!
# Commands and their options

The two commands, the parameters that their positional arguments fill, and the options that they
know. A setting takes a value; the two flags switch structured log output on and off.
-/

namespace RerankPrompt.CommandLine

inductive Command where
  /-- Tells whether a model needs a template. -/
  | detect
  /-- Prints the input for a query and a document. -/
  | format
deriving DecidableEq

/-- An option that takes a value. -/
inductive Setting where
  | model
  | instruction
  | level
deriving DecidableEq

def Setting.name : Setting → String
  | .model => "--model-id"
  | .instruction => "--instruction"
  | .level => "--logger-level"

/-- The flags, with what each says of structured log output. -/
def flags : List (String × Bool) :=
  [("--json-output", true), ("--no-json-output", false)]

namespace Command

def all : List Command := [.detect, .format]

def name : Command → String
  | .detect => "detect"
  | .format => "format"

/-- The command with this name. -/
def ofName? (name : String) : Option Command :=
  all.find? fun command => command.name == name

/-- The parameters of a command, in the order in which positional arguments fill them. -/
def parameters : Command → List String
  | .detect => ["model_id"]
  | .format => ["query", "document"]

/-- The settings that a command knows. -/
def settings : Command → List Setting
  | .detect => [.level]
  | .format => [.model, .instruction, .level]

/-- The setting of a command with this name. -/
def setting? (command : Command) (name : String) : Option Setting :=
  command.settings.find? fun setting => setting.name == name

theorem ofName?_eq_some_iff {name : String} {command : Command} :
    ofName? name = some command ↔ command.name = name := by
  constructor
  · intro h
    simpa using List.find?_some h
  · rintro rfl
    cases command <;> decide

theorem setting?_eq_some_iff {command : Command} {name : String} {setting : Setting} :
    command.setting? name = some setting ↔ setting ∈ command.settings ∧ setting.name = name := by
  constructor
  · intro h
    exact ⟨List.mem_of_find?_eq_some h, by simpa using List.find?_some h⟩
  · rintro ⟨h, rfl⟩
    revert h
    cases command <;> cases setting <;> decide

end Command

end RerankPrompt.CommandLine
