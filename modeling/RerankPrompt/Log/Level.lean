/-!
# Log levels

The seven levels of log records, in ascending order of severity. A level is called by its exact
name; every other name is unknown.
-/

namespace RerankPrompt.Log

inductive Level where
  | trace
  | debug
  | info
  | success
  | warning
  | error
  | critical
deriving DecidableEq

/-- A name that no level has. -/
structure UnknownLevel where
  name : String
deriving DecidableEq

def UnknownLevel.message (unknown : UnknownLevel) : String :=
  "Level \x27" ++ unknown.name ++ "\x27 does not exist"

namespace Level

/-- All levels, the least severe first. -/
def all : List Level :=
  [.trace, .debug, .info, .success, .warning, .error, .critical]

def name : Level → String
  | .trace => "TRACE"
  | .debug => "DEBUG"
  | .info => "INFO"
  | .success => "SUCCESS"
  | .warning => "WARNING"
  | .error => "ERROR"
  | .critical => "CRITICAL"

def severity : Level → Nat
  | .trace => 5
  | .debug => 10
  | .info => 20
  | .success => 25
  | .warning => 30
  | .error => 40
  | .critical => 50

/-- The pictogram of a level; `\ufe0f` asks for the coloured form. -/
def icon : Level → String
  | .trace => "✏\ufe0f"
  | .debug => "🐞"
  | .info => "ℹ\ufe0f"
  | .success => "✅"
  | .warning => "⚠\ufe0f"
  | .error => "❌"
  | .critical => "☠\ufe0f"

instance : LE Level where
  le a b := a.severity ≤ b.severity

instance (a b : Level) : Decidable (a ≤ b) :=
  inferInstanceAs (Decidable (a.severity ≤ b.severity))

theorem le_trans {a b c : Level} (hab : a ≤ b) (hbc : b ≤ c) : a ≤ c := Nat.le_trans hab hbc

/-- The level with this name. -/
def ofName? (name : String) : Option Level :=
  all.find? fun level => level.name == name

/-- The level with this name, or the name that is not one. -/
def parse (name : String) : Except UnknownLevel Level :=
  match ofName? name with
  | some level => .ok level
  | none => .error ⟨name⟩

theorem mem_all (level : Level) : level ∈ all := by
  cases level <;> decide

@[simp]
theorem ofName?_name (level : Level) : ofName? level.name = some level := by
  cases level <;> decide

theorem ofName?_eq_some_iff {name : String} {level : Level} :
    ofName? name = some level ↔ level.name = name := by
  constructor
  · intro h
    simpa using List.find?_some h
  · rintro rfl
    exact ofName?_name level

theorem parse_eq_ok_iff {name : String} {level : Level} :
    parse name = .ok level ↔ level.name = name := by
  rw [← ofName?_eq_some_iff, parse]
  split <;> simp_all

theorem mem_names_iff {name : String} :
    name ∈ all.map Level.name ↔ ∃ level, parse name = .ok level := by
  simp only [List.mem_map, mem_all, true_and, parse_eq_ok_iff]

theorem parse_eq_error_iff {name : String} {unknown : UnknownLevel} :
    parse name = .error unknown ↔ unknown = ⟨name⟩ ∧ name ∉ all.map Level.name := by
  rw [mem_names_iff, parse]
  cases ofName? name with
  | some level => simp
  | none => simp [eq_comm]

end Level

end RerankPrompt.Log
