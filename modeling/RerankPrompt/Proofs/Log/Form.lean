import RerankPrompt.Log.Json

/-!
# The two forms of console output

A console writes the records that it accepts, as lines or with all their parts. Which of the two it
does changes nothing about which records these are, so its lines are the texts of the records that it
would write with all their parts (`Output.isTextOf_ofRecords`). A console with a higher threshold
accepts, of these records, those that reach it (`Console.filter_accepts_of_le`).
-/

namespace RerankPrompt.Log

namespace Output

/-- The output that these records make: with all their parts, if there are any, or as lines. -/
def ofRecords (structured : Bool) (records : List Record) : Output :=
  if structured && !records.isEmpty then .records records
  else .text (String.join (records.map Record.line))

/-- The records that are written with all their parts. -/
def entries : Output → List Record
  | .text _ => []
  | .records entries => entries

/-- One output is text, and it is the texts of the records of the other, in their order. The empty text
stands for no record. -/
structure IsTextOf (text structured : Output) : Prop where
  text_eq : text = .text (String.join (structured.entries.map Record.line))
  line_eq : ∀ record ∈ structured.entries, record.line = record.message ++ "\n"
  /-- The text of a record is what its JSON starts with. -/
  json_eq : ∀ record ∈ structured.entries, ∃ members,
    Json.record record = Json.object (("text", Json.string record.line) :: members)
  eq_empty_iff : text = .text "" ↔ structured.entries = []
  structured_eq : structured.entries = [] → structured = .text ""

theorem ofRecords_nil (structured : Bool) : ofRecords structured [] = .text "" := by
  cases structured <;> rfl

theorem entries_ofRecords (records : List Record) : (ofRecords true records).entries = records := by
  cases records <;> rfl

theorem ofRecords_false (records : List Record) :
    ofRecords false records = .text (String.join (records.map Record.line)) := rfl

/-- Every record has a line, and no line is empty. -/
theorem join_lines_eq_empty_iff {records : List Record} :
    String.join (records.map Record.line) = "" ↔ records = [] := by
  constructor
  · intro h
    cases records with
    | nil => rfl
    | cons record records =>
      have hlength := congrArg String.length h
      simp [Record.line] at hlength
  · rintro rfl
    rfl

theorem isTextOf_ofRecords (records : List Record) :
    IsTextOf (ofRecords false records) (ofRecords true records) where
  text_eq := by rw [entries_ofRecords, ofRecords_false]
  line_eq := fun _ _ => rfl
  json_eq := fun _ _ => ⟨_, rfl⟩
  eq_empty_iff := by
    rw [entries_ofRecords, ofRecords_false, Output.text.injEq, join_lines_eq_empty_iff]
  structured_eq := by
    intro h
    rw [entries_ofRecords] at h
    rw [h, ofRecords_nil]

end Output

namespace Console

theorem write_eq_ofRecords (console : Console) (records : List Record) :
    console.write records = Output.ofRecords console.structured (records.filter console.accepts) :=
  rfl

theorem accepts_mk (threshold : Level) (structured : Bool) :
    Console.accepts ⟨threshold, structured⟩
      = fun record => decide (threshold ≤ record.level) && record.isFrom packageName := rfl

/-- A higher threshold lets through those that reach it of what a lower one lets through. -/
theorem filter_accepts_of_le {low high : Level} (h : low ≤ high) (structured : Bool)
    (records : List Record) :
    records.filter (Console.accepts ⟨high, structured⟩)
      = (records.filter (Console.accepts ⟨low, structured⟩)).filter
          fun record => decide (high ≤ record.level) := by
  rw [List.filter_filter]
  apply List.filter_congr
  intro record _
  rw [accepts_mk, accepts_mk]
  by_cases hhigh : high ≤ record.level
  · simp [hhigh, Level.le_trans h hhigh]
  · simp [hhigh]

end Console

end RerankPrompt.Log
