import RerankPrompt.Log.Output

/-!
# Records as JSON

One line of JSON for each record of a structured console, with the record's line, its level and the
module that wrote it.
-/

namespace RerankPrompt.Log.Json

/-- A character as it stands in a JSON string. -/
def encodeChar (c : Char) : List Char :=
  if c == '\x22' || c == '\x5c' then ['\x5c', c]
  else if c.toNat < 0x20 then
    ['\x5c', 'u', '0', '0', Nat.digitChar (c.toNat / 16), Nat.digitChar (c.toNat % 16)]
  else [c]

def string (text : String) : String :=
  "\"" ++ String.ofList (text.toList.flatMap encodeChar) ++ "\""

def object (members : List (String × String)) : String :=
  "\x7b" ++ ", ".intercalate (members.map fun (name, value) => string name ++ ": " ++ value)
    ++ "\x7d"

def level (level : Level) : String :=
  object [("icon", string level.icon), ("name", string level.name),
    ("no", toString level.severity)]

def record (record : Record) : String :=
  object [("text", string record.line),
    ("record", object [("level", level record.level), ("message", string record.message),
      ("name", match record.source with
        | some name => string name
        | none => "null")])]

/-- The output of a console as it is written to the error stream. -/
def output : Output → String
  | .text content => content
  | .records records => String.join (records.map fun entry => record entry ++ "\n")

/-- Outputs of one form are written one after the other, and nothing is lost. -/
theorem output_append {structured : Bool} {first second : Output}
    (hfirst : first.HasForm structured) (hsecond : second.HasForm structured) :
    output (first.append second) = output first ++ output second := by
  cases first with
  | text first =>
    cases second with
    | text second => rfl
    | records second =>
      rw [hfirst hsecond]
      exact String.empty_append.symm
  | records first =>
    cases second with
    | text second =>
      rw [hsecond hfirst]
      exact String.append_empty.symm
    | records second =>
      simp only [Output.append, output, List.map_append, String.join_append]

theorem output_concat {structured : Bool} {outputs : List Output}
    (h : ∀ output ∈ outputs, output.HasForm structured) :
    output (Output.concat outputs) = String.join (outputs.map output) := by
  induction outputs with
  | nil => rfl
  | cons first outputs ih =>
    obtain ⟨hfirst, hrest⟩ := List.forall_mem_cons.mp h
    rw [Output.concat_cons, output_append hfirst (Output.hasForm_concat hrest), ih hrest,
      List.map_cons, String.join_cons]

/-- What is written for records that come in groups goes to the error stream group by group. -/
theorem output_written_flatMap {α : Type} (logging : Logging) (xs : List α)
    (records : α → List Record) :
    output (logging.written (xs.flatMap records))
      = String.join (xs.map fun x => output (logging.written (records x))) := by
  obtain ⟨structured, hform⟩ := logging.exists_hasForm_written
  have hmap : ∀ written ∈ xs.map fun x => logging.written (records x),
      written.HasForm structured :=
    List.forall_mem_map.mpr fun x _ => hform (records x)
  rw [logging.written_flatMap, output_concat hmap, List.map_map]
  rfl

end RerankPrompt.Log.Json
