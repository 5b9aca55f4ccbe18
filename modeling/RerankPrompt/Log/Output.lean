import RerankPrompt.Log.Routing

/-!
# Outputs one after another

What a console writes for two groups of records is what it writes for each of them, put together
(`Console.write_append`), and so for any number of groups (`Logging.written_flatMap`). A console writes
in one form all the time (`Console.hasForm_write`). In either form the empty text stands for nothing
written, so it is all the text that ever meets records, and nothing is lost.
-/

namespace RerankPrompt.Log

namespace Output

/-- A console of this form may write the output: records or nothing if it is structured, else text. -/
def HasForm (structured : Bool) : Output → Prop
  | .text content => structured = true → content = ""
  | .records _ => structured = true

/-- One output of a console after another. -/
def append : Output → Output → Output
  | .text first, .text second => .text (first ++ second)
  | .text _, .records second => .records second
  | .records first, .text _ => .records first
  | .records first, .records second => .records (first ++ second)

def concat (outputs : List Output) : Output :=
  outputs.foldr append (.text "")

@[simp]
theorem empty_append (output : Output) : append (.text "") output = output := by
  cases output <;> simp [append]

@[simp]
theorem append_empty (output : Output) : output.append (.text "") = output := by
  cases output <;> simp [append]

theorem append_assoc (first second third : Output) :
    (first.append second).append third = first.append (second.append third) := by
  cases first <;> cases second <;> cases third <;> simp [append, String.append_assoc]

theorem concat_cons (output : Output) (outputs : List Output) :
    concat (output :: outputs) = output.append (concat outputs) := rfl

theorem concat_eq_empty {outputs : List Output} (h : ∀ output ∈ outputs, output = .text "") :
    concat outputs = .text "" := by
  induction outputs with
  | nil => rfl
  | cons output outputs ih =>
    obtain ⟨rfl, hrest⟩ := List.forall_mem_cons.mp h
    rw [concat_cons, ih hrest, empty_append]

theorem hasForm_empty (structured : Bool) : HasForm structured (.text "") := fun _ => rfl

theorem HasForm.append {structured : Bool} {first second : Output} (hfirst : first.HasForm structured)
    (hsecond : second.HasForm structured) : (first.append second).HasForm structured := by
  cases first with
  | text first =>
    cases second with
    | text second =>
      intro h
      rw [hfirst h, hsecond h, String.append_empty]
    | records second => exact hsecond
  | records first => cases second <;> exact hfirst

theorem hasForm_concat {structured : Bool} {outputs : List Output}
    (h : ∀ output ∈ outputs, output.HasForm structured) : (concat outputs).HasForm structured := by
  induction outputs with
  | nil => exact hasForm_empty structured
  | cons output outputs ih =>
    obtain ⟨houtput, hrest⟩ := List.forall_mem_cons.mp h
    exact houtput.append (ih hrest)

end Output

theorem Console.hasForm_write (console : Console) (records : List Record) :
    (console.write records).HasForm console.structured := by
  unfold Console.write
  generalize records.filter console.accepts = accepted
  simp only
  split
  · next h => exact (Bool.and_eq_true_iff.mp h).1
  · next h =>
    intro hstructured
    have hempty : accepted = [] := by simpa [hstructured] using h
    rw [hempty]
    rfl

theorem Console.write_nil (console : Console) : console.write [] = .text "" := by
  unfold Console.write
  rw [List.filter_nil]
  cases console.structured <;> rfl

theorem Console.write_append (console : Console) (first second : List Record) :
    console.write (first ++ second) = (console.write first).append (console.write second) := by
  unfold Console.write
  rw [List.filter_append]
  generalize first.filter console.accepts = front
  generalize second.filter console.accepts = back
  cases console.structured with
  | false => simp [Output.append, String.join_append]
  | true =>
    -- a structured console writes text only where it has nothing to write
    cases front with
    | nil => simp
    | cons record front =>
      cases back with
      | nil => simp
      | cons other back => simp [Output.append]

/-! ## Records by groups -/

namespace Logging

variable (logging : Logging)

theorem written_nil : logging.written [] = .text "" := by
  unfold written
  cases logging.console with
  | none => rfl
  | some console => exact console.write_nil

theorem written_append (first second : List Record) :
    logging.written (first ++ second) = (logging.written first).append (logging.written second) := by
  unfold written
  cases logging.console with
  | none => rfl
  | some console => exact console.write_append first second

/-- All that is written goes through one console, if there is any. -/
theorem exists_hasForm_written :
    ∃ structured, ∀ records, (logging.written records).HasForm structured := by
  unfold written
  cases logging.console with
  | none => exact ⟨false, fun _ => Output.hasForm_empty false⟩
  | some console => exact ⟨console.structured, console.hasForm_write⟩

theorem captured_flatMap {α : Type} (xs : List α) (records : α → List Record) :
    logging.captured (xs.flatMap records) = xs.flatMap fun x => logging.captured (records x) := by
  unfold captured
  exact List.flatMap_assoc

/-- What the console writes for records that come in groups. -/
theorem written_flatMap {α : Type} (xs : List α) (records : α → List Record) :
    logging.written (xs.flatMap records)
      = Output.concat (xs.map fun x => logging.written (records x)) := by
  induction xs with
  | nil => exact logging.written_nil
  | cons x xs ih =>
    rw [List.flatMap_cons, written_append, ih, List.map_cons, Output.concat_cons]

end Logging

end RerankPrompt.Log
