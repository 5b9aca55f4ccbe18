import Mathlib.Data.List.Forall2
import RerankPrompt.CommandLine.Run
import RerankPrompt.Proofs.Session.Console

/-!
# Text and records carry the same

The form that a set-up asks for decides how the console writes and nothing else. So of two sessions, or
of two command lines, that differ in their forms alone, one writes as lines what the other writes as
records (`run_forms`).
-/

namespace RerankPrompt

namespace Session

/-- A step that asks for lines, if it sets the console up. -/
def Step.asText : Step → Step
  | .logging (.setUp level _) => .logging (.setUp level false)
  | step => step

/-! ## What the forms leave as it is -/

theorem Step.sameButConsole_asText (step : Step) : step.SameButConsole step.asText := by
  cases step with
  | object step => exact .same _
  | logging step =>
    cases step with
    | addSink level => exact .same _
    | setUp level structured => exact .form level structured false
    | emit source level message => exact .same _

theorem Step.records_asText (scope : Scope) (step : Step) :
    step.asText.records scope = step.records scope := by
  cases step with
  | object step => rfl
  | logging step => cases step <;> rfl

theorem Step.setUp?_asText (step : Step) :
    step.asText.setUp? = step.setUp?.map fun setUp => (setUp.1, false) := by
  cases step with
  | object step => rfl
  | logging step => cases step <;> rfl

theorem forall₂_asText (steps : List Step) :
    List.Forall₂ Step.SameButConsole steps (steps.map Step.asText) :=
  List.forall₂_map_right_iff.mpr (List.forall₂_same.mpr fun step _ => step.sameButConsole_asText)

theorem threshold?_asText (steps : List Step) :
    threshold? (steps.map Step.asText) = threshold? steps := by
  have hlast : lastSetUp? (steps.map Step.asText)
      = (lastSetUp? steps).map fun setUp => (setUp.1, false) := by
    have hsetUp : Step.setUp? ∘ Step.asText
        = fun step : Step => step.setUp?.map fun setUp => (setUp.1, false) :=
      funext Step.setUp?_asText
    rw [lastSetUp?, List.filterMap_map, hsetUp, ← List.map_filterMap, List.getLast?_map]
    rfl
  unfold threshold?
  rw [hlast]
  cases lastSetUp? steps <;> rfl

theorem taken_asText (past : List Step) (step : Step) :
    taken (past.map Step.asText) step.asText = taken past step := by
  unfold taken
  rw [threshold?_asText, ← scope_after_eq (forall₂_asText past), Step.records_asText]

section Forms

variable {first second : List Step} (h : first.map Step.asText = second.map Step.asText)

include h

theorem map_unwritten_run_of_asText_eq :
    (run first).map Answer.unwritten = (run second).map Answer.unwritten := by
  rw [map_unwritten_run (forall₂_asText first), h, ← map_unwritten_run (forall₂_asText second)]

/-- The same step of the two sessions writes the same records, each in its form. -/
theorem exists_written_eq_ofRecords {k : Nat} {answer answer' : Answer}
    (hanswer : (run first)[k]? = some answer) (hanswer' : (run second)[k]? = some answer') :
    ∃ records, answer.written = .ofRecords (isStructured (first.take k)) records ∧
      answer'.written = .ofRecords (isStructured (second.take k)) records := by
  obtain ⟨step, hstep, rfl⟩ := exists_of_getElem?_run hanswer
  obtain ⟨step', hstep', rfl⟩ := exists_of_getElem?_run hanswer'
  have hpast : (first.take k).map Step.asText = (second.take k).map Step.asText := by
    rw [List.map_take, List.map_take, h]
  have hasText : step.asText = step'.asText := by
    have hget := congrArg (·[k]?) h
    simp only [List.getElem?_map, hstep, hstep', Option.map_some, Option.some.injEq] at hget
    exact hget
  have htaken : taken (first.take k) step = taken (second.take k) step' := by
    rw [← taken_asText, hpast, hasText, taken_asText]
  refine ⟨_, written_answer (first.take k) step, ?_⟩
  rw [htaken]
  exact written_answer (second.take k) step'

end Forms

end Session

/-- **Text and records carry the same**: where the set-ups of two sessions differ in their forms alone,
their answers differ in nothing but what the console writes. Under set-ups of one form it writes the
same, and what it writes as text under one is the texts of the records that it writes under the other.
The same goes for two command lines that ask for the same in different forms. -/
theorem run_forms :
    (∀ first second : List Session.Step,
      first.map Session.Step.asText = second.map Session.Step.asText →
      (Session.run first).map Session.Answer.unwritten
        = (Session.run second).map Session.Answer.unwritten ∧
      ∀ (k : Nat) (answer answer' : Session.Answer),
        (Session.run first)[k]? = some answer → (Session.run second)[k]? = some answer' →
        (Session.isStructured (first.take k) = Session.isStructured (second.take k) →
          answer.written = answer'.written) ∧
        (Session.isStructured (first.take k) = false →
          Session.isStructured (second.take k) = true →
          answer.written.IsTextOf answer'.written)) ∧
    ∀ (arguments arguments' : List String) (request : CommandLine.Request) (level : Log.Level),
      CommandLine.Invocation.ofArguments arguments = .ok ⟨request, level.name, false⟩ →
      CommandLine.Invocation.ofArguments arguments' = .ok ⟨request, level.name, true⟩ →
      ∃ printed text structured, CommandLine.run arguments = .completed printed text ∧
        CommandLine.run arguments' = .completed printed structured ∧ text.IsTextOf structured := by
  constructor
  · intro first second h
    refine ⟨Session.map_unwritten_run_of_asText_eq h, ?_⟩
    intro k answer answer' hanswer hanswer'
    obtain ⟨records, hwritten, hwritten'⟩ :=
      Session.exists_written_eq_ofRecords h hanswer hanswer'
    constructor
    · intro hform
      rw [hwritten, hwritten', hform]
    · intro hlines hstructured
      rw [hwritten, hwritten', hlines, hstructured]
      exact Log.Output.isTextOf_ofRecords records
  · intro arguments arguments' request level hread hread'
    exact ⟨_, _, _, CommandLine.run_of_known_level hread, CommandLine.run_of_known_level hread',
      Log.Output.isTextOf_ofRecords _⟩

/-- A model that looks like a format, an empty message, and a record of another library. -/
theorem run_forms_empty_message :
    let session (structured : Bool) : List Session.Step :=
      [.logging (.setUp "DEBUG" structured), .object (.builder "b" "\x7b0\x7d\n"),
        .object (.buildBatch "b" "query" ["one", "two"] (some "rule")),
        .logging (.setUp "TRACE" true), .logging (.emit (some Log.packageName) "INFO" ""),
        .logging (.emit (some "other") "INFO" "text")]
    let first := session false
    let second := session true
    let lines := ["format", "--model-id=plain", "q", "d"]
    let records := ["format", "q", "--json-output", "--model-id", "plain", "--", "d"]
    (first.map Session.Step.asText = second.map Session.Step.asText ∧
      (Session.run first).map Session.Answer.unwritten
        = (Session.run second).map Session.Answer.unwritten) ∧
    (∃ answer answer', (Session.run first)[2]? = some answer ∧
      (Session.run second)[2]? = some answer' ∧ answer.written.IsTextOf answer'.written ∧
      answer'.written.entries.length = 2) ∧
    (∃ answer answer', (Session.run first)[4]? = some answer ∧
      (Session.run second)[4]? = some answer' ∧ answer.written = answer'.written ∧
      answer'.written.entries.length = 1) ∧
    ∃ printed text structured, CommandLine.run lines = .completed printed text ∧
      CommandLine.run records = .completed printed structured ∧ text.IsTextOf structured := by
  intro session first second lines records
  have hasText : first.map Session.Step.asText = second.map Session.Step.asText := rfl
  have hlines : CommandLine.Invocation.ofArguments lines
      = .ok ⟨.format "q" "d" "plain" none, "INFO", false⟩ := rfl
  have hrecords : CommandLine.Invocation.ofArguments records
      = .ok ⟨.format "q" "d" "plain" none, "INFO", true⟩ := rfl
  obtain ⟨hsessions, hcommandLines⟩ := run_forms
  obtain ⟨hunwritten, hwritten⟩ := hsessions first second hasText
  refine ⟨⟨hasText, hunwritten⟩, ⟨_, _, rfl, rfl, ?_, rfl⟩, ⟨_, _, rfl, rfl, ?_, rfl⟩, ?_⟩
  · exact (hwritten 2 _ _ rfl rfl).2 rfl rfl
  · exact (hwritten 4 _ _ rfl rfl).1 rfl
  · exact hcommandLines lines records _ .info hlines hrecords

end RerankPrompt
