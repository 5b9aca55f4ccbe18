import RerankPrompt.Log.Json
import RerankPrompt.Proofs.Session.Classification
import RerankPrompt.Proofs.Session.Omission

/-!
# Batches and single builds

A batch gives what the builds of its texts give one after the other, sends the same records to the same
handlers and leaves the same state (`run_buildBatch`). Only its span is its own.
-/

namespace RerankPrompt.Session

/-- The builds of the texts of a batch, one by one. -/
def singleBuilds (name query : String) (texts : List String) (instruction : Option String) :
    List Step :=
  texts.map fun text => .object (.build name query text instruction)

/-- The answer to a batch is made up of the answers to its single builds, and of one span that tells
their number and whether the builder has a template. -/
structure MakesUp (singles : List Answer) (needsTemplate : Bool) (batch : Answer) : Prop where
  result_eq : ∃ inputs, batch.result = .ok (.inputs inputs) ∧
    singles.map Answer.result = inputs.map fun input => .ok (.input input)
  captured_eq : batch.captured = singles.flatMap Answer.captured
  written_eq : batch.written = Log.Output.concat (singles.map Answer.written)
  /-- All of this has one form, and goes to the error stream without a loss. -/
  hasForm : ∃ structured, ∀ single ∈ singles, single.written.HasForm structured
  output_eq : Log.Json.output batch.written
    = String.join (singles.map fun single => Log.Json.output single.written)
  written_eq_empty : (∀ single ∈ singles, single.written = .text "") → batch.written = .text ""
  spans_eq : batch.spans = [⟨singles.length, needsTemplate⟩]
  spans_eq_nil : ∀ single ∈ singles, single.spans = []

theorem isUse_of_mem_singleBuilds {name query : String} {texts : List String}
    {instruction : Option String} {step : Step}
    (h : step ∈ singleBuilds name query texts instruction) : step.isUse = true := by
  obtain ⟨text, -, rfl⟩ := List.mem_map.mp h
  rfl

section Named

variable {state : State} {name : String} {builder : Builder}
  (h : state.scope.builder name = .ok builder)

include h

theorem answer_buildBatch (query : String) (texts : List String) (instruction : Option String) :
    Step.answer state (.object (.buildBatch name query texts instruction))
      = { result := .ok (.inputs (texts.map fun text => builder.build query text instruction))
          captured := state.logging.captured (texts.flatMap fun _ => builder.remarks instruction)
          spans := [⟨texts.length, builder.needsTemplate⟩]
          written := state.logging.written (texts.flatMap fun _ => builder.remarks instruction) } := by
  simp only [Step.answer, Step.effect, ObjectStep.effect, h]
  rfl

theorem answers_singleBuilds (query : String) (texts : List String) (instruction : Option String) :
    state.answers (singleBuilds name query texts instruction)
      = texts.map fun text =>
          { result := .ok (.input (builder.build query text instruction))
            captured := state.logging.captured (builder.remarks instruction)
            spans := []
            written := state.logging.written (builder.remarks instruction) } := by
  rw [State.answers_of_isUse (fun _ hstep => isUse_of_mem_singleBuilds hstep), singleBuilds,
    List.map_map]
  apply List.map_congr_left
  intro text _
  exact Step.answer_build h query text instruction

theorem makesUp_answers (query : String) (texts : List String) (instruction : Option String) :
    MakesUp (state.answers (singleBuilds name query texts instruction)) builder.needsTemplate
      (Step.answer state (.object (.buildBatch name query texts instruction))) := by
  rw [answer_buildBatch h, answers_singleBuilds h]
  have hwritten := state.logging.written_flatMap texts fun _ => builder.remarks instruction
  obtain ⟨structured, hform⟩ := state.logging.exists_hasForm_written
  exact {
    result_eq := by
      refine ⟨_, rfl, ?_⟩
      rw [List.map_map, List.map_map]
      rfl
    captured_eq := by
      rw [List.flatMap_map]
      exact state.logging.captured_flatMap texts _
    written_eq := by
      rw [List.map_map]
      exact hwritten
    hasForm := by
      refine ⟨structured, fun single hsingle => ?_⟩
      obtain ⟨text, -, rfl⟩ := List.mem_map.mp hsingle
      exact hform _
    output_eq := by
      rw [List.map_map]
      exact Log.Json.output_written_flatMap state.logging texts _
    written_eq_empty := by
      intro hempty
      rw [hwritten]
      apply Log.Output.concat_eq_empty
      intro output houtput
      obtain ⟨text, htext, rfl⟩ := List.mem_map.mp houtput
      exact hempty _ (List.mem_map_of_mem htext)
    spans_eq := by rw [List.length_map]
    spans_eq_nil := by
      intro single hsingle
      obtain ⟨text, -, rfl⟩ := List.mem_map.mp hsingle
      rfl }

end Named

/-- **A batch is the sequence of its single builds**: it gives the inputs that they give, in their
order, and writes what they write, to the sinks and to the console in either form; every later step is
answered as after them. It ends one span, with the number of its texts and with what the builder says
of its template, and they end none. -/
theorem run_buildBatch (past future : List Step) {name : String} {identity : Identity}
    {builder : Builder}
    (h : (State.after {} past).scope.get? name = some ⟨identity, .builder builder⟩)
    (query : String) (texts : List String) (instruction : Option String) :
    let state := State.after {} past
    let builds := singleBuilds name query texts instruction
    let batch := Step.answer state (.object (.buildBatch name query texts instruction))
    (∃ before after, before.length = past.length ∧
      run (past ++ .object (.buildBatch name query texts instruction) :: future)
        = before ++ batch :: after ∧
      run (past ++ (builds ++ future)) = before ++ (state.answers builds ++ after)) ∧
    (state.answers builds).length = texts.length ∧
    (∃ needsTemplate,
      state.result (.get name "requires_template") = .ok (.field (.flag needsTemplate)) ∧
      MakesUp (state.answers builds) needsTemplate batch ∧
      (texts = [] → batch = ⟨.ok (.inputs []), [], [⟨0, needsTemplate⟩], .text ""⟩)) ∧
    Span.name = "build_rerank_inputs" := by
  intro state builds batch
  have hbuilder := Scope.builder_of_get? h
  have hafter : state.after builds = state :=
    State.after_of_isUse (fun _ hstep => isUse_of_mem_singleBuilds hstep) state
  refine ⟨⟨State.answers {} past, state.answers future, State.length_answers {} past, ?_, ?_⟩, ?_,
    ⟨_, result_get h rfl, makesUp_answers hbuilder query texts instruction, ?_⟩, rfl⟩
  · exact State.answers_append {} past _
  · rw [run, State.answers_append, State.answers_append, hafter]
  · rw [State.length_answers]
    exact List.length_map _
  · rintro rfl
    show Step.answer state _ = _
    rw [answer_buildBatch hbuilder, List.flatMap_nil, Log.Logging.written_nil]
    rfl

/-- A text that comes twice, with an instruction that is ignored, for three sinks of which one takes no
remarks and for a structured console. -/
theorem run_buildBatch_ignored_instruction :
    let past : List Step := [.logging (.setUp "DEBUG" true), .logging (.addSink "TRACE"),
      .logging (.addSink "INFO"), .logging (.addSink "DEBUG"), .object (.builder "b" "plain")]
    let later : Step := .object (.formatter "b" "f")
    let texts := ["one", "two", "one"]
    let state := State.after {} past
    let builds := singleBuilds "b" "query" texts (some "rule")
    let batch := Step.answer state (.object (.buildBatch "b" "query" texts (some "rule")))
    state.scope.get? "b" = some ⟨.made "b" 0, .builder ⟨"plain", none⟩⟩ ∧
    (∃ before after, before.length = 5 ∧
      run (past ++ [.object (.buildBatch "b" "query" texts (some "rule")), later])
        = before ++ batch :: after ∧
      run (past ++ (builds ++ [later])) = before ++ (state.answers builds ++ after)) ∧
    MakesUp (state.answers builds) false batch := by
  intro past later texts state builds batch
  have hname : state.scope.get? "b" = some ⟨.made "b" 0, .builder ⟨"plain", none⟩⟩ := rfl
  obtain ⟨hrun, -, ⟨needsTemplate, hget, hmakes, -⟩, -⟩ :=
    run_buildBatch past [later] hname "query" texts (some "rule")
  have hnone : state.result (.get "b" "requires_template") = .ok (.field (.flag false)) := rfl
  cases hnone.symm.trans hget
  exact ⟨hname, hrun, hmakes⟩

end RerankPrompt.Session
