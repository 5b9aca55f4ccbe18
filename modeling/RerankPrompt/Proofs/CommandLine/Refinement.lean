import RerankPrompt.Proofs.CommandLine.Calls
import RerankPrompt.Proofs.CommandLine.Printing

/-!
# Command lines as sessions

However a command line of `format` is spelled, it does what the session of its set-up, its builder
and its build does: it fails where the set-up fails, and for the same reason; else it prints what
the build gives and writes what the three steps write, one after the other. A `detect` prints one
word and writes nothing.
-/

namespace RerankPrompt

theorem Session.result_setUp (state : Session.State) (level : String) (structured : Bool) :
    (Session.Step.answer state (.logging (.setUp level structured))).result
      = match Log.Level.parse level with
        | .ok _ => .ok .nothing
        | .error unknown => .error (.unknownLevel unknown) := by
  show (Session.LoggingStep.effect state.logging (.setUp level structured)).result = _
  rw [Session.LoggingStep.effect]
  cases Log.Level.parse level with
  | ok threshold => rfl
  | error unknown => rfl

namespace CommandLine

/-- What is printed of the built input, be it a prompt or a pair. -/
theorem join_values_format (query document model : String) (instruction : Option String) :
    String.join ((Request.format query document model instruction).values.map plain)
      = match (Builder.ofModel model).build query document instruction with
        | .prompt text => plain text
        | .pair query text => plain (query ++ "\n") ++ plain (text ++ "\n") := by
  rw [Request.values]
  cases (Builder.ofModel model).build query document instruction with
  | prompt text =>
    rw [Input.printed, List.map_singleton, String.join_cons, String.join_nil, String.append_empty]
  | pair query text =>
    rw [Input.printed, List.map_cons, List.map_singleton, String.join_cons, String.join_cons,
      String.join_nil, String.append_empty]

theorem run_detect {arguments : List String} {model : String} {level : Log.Level}
    {structured : Bool}
    (hread : Invocation.ofArguments arguments = .ok ⟨.detect model, level.name, structured⟩) :
    run arguments
      = .completed (if Model.needsTemplate model then "true\n" else "false\n") (.text "") := by
  rw [run_of_ofArguments hread, Invocation.run_of_name rfl, join_values_detect]
  exact congrArg (Outcome.completed _) (Log.Console.write_nil _)

/-- **The command line refines the session**: a `format` fails exactly where the set-up of its
session fails, with that fault, and else prints the plain form of the input that the session builds
and writes what its steps write; a `detect` with a known level prints its answer and writes nothing.
-/
theorem run_refines_session :
    (∀ (arguments : List String) (query document model level : String)
      (instruction : Option String) (structured : Bool) (name : String),
      Invocation.ofArguments arguments
        = .ok ⟨.format query document model instruction, level, structured⟩ →
      ∃ setUp builder build : Session.Answer,
        Session.run [.logging (.setUp level structured), .object (.builder name model),
          .object (.build name query document instruction)] = [setUp, builder, build] ∧
        (∀ fault, setUp.result = .error fault →
          ∃ unknown, fault = .unknownLevel unknown ∧
            run arguments = .failed "" (.unknownLevel unknown) ∧ (run arguments).exitCode = 1 ∧
            (run arguments).printed = "" ∧
            (Failure.unknownLevel unknown).message = fault.message) ∧
        (∀ result, setUp.result = .ok result →
          ∃ input, build.result = .ok (.input input) ∧ (run arguments).exitCode = 0 ∧
            (∀ output ∈ [setUp.written, builder.written, build.written],
              output.HasForm structured) ∧
            run arguments = .completed
              (match input with
                | .prompt text => plain text
                | .pair query text => plain (query ++ "\n") ++ plain (text ++ "\n"))
              (Log.Output.concat [setUp.written, builder.written, build.written]))) ∧
    ∀ (arguments : List String) (model : String) (level : Log.Level) (structured : Bool),
      Invocation.ofArguments arguments = .ok ⟨.detect model, level.name, structured⟩ →
      run arguments
        = .completed (if Model.needsTemplate model then "true\n" else "false\n") (.text "") := by
  constructor
  · intro arguments query document model level instruction structured name hread
    cases hparse : Log.Level.parse level with
    | ok threshold =>
      obtain rfl := Log.Level.parse_eq_ok_iff.mp hparse
      have hanswers := Session.run_setUp_builder_build threshold structured name model query document
        instruction
      refine ⟨_, _, _, hanswers, ?_, ?_⟩
      · intro fault hfault
        cases hfault
      · intro result _
        have hrun := (run_of_ofArguments hread).trans (Invocation.run_of_name rfl)
        rw [join_values_format, write_records_format] at hrun
        refine ⟨_, rfl, ?_, Log.Console.hasForm_of_mem ⟨threshold, structured⟩ _ _, hrun⟩
        rw [hrun]
        rfl
    | error unknown =>
      have hsetUp := Session.result_setUp {} level structured
      rw [hparse] at hsetUp
      have hrun := run_of_unknown_level hread hparse
      refine ⟨_, _, _, rfl, ?_, ?_⟩
      · intro fault hfault
        cases hsetUp.symm.trans hfault
        rw [hrun]
        exact ⟨unknown, rfl, rfl, rfl, rfl, rfl⟩
      · intro result hresult
        cases hsetUp.symm.trans hresult
  · intro arguments model level structured hread
    exact run_detect hread

/-- An ignored instruction that looks like the end of the options, a level that is none, and a model
that looks like an option. -/
theorem run_refines_session_ignored_instruction :
    let format (level : String) : List String :=
      ["format", "--instruction", "--", "q", "--model-id=plain", "--logger-level", level,
        "d\x1b[0m"]
    let invocation (level : String) : Invocation :=
      ⟨.format "q" "d\x1b[0m" "plain" (some "--"), level, false⟩
    let detect := ["--", "detect", "--logger-level", "TRACE", "--", "--model"]
    (Invocation.ofArguments (format "DEBUG") = .ok (invocation "DEBUG") ∧
      run (format "DEBUG") = .completed "q\nd\n" (.text
        ("No prompt template for plain, using raw query/text pairs\n"
          ++ "Ignoring instruction, plain does not use a prompt template\n"))) ∧
    (Invocation.ofArguments (format "10") = .ok (invocation "10") ∧
      run (format "10") = .failed "" (.unknownLevel ⟨"10"⟩)) ∧
    (Invocation.ofArguments detect = .ok ⟨.detect "--model", "TRACE", false⟩ ∧
      run detect = .completed "false\n" (.text "")) := by
  intro format invocation detect
  have hknown : Invocation.ofArguments (format "DEBUG") = .ok (invocation "DEBUG") := rfl
  have hunknown : Invocation.ofArguments (format "10") = .ok (invocation "10") := rfl
  have hdetect : Invocation.ofArguments detect = .ok ⟨.detect "--model", "TRACE", false⟩ := rfl
  obtain ⟨hformat, hword⟩ := run_refines_session
  refine ⟨⟨hknown, ?_⟩, ⟨hunknown, ?_⟩, hdetect, hword detect "--model" .trace false hdetect⟩
  · obtain ⟨setUp, builder, build, hanswers, -, hcompleted⟩ :=
      hformat _ _ _ _ _ _ _ "b" hknown
    cases hanswers
    obtain ⟨input, hinput, -, -, hrun⟩ := hcompleted .nothing rfl
    cases hinput
    rw [hrun]
    decide +kernel
  · obtain ⟨setUp, builder, build, hanswers, hfailed, -⟩ :=
      hformat _ _ _ _ _ _ _ "b" hunknown
    cases hanswers
    obtain ⟨unknown, hfault, hrun, -⟩ := hfailed (.unknownLevel ⟨"10"⟩) rfl
    cases hfault
    exact hrun

end CommandLine

end RerankPrompt
