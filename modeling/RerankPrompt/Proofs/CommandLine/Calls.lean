import RerankPrompt.CommandLine.Run
import RerankPrompt.CommandLine.Spelling
import RerankPrompt.Log.Output
import RerankPrompt.Session.Run

/-!
# Calls from the command line

What a session does with a builder can be asked for on the command line, whatever the texts are: behind
`--` nothing is taken for an option, and a setting takes its value as it stands. `run_format_call` says
that such a command line prints and writes what the calls themselves give.
-/

namespace RerankPrompt

/-- A session that sets the console up, makes a builder and builds one input. -/
theorem Session.run_setUp_builder_build (threshold : Log.Level) (structured : Bool)
    (name model query text : String) (instruction : Option String) :
    let builder := Builder.ofModel model
    let console : Log.Console := ⟨threshold, structured⟩
    run [.logging (.setUp threshold.name structured), .object (.builder name model),
        .object (.build name query text instruction)]
      = [⟨.ok .nothing, [], [], .text ""⟩,
         ⟨.ok (.builder builder), [], [], console.write [builder.announcement]⟩,
         ⟨.ok (.input (builder.build query text instruction)), [], [],
           console.write (builder.remarks instruction)⟩] := by
  intro builder console
  have hsetUp : Step.answer {} (.logging (.setUp threshold.name structured))
      = ⟨.ok .nothing, [], [], .text ""⟩ := by
    have hparse : Log.Level.parse threshold.name = .ok threshold :=
      Log.Level.parse_eq_ok_iff.mpr rfl
    simp only [Step.answer, Step.effect, LoggingStep.effect, hparse]
    rfl
  let ready : State := ⟨Scope.make {} name (.builder builder), ⟨[], some console⟩⟩
  have hbuilder : ready.scope.builder name = .ok builder := Scope.builder_make_self {} name builder
  have hbuild := Step.answer_build hbuilder query text instruction
  rw [Log.Logging.captured_of_no_sinks] at hbuild
  simp only [run, State.answers, Step.stateAfter, LoggingStep.loggingAfter, Log.Logging.setUp_name,
    ObjectStep.scopeAfter, hsetUp]
  rw [hbuild]
  rfl

/-- What the steps of one set-up write has the form of its console. -/
theorem Log.Console.hasForm_of_mem (console : Log.Console) (first second : List Log.Record) :
    ∀ output ∈ [.text "", console.write first, console.write second],
      output.HasForm console.structured := by
  intro output houtput
  simp only [List.mem_cons, List.not_mem_nil, or_false] at houtput
  rcases houtput with rfl | rfl | rfl
  · exact Log.Output.hasForm_empty _
  · exact console.hasForm_write first
  · exact console.hasForm_write second

namespace CommandLine

theorem write_records_format (console : Log.Console) (query document model : String)
    (instruction : Option String) :
    let builder := Builder.ofModel model
    console.write (Request.format query document model instruction).records
      = Log.Output.concat [.text "", console.write [builder.announcement],
          console.write (builder.remarks instruction)] := by
  intro builder
  simp only [Log.Output.concat, List.foldr_cons, List.foldr_nil, Log.Output.append_empty,
    Log.Output.empty_append]
  exact console.write_append [builder.announcement] (builder.remarks instruction)

/-- **Every call can be made from the command line**: with each value attached to its setting or each
behind it, and the texts behind `--`, the values are read as they are, the plain form of the built
input is printed, and the console writes what it writes in a session of the same calls, all in the one
form that was asked for. -/
theorem run_format_call (spelling : Spelling) (query document model : String)
    (instruction : Option String) (level : Log.Level) (structured : Bool) (name : String) :
    let arguments := "format" :: (Setting.model.spell spelling model
      ++ instruction.toList.flatMap (Setting.instruction.spell spelling)
      ++ Setting.level.spell spelling level.name
      ++ (if structured then ["--json-output"] else [])
      ++ ["--", query, document])
    let input := (Builder.ofModel model).build query document instruction
    let answers := Session.run [.logging (.setUp level.name structured),
      .object (.builder name model), .object (.build name query document instruction)]
    Invocation.ofArguments arguments
        = .ok ⟨.format query document model instruction, level.name, structured⟩ ∧
      answers.map Session.Answer.result
        = [.ok .nothing, .ok (.builder (.ofModel model)), .ok (.input input)] ∧
      (∀ output ∈ answers.map Session.Answer.written, output.HasForm structured) ∧
      run arguments = .completed (String.join (input.printed.map plain))
        (Log.Output.concat (answers.map Session.Answer.written)) := by
  intro arguments input answers
  let invocation : Invocation := ⟨.format query document model instruction, level.name, structured⟩
  have harguments : arguments = invocation.arguments spelling := by
    cases instruction <;>
      simp [arguments, invocation, Invocation.arguments, Invocation.settings,
        Invocation.flagNames, Request.settings, Request.command, Request.positionals,
        Command.name, terminator]
  have hread : Invocation.ofArguments arguments = .ok invocation := by
    rw [harguments]
    exact ofArguments_arguments spelling invocation
  have hanswers : answers = _ :=
    Session.run_setUp_builder_build level structured name model query document instruction
  rw [hanswers]
  refine ⟨hread, rfl, Log.Console.hasForm_of_mem ⟨level, structured⟩ _ _, ?_⟩
  rw [run_of_ofArguments hread, Invocation.run_of_name rfl, write_records_format]
  rfl

end CommandLine

end RerankPrompt
