import RerankPrompt.Proofs.Session.History

/-!
# Where the records of a session go

Which records a step writes depends on the step and on the objects that it names, and where they go on
the past set-up alone. With both said outright, the answers of a session have a closed form for what
the sinks capture and what the console writes (`run_routing`).
-/

namespace RerankPrompt

namespace Log.Record

/-- Whether a record was written in the name of this library or of a module below it. -/
def isOwn (record : Record) : Bool :=
  match record.source with
  | some name => name == packageName || (packageName ++ ".").toList.isPrefixOf name.toList
  | none => false

theorem isFrom_packageName (record : Record) : record.isFrom packageName = record.isOwn := by
  unfold isFrom isOwn
  cases record.source with
  | none => rfl
  | some name =>
    have hdot : (".").toList = ['.'] := rfl
    have hname : name = packageName ↔ (packageName ++ ".").toList = name.toList ++ ['.'] := by
      rw [String.toList_append, hdot, List.append_cancel_right_eq, String.toList_inj, eq_comm]
    rw [Bool.eq_iff_iff, Bool.or_eq_true, beq_iff_eq, List.isPrefixOf_iff_prefix,
      List.isPrefixOf_iff_prefix, hname, String.toList_append (s := name), hdot,
      List.prefix_concat_iff]

end Log.Record

/-- What a console writes, with the records that it takes said outright. -/
theorem Log.Console.write_eq (console : Log.Console) (records : List Log.Record) :
    console.write records =
      let accepted := records.filter fun record =>
        decide (console.threshold.severity ≤ record.level.severity) && record.isOwn
      if console.structured = true ∧ accepted ≠ [] then .records accepted
      else .text (String.join (accepted.map fun record => record.message ++ "\n")) := by
  have haccepts : console.accepts = fun record =>
      decide (console.threshold.severity ≤ record.level.severity) && record.isOwn := by
    funext record
    rw [Log.Console.accepts, Log.Record.isFrom_packageName]
    rfl
  unfold Log.Console.write
  rw [haccepts]
  simp only [Bool.and_eq_true, Bool.not_eq_true', List.isEmpty_eq_false_iff]
  rfl

namespace Session

/-! ## The records of a step -/

/-- The record with which a builder starts. -/
def announcement (model : String) : Log.Record where
  source := some "text_embeddings_templates.inputs"
  level := .info
  message :=
    if Model.needsTemplate model then
      "Using Qwen3RerankerTemplate prompt template for " ++ model
    else "No prompt template for " ++ model ++ ", using raw query/text pairs"

/-- The remark of a builder without a template on an instruction. -/
def ignoredInstruction (model : String) : Log.Record where
  source := some "text_embeddings_templates.inputs"
  level := .debug
  message := "Ignoring instruction, " ++ model ++ " does not use a prompt template"

/-- The records of one build with the builder of this name. -/
def buildRecords (scope : Scope) (name : String) (instruction : Option String) : List Log.Record :=
  match scope.get? name, instruction with
  | some ⟨_, .builder ⟨model, none⟩⟩, some _ => [ignoredInstruction model]
  | _, _ => []

/-- The records of a step. -/
def Step.records (scope : Scope) : Step → List Log.Record
  | .object (.builder _ model) => [announcement model]
  | .object (.build name _ _ instruction) => buildRecords scope name instruction
  | .object (.buildBatch name _ texts instruction) =>
    texts.flatMap fun _ => buildRecords scope name instruction
  | .logging (.emit source level message) =>
    (Log.Level.ofName? level).toList.map fun level => ⟨source, level, message⟩
  | _ => []

theorem announcement_ofModel (model : String) :
    (Builder.ofModel model).announcement = announcement model := by
  unfold Builder.announcement
  rw [Builder.needsTemplate_ofModel]
  rfl

theorem records_ofExcept_bind {α : Type} (x : Except Fault α) (f : α → Except Fault Effect)
    (h : ∀ a, (Effect.ofExcept (f a)).records = []) :
    (Effect.ofExcept (x >>= f)).records = [] :=
  Effect.ofExcept_bind (motive := fun effect => effect.records = []) (fun _ => rfl) h

/-- What a build writes, whatever it does with the records of one build. -/
theorem records_build {scope : Scope} {name : String} {instruction : Option String}
    (f : Builder → Effect) (g : List Log.Record → List Log.Record) (hnil : g [] = [])
    (hf : ∀ builder, (f builder).records = g (builder.remarks instruction)) :
    (Effect.ofExcept do
      let builder ← scope.builder name
      return f builder).records = g (buildRecords scope name instruction) := by
  unfold Scope.builder Scope.identifiedBuilder Scope.object buildRecords
  cases scope.get? name with
  | none => exact hnil.symm
  | some object =>
    obtain ⟨identity, value⟩ := object
    cases value with
    | template template => exact hnil.symm
    | builder builder =>
      obtain ⟨model, template⟩ := builder
      refine (hf ⟨model, template⟩).trans (congrArg g ?_)
      cases template <;> cases instruction <;> rfl

theorem records_emit (logging : Log.Logging) (source : Option String) (level message : String) :
    (LoggingStep.effect logging (.emit source level message)).records
      = (Log.Level.ofName? level).toList.map fun level => ⟨source, level, message⟩ := by
  simp only [LoggingStep.effect, Log.Level.parse]
  cases Log.Level.ofName? level with
  | some level => rfl
  | none =>
    -- without any handler there is no fault, but no record either
    show (if logging.isSilent then Effect.value .nothing
      else Effect.fault (.unknownLevel ⟨level⟩)).records = []
    split
    · rfl
    · rfl

theorem records_effect (state : State) (step : Step) :
    (step.effect state).records = step.records state.scope := by
  cases step with
  | object step =>
    cases step with
    | template name defaultInstruction => rfl
    | factory name model => rfl
    | builder name model => exact congrArg (fun record => [record]) (announcement_ofModel model)
    | formatter builder name => exact records_ofExcept_bind _ _ fun _ => rfl
    | format template query document instruction => exact records_ofExcept_bind _ _ fun _ => rfl
    | build builder query text instruction => exact records_build _ id rfl fun _ => rfl
    | buildBatch builder query texts instruction =>
      exact records_build _ (fun records => texts.flatMap fun _ => records) (by simp) fun _ => rfl
    | get object field =>
      exact records_ofExcept_bind _ _ fun _ => records_ofExcept_bind _ _ fun _ => rfl
    | change object attempt => exact records_ofExcept_bind _ _ fun _ => rfl
    | describe template => exact records_ofExcept_bind _ _ fun _ => rfl
    | compare first second =>
      exact records_ofExcept_bind _ _ fun _ => records_ofExcept_bind _ _ fun _ => rfl
  | logging step =>
    cases step with
    | addSink level => exact records_ofExcept_bind _ _ fun _ => rfl
    | setUp level structured => exact records_ofExcept_bind _ _ fun _ => rfl
    | emit source level message => exact records_emit state.logging source level message

/-! ## The closed form -/

/-- **Routing has a closed form**: each record of a step goes once to every sink that was added since
the last set-up and takes its level, in the order of the sinks; and the console of that set-up, if its
level was known, writes those of this library that reach its level, in the form it was set up for. -/
theorem run_routing (past : List Step) (step : Step) (future : List Step) :
    let records := step.records (State.after {} past).scope
    ∃ answer, (run (past ++ step :: future))[past.length]? = some answer ∧
      answer.captured = (records.flatMap fun record =>
        ((sinksSince past).filter fun threshold =>
          decide (threshold.severity ≤ record.level.severity)).map fun _ => record) ∧
      answer.written = match lastSetUp? past with
        | none => .text ""
        | some (level, structured) =>
          match Log.Level.ofName? level with
          | none => .text ""
          | some threshold =>
            let accepted := records.filter fun record =>
              decide (threshold.severity ≤ record.level.severity) && record.isOwn
            if structured = true ∧ accepted ≠ [] then .records accepted
            else .text (String.join (accepted.map fun record => record.message ++ "\n")) := by
  intro records
  have hrecords := records_effect (State.after {} past) step
  have hlogging := logging_after past
  refine ⟨_, getElem?_run past step future, ?_, ?_⟩
  · show (State.after {} past).logging.captured _ = _
    rw [hrecords, hlogging]
    rfl
  · show (State.after {} past).logging.written _ = _
    rw [hrecords, hlogging]
    unfold Log.Logging.written lastConsole?
    cases lastSetUp? past with
    | none => rfl
    | some setUp =>
      obtain ⟨level, structured⟩ := setUp
      simp only [Option.bind_some]
      cases hlevel : Log.Level.ofName? level with
      | none => rfl
      | some threshold => exact Log.Console.write_eq ⟨threshold, structured⟩ records

end Session

end RerankPrompt
