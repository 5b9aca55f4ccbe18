import RerankPrompt.CommandLine.Run
import RerankPrompt.Session.Run

/-!
# Records, spans and console output tell no text

Redacting a session blanks every text that it passes on: queries, documents, the texts of batches,
instructions and default instructions. Whether an instruction is given and how many texts a batch has
stay. A step and its redaction show the same records and spans (`observed_effect_redacted`) and leave
states of which one is again the redaction of the other (`stateAfter_redacted`), so a whole session
shows the same as its redaction. What a command line writes depends on as little.
-/

namespace RerankPrompt

/-! ## Builders -/

namespace Builder

/-- A builder whose template has the general default instruction. -/
def redacted (builder : Builder) : Builder :=
  { builder with template := builder.template.map fun _ => {} }

theorem redacted_ofModel (model : String) : (ofModel model).redacted = ofModel model := by
  unfold redacted ofModel Model.template?
  cases Model.needsTemplate model with
  | true => rfl
  | false => rfl

theorem needsTemplate_redacted (builder : Builder) :
    builder.redacted.needsTemplate = builder.needsTemplate :=
  Option.isSome_map

theorem remarks_redacted (builder : Builder) (instruction : Option String) :
    builder.redacted.remarks instruction = builder.remarks instruction := by
  unfold remarks
  rw [needsTemplate_redacted]
  rfl

/-- The remarks tell whether there is an instruction, not which. -/
theorem remarks_congr {builder : Builder} {first second : Option String}
    (h : first.isSome = second.isSome) : builder.remarks first = builder.remarks second := by
  unfold remarks
  rw [← Option.not_isSome, ← Option.not_isSome, h]

theorem batchRemarks_redacted (builder : Builder) (texts : List String)
    (instruction : Option String) :
    builder.redacted.batchRemarks (texts.map fun _ => "") instruction
      = builder.batchRemarks texts instruction := by
  unfold batchRemarks
  rw [List.flatMap_map, remarks_redacted]

theorem batchRemarks_congr {builder : Builder} {texts : List String}
    {first second : Option String} (h : first.isSome = second.isSome) :
    builder.batchRemarks texts first = builder.batchRemarks texts second := by
  unfold batchRemarks
  rw [remarks_congr h]

theorem span_redacted (builder : Builder) (texts : List String) :
    builder.redacted.span (texts.map fun _ => "") = builder.span texts := by
  unfold span
  rw [List.length_map, needsTemplate_redacted]

end Builder

namespace Session

/-! ## Redaction -/

/-- A step without its texts. Of a default instruction not even the presence stays. -/
def ObjectStep.redacted : ObjectStep → ObjectStep
  | .template name _ => .template name none
  | .format name _ _ instruction => .format name "" "" (instruction.map fun _ => "")
  | .build name _ _ instruction => .build name "" "" (instruction.map fun _ => "")
  | .buildBatch name _ texts instruction =>
    .buildBatch name "" (texts.map fun _ => "") (instruction.map fun _ => "")
  | step => step

def Step.redacted : Step → Step
  | .object step => .object step.redacted
  | .logging step => .logging step

def Value.redacted : Value → Value
  | .template _ => .template {}
  | .builder b => .builder b.redacted

def Object.redacted (object : Object) : Object :=
  { object with value := object.value.redacted }

def Scope.redacted (scope : Scope) : Scope where
  slot name := { scope.slot name with object := (scope.slot name).object.map Object.redacted }

def State.redacted (state : State) : State :=
  { state with scope := state.scope.redacted }

/-! ## The redacted scope -/

namespace Scope

theorem get?_redacted (scope : Scope) (name : String) :
    scope.redacted.get? name = (scope.get? name).map Object.redacted := rfl

theorem redacted_bind (scope : Scope) (name : String) (object : Object) :
    (scope.bind name object).redacted = scope.redacted.bind name object.redacted := by
  simp only [redacted, bind, Scope.mk.injEq]
  funext other
  by_cases h : other = name
  · simp [h]
  · simp [h]

theorem redacted_make (scope : Scope) (name : String) (value : Value) :
    (scope.make name value).redacted = scope.redacted.make name value.redacted :=
  scope.redacted_bind name ⟨scope.fresh name, value⟩

theorem identifiedBuilder_redacted (scope : Scope) (name : String) :
    scope.redacted.identifiedBuilder name
      = (scope.identifiedBuilder name).map fun (identity, builder) =>
          (identity, builder.redacted) := by
  unfold identifiedBuilder object
  rw [get?_redacted]
  cases scope.get? name with
  | none => rfl
  | some object =>
    obtain ⟨identity, value⟩ := object
    cases value with
    | template template => rfl
    | builder builder => rfl

theorem builder_redacted (scope : Scope) (name : String) :
    scope.redacted.builder name = (scope.builder name).map Builder.redacted := by
  unfold Scope.builder
  rw [identifiedBuilder_redacted]
  cases scope.identifiedBuilder name with
  | error fault => rfl
  | ok found => rfl

end Scope

theorem ObjectStep.scopeAfter_redacted (scope : Scope) (step : ObjectStep) :
    step.redacted.scopeAfter scope.redacted = (step.scopeAfter scope).redacted := by
  cases step with
  | template name defaultInstruction =>
    exact (scope.redacted_make name (.template ⟨defaultInstruction.getD generalInstruction⟩)).symm
  | factory name model =>
    simp only [redacted, scopeAfter]
    cases hmodel : Model.template? model with
    | none => rfl
    | some template =>
      obtain ⟨-, rfl⟩ := Model.template?_eq_some_iff.mp hmodel
      exact (scope.redacted_make name (.template {})).symm
  | builder name model =>
    have hmake := scope.redacted_make name (.builder (.ofModel model))
    rw [Value.redacted, Builder.redacted_ofModel] at hmake
    exact hmake.symm
  | formatter source name =>
    simp only [redacted, scopeAfter, Scope.identifiedBuilder_redacted]
    rcases scope.identifiedBuilder source with fault | ⟨identity, model, template⟩
    · rfl
    · cases template with
      | none => rfl
      | some template =>
        exact (scope.redacted_bind name ⟨.formatterOf identity, .template template⟩).symm
  | change object attempt => simp only [redacted, scopeAfter_change]
  | _ => rfl

theorem stateAfter_redacted (state : State) (step : Step) :
    step.redacted.stateAfter state.redacted = (step.stateAfter state).redacted := by
  cases step with
  | object step => exact congrArg (State.mk · state.logging) (step.scopeAfter_redacted state.scope)
  | logging step => rfl

/-! ## What is shown -/

/-- An effect without its result. -/
def Effect.observed (effect : Effect) : List Log.Record × List Span :=
  (effect.records, effect.spans)

/-- An answer without its result. -/
def Answer.observed (answer : Answer) : List Log.Record × List Span × Log.Output :=
  (answer.captured, answer.spans, answer.written)

/-- What a step does with something it looks up shows the same, if it shows the same for the redacted
thing. -/
theorem observed_ofExcept_map_bind {α β : Type} {x : Except Fault α} {r : α → β}
    {f : α → Except Fault Effect} {g : β → Except Fault Effect}
    (h : ∀ a, (Effect.ofExcept (g (r a))).observed = (Effect.ofExcept (f a)).observed) :
    (Effect.ofExcept (x.map r >>= g)).observed = (Effect.ofExcept (x >>= f)).observed := by
  cases x with
  | error fault => rfl
  | ok a => exact h a

theorem observed_ofExcept_bind {α : Type} {x : Except Fault α} {f : α → Except Fault Effect}
    (h : ∀ a, (Effect.ofExcept (f a)).observed = ([], [])) :
    (Effect.ofExcept (x >>= f)).observed = ([], []) :=
  Effect.ofExcept_bind (motive := fun effect => effect.observed = ([], [])) (fun _ => rfl) h

/-- All steps but those that build inputs, and that which makes a builder, show nothing. -/
theorem observed_eq_of_silent {α β : Type} {x : Except Fault α} {y : Except Fault β}
    {f : α → Except Fault Effect} {g : β → Except Fault Effect}
    (hf : ∀ a, (Effect.ofExcept (f a)).observed = ([], []))
    (hg : ∀ b, (Effect.ofExcept (g b)).observed = ([], [])) :
    (Effect.ofExcept (y >>= g)).observed = (Effect.ofExcept (x >>= f)).observed :=
  (observed_ofExcept_bind hg).trans (observed_ofExcept_bind hf).symm

theorem ObjectStep.observed_effect_redacted (scope : Scope) (step : ObjectStep) :
    (step.redacted.effect scope.redacted).observed = (step.effect scope).observed := by
  cases step with
  | template name defaultInstruction => rfl
  | factory name model => rfl
  | builder name model => rfl
  | formatter source name => exact observed_eq_of_silent (fun _ => rfl) fun _ => rfl
  | format source query document instruction =>
    exact observed_eq_of_silent (fun _ => rfl) fun _ => rfl
  | build source query text instruction =>
    simp only [redacted, effect, Scope.builder_redacted]
    apply observed_ofExcept_map_bind
    intro builder
    have hgiven : (instruction.map fun _ => "").isSome = instruction.isSome := Option.isSome_map
    have hremarks := (builder.remarks_redacted _).trans (Builder.remarks_congr hgiven)
    exact congrArg (·, []) hremarks
  | buildBatch source query texts instruction =>
    simp only [redacted, effect, Scope.builder_redacted]
    apply observed_ofExcept_map_bind
    intro builder
    have hgiven : (instruction.map fun _ => "").isSome = instruction.isSome := Option.isSome_map
    have hremarks := (builder.batchRemarks_redacted texts _).trans
      (Builder.batchRemarks_congr hgiven)
    exact Prod.ext hremarks (congrArg (fun span => [span]) (builder.span_redacted texts))
  | get source field =>
    exact observed_eq_of_silent (fun _ => observed_ofExcept_bind fun _ => rfl)
      fun _ => observed_ofExcept_bind fun _ => rfl
  | change source attempt => exact observed_eq_of_silent (fun _ => rfl) fun _ => rfl
  | describe source => exact observed_eq_of_silent (fun _ => rfl) fun _ => rfl
  | compare first second =>
    exact observed_eq_of_silent (fun _ => observed_ofExcept_bind fun _ => rfl)
      fun _ => observed_ofExcept_bind fun _ => rfl

theorem observed_effect_redacted (state : State) (step : Step) :
    (step.redacted.effect state.redacted).observed = (step.effect state).observed := by
  cases step with
  | object step => exact step.observed_effect_redacted state.scope
  | logging step => rfl

theorem observed_answer_redacted (state : State) (step : Step) :
    (step.redacted.answer state.redacted).observed = (step.answer state).observed := by
  obtain ⟨hrecords, hspans⟩ := Prod.mk.inj (observed_effect_redacted state step)
  show (state.logging.captured _, (step.redacted.effect state.redacted).spans,
    state.logging.written _) = _
  rw [hrecords, hspans]
  rfl

/-- What a session shows is what its redaction shows. -/
theorem observed_answers_redacted (state : State) (steps : List Step) :
    (state.redacted.answers (steps.map Step.redacted)).map Answer.observed
      = (state.answers steps).map Answer.observed := by
  induction steps generalizing state with
  | nil => rfl
  | cons step steps ih =>
    simp only [List.map_cons, State.answers]
    rw [observed_answer_redacted, stateAfter_redacted, ih]

theorem observed_run_redacted (steps : List Step) :
    (run (steps.map Step.redacted)).map Answer.observed = (run steps).map Answer.observed :=
  observed_answers_redacted {} steps

end Session

/-! ## Command lines -/

theorem CommandLine.records_format_congr {query document query' document' model : String}
    {instruction instruction' : Option String} (h : instruction.isSome = instruction'.isSome) :
    (Request.format query document model instruction).records
      = (Request.format query' document' model instruction').records :=
  congrArg ((Builder.ofModel model).announcement :: ·) (Builder.remarks_congr h)

/-- **No text is told**: two sessions with the same redaction show the same log records, spans and
console output, step by step; and two command lines of `format` with the same model and log set-up, of
which both or neither bring an instruction, write the same if one of them is accepted. -/
theorem observed_eq_of_redacted_eq :
    (∀ first second : List Session.Step,
      first.map Session.Step.redacted = second.map Session.Step.redacted →
      (Session.run first).map Session.Answer.observed
        = (Session.run second).map Session.Answer.observed) ∧
    ∀ (first second : List String) (query document query' document' model level : String)
      (instruction instruction' : Option String) (structured : Bool),
      CommandLine.Invocation.ofArguments first
        = .ok ⟨.format query document model instruction, level, structured⟩ →
      CommandLine.Invocation.ofArguments second
        = .ok ⟨.format query' document' model instruction', level, structured⟩ →
      instruction.isSome = instruction'.isSome →
      (CommandLine.run first).exitCode = 0 →
      ∃ printed printed' written, CommandLine.run first = .completed printed written ∧
        CommandLine.run second = .completed printed' written := by
  constructor
  · intro first second h
    rw [← Session.observed_run_redacted first, h, Session.observed_run_redacted]
  · intro first second query document query' document' model level instruction instruction'
      structured hfirst hsecond hinstruction haccepted
    obtain ⟨threshold, hname, hrun⟩ := CommandLine.run_of_accepted hfirst haccepted
    have hrun' := (CommandLine.run_of_ofArguments hsecond).trans
      (CommandLine.Invocation.run_of_name hname)
    dsimp only at hrun hrun'
    rw [CommandLine.records_format_congr hinstruction] at hrun
    exact ⟨_, _, _, hrun, hrun'⟩

/-- A batch with an instruction that the model ignores, and the same request on the command line. -/
theorem observed_eq_of_redacted_eq_ignored_instruction :
    let session (rule query text : String) (texts : List String) (instruction : String) :
        List Session.Step :=
      [.logging (.addSink "TRACE"), .object (.template "t" (some rule)),
        .object (.builder "b" "plain"), .logging (.setUp "DEBUG" true),
        .object (.build "b" query text (some instruction)),
        .object (.buildBatch "b" query texts (some instruction))]
    let first := session "rule" "query" "text" ["one", "two"] "secret"
    let second := session "" "" "" ["", "three"] ""
    let separate := ["format", "q", "--instruction", "--", "d", "--model-id=plain"]
    let attached := ["format", "--instruction=", "--model-id", "plain", "--", "--", ""]
    (first.map Session.Step.redacted = second.map Session.Step.redacted ∧
      (Session.run first).map Session.Answer.observed
        = (Session.run second).map Session.Answer.observed) ∧
    CommandLine.Invocation.ofArguments separate
      = .ok ⟨.format "q" "d" "plain" (some "--"), "INFO", false⟩ ∧
    CommandLine.Invocation.ofArguments attached
      = .ok ⟨.format "--" "" "plain" (some ""), "INFO", false⟩ ∧
    (CommandLine.run separate).exitCode = 0 ∧
    ∃ printed printed' written, CommandLine.run separate = .completed printed written ∧
      CommandLine.run attached = .completed printed' written := by
  intro session first second separate attached
  have hredacted : first.map Session.Step.redacted = second.map Session.Step.redacted := rfl
  have hseparate : CommandLine.Invocation.ofArguments separate
      = .ok ⟨.format "q" "d" "plain" (some "--"), "INFO", false⟩ := rfl
  have hattached : CommandLine.Invocation.ofArguments attached
      = .ok ⟨.format "--" "" "plain" (some ""), "INFO", false⟩ := rfl
  have haccepted : (CommandLine.run separate).exitCode = 0 := by decide +kernel
  obtain ⟨hsessions, hlines⟩ := observed_eq_of_redacted_eq
  exact ⟨⟨hredacted, hsessions first second hredacted⟩, hseparate, hattached, haccepted,
    hlines separate attached "q" "d" "--" "" "plain" "INFO" (some "--") (some "") false hseparate
      hattached rfl haccepted⟩

end RerankPrompt
