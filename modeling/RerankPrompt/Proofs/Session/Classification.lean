import RerankPrompt.Proofs.CommandLine.Printing
import RerankPrompt.Proofs.Session.Binding
import RerankPrompt.Proofs.Session.Routing

/-!
# Whether a model needs a template

The question is decided once, when a builder is made, and is then answered in many places. They all
agree at any later time: no step changes what the identity of a builder, or that of its formatter,
stands for (`Keeps.bind`), whatever names are bound anew, and so each of them reads the builder for
the model (`agrees_of_keeps`).
-/

namespace RerankPrompt.Session

/-! ## What an identity stands for -/

namespace Scope

/-- The builder of this identity has been made, and wherever it or its formatter is named, it is
found with its model and its template. -/
structure Keeps (scope : Scope) (identity : Identity) (builder : Builder) : Prop where
  made : scope.HasMade identity
  ne_formatterOf : ∀ other, identity ≠ .formatterOf other
  value_eq : ∀ {name object}, scope.get? name = some object → object.identity = identity →
    object.value = .builder builder
  formatter_eq : ∀ {name object}, scope.get? name = some object →
    object.identity = .formatterOf identity →
      ∃ template, builder.template = some template ∧ object.value = .template template

variable {scope : Scope} {identity : Identity} {builder : Builder}

/-- An object that is made gets an identity of its own, and a formatter is bound as its builder has
it. -/
theorem Keeps.bind (h : scope.Keeps identity builder) {step : ObjectStep} {name : String}
    {object : Object} (hbinds : step.Binds scope name object) :
    (scope.bind name object).Keeps identity builder where
  made := h.made.bind name object
  ne_formatterOf := h.ne_formatterOf
  value_eq := by
    intro other found hfound hidentity
    rcases get?_bind_eq_some_iff.mp hfound with ⟨rfl, rfl⟩ | ⟨-, hfound⟩
    · rcases hbinds.eq_made_or_formatter with ⟨value, rfl⟩ | ⟨_, _, _, _, -, rfl⟩
      · exact absurd (hidentity ▸ h.made) (not_hasMade_fresh _)
      · exact absurd hidentity.symm (h.ne_formatterOf _)
    · exact h.value_eq hfound hidentity
  formatter_eq := by
    intro other found hfound hidentity
    rcases get?_bind_eq_some_iff.mp hfound with ⟨rfl, rfl⟩ | ⟨-, hfound⟩
    · rcases hbinds.eq_made_or_formatter with ⟨value, rfl⟩ | ⟨_, _, _, _, hsource, rfl⟩
      · cases hidentity
      · cases hidentity
        cases h.value_eq hsource rfl
        exact ⟨_, rfl, rfl⟩
    · exact h.formatter_eq hfound hidentity

/-- Nothing that is named before a builder is made has its identity or is its formatter. -/
theorem Stamped.keeps_make (h : scope.Stamped) (name : String) (builder : Builder) :
    (scope.make name (.builder builder)).Keeps (scope.fresh name) builder where
  made := hasMade_fresh_bind _ _
  ne_formatterOf := by
    intro other heq
    cases heq
  value_eq := by
    intro other found hfound hidentity
    rcases get?_bind_eq_some_iff.mp hfound with ⟨-, rfl⟩ | ⟨-, hfound⟩
    · rfl
    · exact absurd (h.hasMade hfound hidentity) (not_hasMade_fresh name)
  formatter_eq := by
    intro other found hfound hidentity
    rcases get?_bind_eq_some_iff.mp hfound with ⟨-, rfl⟩ | ⟨-, hfound⟩
    · cases hidentity
    · exact absurd (h.hasMade hfound hidentity) (not_hasMade_fresh name)

end Scope

theorem keeps_after_builder (past between : List Step) (name model : String) :
    (State.after {} (past ++ .object (.builder name model) :: between)).scope.Keeps
      ((State.after {} past).scope.fresh name) (.ofModel model) := by
  rw [State.after_append, State.after_cons]
  apply scope_after_of_bind (motive := fun scope => scope.Keeps _ _)
  · intro scope step name object h hbinds
    exact h.bind hbinds
  · exact (Scope.stamped_after past).keeps_make name (.ofModel model)

/-- A builder is named until its name is bound anew. -/
theorem get?_after_builder (past : List Step) {between : List Step} {name : String} (model : String)
    (h : ∀ step ∈ between, step.target? ≠ some name) :
    (State.after {} (past ++ .object (.builder name model) :: between)).scope.get? name
      = some ⟨(State.after {} past).scope.fresh name, .builder (.ofModel model)⟩ := by
  rw [State.after_append, State.after_cons, get?_after_of_target?_ne _ h]
  exact Scope.get?_bind_self _ _ _

/-! ## What a state tells -/

/-- The result of a step in a state. -/
def State.result (state : State) (step : ObjectStep) : Except Fault Result :=
  (Step.answer state (.object step)).result

section Named

variable {state : State} {name : String} {identity : Identity}

theorem result_get {object : Object} (h : state.scope.get? name = some object) {field : String}
    {value : FieldValue} (hvalue : object.readField field = .ok value) :
    state.result (.get name field) = .ok (.field value) := by
  show (ObjectStep.effect state.scope (.get name field)).result = _
  rw [ObjectStep.effect, Scope.object_of_get? h]
  show (Effect.ofExcept (object.readField field >>= _)).result = _
  rw [hvalue]
  rfl

theorem result_format {template : Template}
    (h : state.scope.get? name = some ⟨identity, .template template⟩) (query document : String)
    (instruction : Option String) :
    state.result (.format name query document instruction)
      = .ok (.text (template.render query document instruction)) := by
  show (ObjectStep.effect state.scope (.format name query document instruction)).result = _
  rw [ObjectStep.effect, Scope.template_of_get? h]
  rfl

variable {builder : Builder} (h : state.scope.get? name = some ⟨identity, .builder builder⟩)

include h

theorem result_build (query text : String) (instruction : Option String) :
    state.result (.build name query text instruction)
      = .ok (.input (builder.build query text instruction)) :=
  congrArg Answer.result (Step.answer_build (Scope.builder_of_get? h) query text instruction)

theorem spans_buildBatch (query : String) (texts : List String) (instruction : Option String) :
    (Step.answer state (.object (.buildBatch name query texts instruction))).spans
      = [builder.span texts] := by
  show (ObjectStep.effect state.scope (.buildBatch name query texts instruction)).spans = _
  rw [ObjectStep.effect, Scope.builder_of_get? h]
  rfl

end Named

/-! ## Where the question is answered -/

/-- The template that a model needs. -/
def neededTemplate (model : String) : Option Template :=
  if Model.needsTemplate model then some ⟨generalInstruction⟩ else none

/-- What a state tells of a builder of this name and identity is what the model needs. -/
structure Agrees (state : State) (name model : String) (identity : Identity) : Prop where
  model_eq : state.result (.get name "model_id") = .ok (.field (.text model))
  needsTemplate_eq :
    state.result (.get name "requires_template") = .ok (.field (.flag (Model.needsTemplate model)))
  template_eq :
    state.result (.get name "formatter") = .ok (.field (.template (neededTemplate model)))
  formatter_eq (target : String) :
    state.result (.formatter name target) = .ok (.template (neededTemplate model))
  pair (h : Model.needsTemplate model = false) (query text : String) (instruction : Option String) :
    state.result (.build name query text instruction) = .ok (.input (.pair query text))
  /-- The formatter fills the prompts that are built, once it is named. -/
  prompt (h : Model.needsTemplate model = true) (target query text : String)
    (instruction : Option String) :
    ∃ prompt, state.result (.build name query text instruction) = .ok (.input (.prompt prompt)) ∧
      (Step.stateAfter state (.object (.formatter name target))).result
        (.format target query text instruction) = .ok (.text prompt)
  /-- And so it does under every name that it has already. -/
  prompt_of_named {target : String} {object : Object} (h : state.scope.get? target = some object)
    (hidentity : object.identity = .formatterOf identity) (query text : String)
    (instruction : Option String) :
    ∃ prompt, state.result (.build name query text instruction) = .ok (.input (.prompt prompt)) ∧
      state.result (.format target query text instruction) = .ok (.text prompt)
  spans_eq (query : String) (texts : List String) (instruction : Option String) :
    (Step.answer state (.object (.buildBatch name query texts instruction))).spans
      = [⟨texts.length, Model.needsTemplate model⟩]

/-- A builder that needs a template fills its prompts as its formatter does once that is named. -/
theorem result_format_named {state : State} {name model : String} {identity : Identity}
    {template : Template}
    (h : state.scope.get? name = some ⟨identity, .builder ⟨model, some template⟩⟩)
    (target query document : String) (instruction : Option String) :
    (Step.stateAfter state (.object (.formatter name target))).result
        (.format target query document instruction)
      = .ok (.text (template.render query document instruction)) := by
  have htarget : ((ObjectStep.formatter name target).scopeAfter state.scope).get? target
      = some ⟨.formatterOf identity, .template template⟩ := by
    rw [(ObjectStep.Binds.formatter h).scopeAfter_eq, Scope.get?_bind_self]
  exact result_format htarget query document instruction

theorem agrees_of_keeps {state : State} {identity : Identity} {model name : String}
    {object : Object} (hkeeps : state.scope.Keeps identity (.ofModel model))
    (hname : state.scope.get? name = some object) (hidentity : object.identity = identity) :
    Agrees state name model identity := by
  have hvalue := hkeeps.value_eq hname hidentity
  obtain ⟨_, value⟩ := object
  cases hidentity
  cases hvalue
  have hbuild := result_build hname
  exact {
    model_eq := result_get hname rfl
    needsTemplate_eq := by
      rw [← Builder.needsTemplate_ofModel]
      exact result_get hname rfl
    template_eq := result_get hname rfl
    formatter_eq := ObjectStep.result_formatter hname
    pair := by
      intro h query text instruction
      rw [hbuild, Builder.build_ofModel, h]
      rfl
    prompt := by
      intro h target query text instruction
      have htemplate : Model.template? model = some {} := Model.template?_eq_some_iff.mpr ⟨h, rfl⟩
      rw [Builder.ofModel, htemplate] at hname
      exact ⟨_, result_build hname query text instruction,
        result_format_named hname target query text instruction⟩
    prompt_of_named := by
      intro target object htarget hformatter query text instruction
      obtain ⟨template, htemplate, hvalue⟩ := hkeeps.formatter_eq htarget hformatter
      obtain ⟨_, value⟩ := object
      cases hvalue
      refine ⟨_, ?_, result_format htarget query text instruction⟩
      rw [hbuild, Builder.build, htemplate]
    spans_eq := by
      intro query texts instruction
      rw [spans_buildBatch hname, Builder.span, Builder.needsTemplate_ofModel] }

/-- **All observers of the classification agree**: wherever a builder for a model is still named,
whatever has been done since it was made, it tells what the model needs; and so does the record that
it started with, the template for that model at any time, and what `detect` prints. -/
theorem observers_agree (past between : List Step) (name model : String) :
    let start := State.after {} past
    let state := State.after {} (past ++ .object (.builder name model) :: between)
    let identity := start.scope.fresh name
    ((∀ step ∈ between, step.target? ≠ some name) →
      ∃ object, state.scope.get? name = some object ∧ object.identity = identity) ∧
    (∀ (target : String) (object : Object), state.scope.get? target = some object →
      object.identity = identity → Agrees state target model identity) ∧
    Step.answer start (.object (.builder name model))
      = { result := .ok (.builder ⟨model, neededTemplate model⟩)
          captured := start.logging.captured [announcement model]
          spans := []
          written := start.logging.written [announcement model] } ∧
    (∀ (other : State) (target : String),
      other.result (.factory target model) = .ok (.template (neededTemplate model))) ∧
    ∀ (arguments : List String) (level : String) (structured : Bool),
      CommandLine.Invocation.ofArguments arguments = .ok ⟨.detect model, level, structured⟩ →
      (CommandLine.run arguments).exitCode = 0 →
      (CommandLine.run arguments).printed
        = if Model.needsTemplate model then "true\n" else "false\n" := by
  intro start state identity
  refine ⟨?_, ?_, ?_, fun _ _ => rfl, ?_⟩
  · intro hbetween
    exact ⟨_, get?_after_builder past model hbetween, rfl⟩
  · intro target object hname hidentity
    exact agrees_of_keeps (keeps_after_builder past between name model) hname hidentity
  · rw [← announcement_ofModel]
    rfl
  · intro arguments level structured hread haccepted
    rw [CommandLine.printed_eq hread haccepted, CommandLine.join_values_detect]

/-- A builder whose name was used before, after attempts to change it, with its formatter under a
name that other objects had and a second builder beside it. -/
theorem observers_agree_after_rebinding :
    let past : List Step := [.object (.builder "b" "plain"), .object (.template "f" (some "rule"))]
    let between : List Step := [.object (.formatter "b" "f"),
      .object (.change "b" (.assignProperty .model)),
      .object (.change "f" (.deleteField "default_instruction")), .logging (.setUp "LOUD" false),
      .object (.builder "c" "Qwen3-seq-cls"), .object (.build "b" "q" "t" (some "other rule"))]
    let model := "Qwen3-Reranker"
    let state := State.after {} (past ++ .object (.builder "b" model) :: between)
    let arguments := ["detect", "--", model]
    (∃ object, state.scope.get? "b" = some object ∧ object.identity = .made "b" 1 ∧
      Agrees state "b" model (.made "b" 1)) ∧
    CommandLine.Invocation.ofArguments arguments = .ok ⟨.detect model, "INFO", false⟩ ∧
    (CommandLine.run arguments).exitCode = 0 ∧ (CommandLine.run arguments).printed = "true\n" := by
  intro past between model state arguments
  have hread : CommandLine.Invocation.ofArguments arguments = .ok ⟨.detect model, "INFO", false⟩ :=
    rfl
  have haccepted : (CommandLine.run arguments).exitCode = 0 := by decide +kernel
  have hneeds : Model.needsTemplate model = true := by decide +kernel
  obtain ⟨hnamed, hagrees, -, -, hdetect⟩ := observers_agree past between "b" model
  have hprinted := hdetect arguments "INFO" false hread haccepted
  rw [hneeds, if_pos rfl] at hprinted
  obtain ⟨object, hname, hidentity⟩ := hnamed (by decide)
  exact ⟨⟨object, hname, hidentity, hagrees "b" object hname hidentity⟩, hread, haccepted, hprinted⟩

end RerankPrompt.Session
