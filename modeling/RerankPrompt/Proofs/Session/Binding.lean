import RerankPrompt.Session.Run

/-!
# What steps bind

A step binds at most one name: to an object that it makes, or to the template that a builder holds.
All other steps leave the scope as it is (`scopeAfter_eq_self_or_binds`). So what holds of a scope
and is kept by every binding holds after a whole session (`scope_after_of_bind`).

An object that is made gets an identity that no object in reach has had before: in every scope that
a session reaches, the bindings of a name outnumber the objects that were made for it
(`stamped_after`).
-/

namespace RerankPrompt.Session

namespace Scope

variable {scope : Scope} {name : String} {identity : Identity}

theorem get?_bind_eq_some_iff {object found : Object} {other : String} :
    (scope.bind name object).get? other = some found ↔
      other = name ∧ object = found ∨ other ≠ name ∧ scope.get? other = some found := by
  by_cases h : other = name
  · subst h
    simp
  · simp [h, get?_bind_of_ne h]

theorem slot_bind_of_ne {object : Object} {other : String} (h : other ≠ name) :
    (scope.bind name object).slot other = scope.slot other :=
  if_neg h

theorem object_of_get? {object : Object} (h : scope.get? name = some object) :
    scope.object name = .ok object := by
  simp only [Scope.object, h]

theorem template_of_get? {template : Template}
    (h : scope.get? name = some ⟨identity, .template template⟩) :
    scope.template name = .ok template := by
  unfold Scope.template
  rw [object_of_get? h]
  rfl

theorem identifiedBuilder_eq_ok_iff {builder : Builder} :
    scope.identifiedBuilder name = .ok (identity, builder) ↔
      scope.get? name = some ⟨identity, .builder builder⟩ := by
  constructor
  · intro h
    unfold identifiedBuilder object at h
    cases hget : scope.get? name with
    | none =>
      rw [hget] at h
      cases h
    | some object =>
      obtain ⟨identity', value⟩ := object
      rw [hget] at h
      cases value with
      | template template => cases h
      | builder builder =>
        cases h
        rfl
  · intro h
    unfold identifiedBuilder
    rw [object_of_get? h]
    rfl

theorem builder_of_get? {builder : Builder}
    (h : scope.get? name = some ⟨identity, .builder builder⟩) :
    scope.builder name = .ok builder := by
  rw [Scope.builder, identifiedBuilder_eq_ok_iff.mpr h]
  rfl

end Scope

namespace ObjectStep

theorem result_formatter {scope : Scope} {source : String} {identity : Identity}
    {builder : Builder} (h : scope.get? source = some ⟨identity, .builder builder⟩)
    (name : String) :
    ((ObjectStep.formatter source name).effect scope).result
      = .ok (.template builder.template) := by
  rw [effect, Scope.builder_of_get? h]
  rfl

/-- A step lets a name stand for an object. -/
inductive Binds (scope : Scope) : ObjectStep → String → Object → Prop where
  | template (name : String) (defaultInstruction : Option String) :
    Binds scope (.template name defaultInstruction) name
      ⟨scope.fresh name, .template ⟨defaultInstruction.getD generalInstruction⟩⟩
  | factory {name model : String} {template : Template} :
    Model.template? model = some template →
      Binds scope (.factory name model) name ⟨scope.fresh name, .template template⟩
  | builder (name model : String) :
    Binds scope (.builder name model) name ⟨scope.fresh name, .builder (.ofModel model)⟩
  | formatter {source name model : String} {identity : Identity} {template : Template} :
    scope.get? source = some ⟨identity, .builder ⟨model, some template⟩⟩ →
      Binds scope (.formatter source name) name ⟨.formatterOf identity, .template template⟩

theorem Binds.scopeAfter_eq {scope : Scope} {step : ObjectStep} {name : String} {object : Object}
    (h : step.Binds scope name object) : step.scopeAfter scope = scope.bind name object := by
  cases h with
  | template name defaultInstruction => rfl
  | factory hmodel => simp only [scopeAfter, hmodel, Scope.make]
  | builder name model => rfl
  | formatter hsource =>
    simp only [scopeAfter, Scope.identifiedBuilder_eq_ok_iff.mpr hsource]

/-- What is bound has just been made, or is the template of a builder that is named. -/
theorem Binds.eq_made_or_formatter {scope : Scope} {step : ObjectStep} {name : String}
    {object : Object} (h : step.Binds scope name object) :
    (∃ value, object = ⟨scope.fresh name, value⟩) ∨
      ∃ source model identity template,
        scope.get? source = some ⟨identity, .builder ⟨model, some template⟩⟩ ∧
          object = ⟨.formatterOf identity, .template template⟩ := by
  cases h with
  | template name defaultInstruction => exact Or.inl ⟨_, rfl⟩
  | factory hmodel => exact Or.inl ⟨_, rfl⟩
  | builder name model => exact Or.inl ⟨_, rfl⟩
  | formatter hsource => exact Or.inr ⟨_, _, _, _, hsource, rfl⟩

/-- Only a step that makes a builder binds one. -/
theorem Binds.eq_builder {scope : Scope} {step : ObjectStep} {name : String} {object : Object}
    {builder : Builder} (h : step.Binds scope name object) (hvalue : object.value = .builder builder) :
    object.identity = scope.fresh name ∧ ∃ model, step = .builder name model := by
  cases h with
  | builder name model => exact ⟨rfl, model, rfl⟩
  | _ => cases hvalue

theorem scopeAfter_eq_self_or_binds (scope : Scope) (step : ObjectStep) :
    step.scopeAfter scope = scope ∨ ∃ name object, step.Binds scope name object := by
  cases step with
  | template name defaultInstruction => exact Or.inr ⟨_, _, .template name defaultInstruction⟩
  | factory name model =>
    cases hmodel : Model.template? model with
    | none =>
      left
      simp only [scopeAfter, hmodel]
    | some template => exact Or.inr ⟨_, _, .factory hmodel⟩
  | builder name model => exact Or.inr ⟨_, _, .builder name model⟩
  | formatter source name =>
    rcases hsource : scope.identifiedBuilder source with fault | ⟨identity, model, template⟩
    · left
      simp only [scopeAfter, hsource]
    · cases template with
      | none =>
        left
        simp only [scopeAfter, hsource]
      | some template =>
        exact Or.inr ⟨_, _, .formatter (Scope.identifiedBuilder_eq_ok_iff.mp hsource)⟩
  | change object attempt => exact Or.inl (scopeAfter_change scope object attempt)
  | _ => exact Or.inl rfl

end ObjectStep

/-- The name that a step binds, if it binds one. -/
def Step.target? : Step → Option String
  | .object (.template name _) | .object (.factory name _) | .object (.builder name _)
  | .object (.formatter _ name) => some name
  | _ => none

theorem ObjectStep.Binds.target?_eq {scope : Scope} {step : ObjectStep} {name : String}
    {object : Object} (h : step.Binds scope name object) :
    Step.target? (.object step) = some name := by
  cases h <;> rfl

/-- The name that a step binds, told by its answer: only a step that shows an object binds one. -/
def Step.bound? (step : Step) (answer : Answer) : Option String :=
  match answer.result with
  | .ok (.template (some _)) | .ok (.builder _) => step.target?
  | _ => none

theorem ObjectStep.Binds.bound?_eq {state : State} {step : ObjectStep} {name : String}
    {object : Object} (h : step.Binds state.scope name object) :
    Step.bound? (.object step) (Step.answer state (.object step)) = some name := by
  cases h with
  | template name defaultInstruction => rfl
  | @factory name model template hmodel =>
    have hresult : (Step.answer state (.object (.factory name model))).result
        = .ok (.template (some template)) :=
      congrArg (fun found => Except.ok (Result.template found)) hmodel
    simp only [Step.bound?, hresult]
    rfl
  | builder name model => rfl
  | @formatter source name model identity template hsource =>
    have hresult : (Step.answer state (.object (.formatter source name))).result
        = .ok (.template (some template)) := result_formatter hsource name
    simp only [Step.bound?, hresult]
    rfl

theorem ObjectStep.exists_binds_of_bound? {state : State} {step : ObjectStep} {name : String}
    (h : Step.bound? (.object step) (Step.answer state (.object step)) = some name) :
    ∃ object, step.Binds state.scope name object := by
  cases step with
  | template other defaultInstruction =>
    cases h
    exact ⟨_, .template name defaultInstruction⟩
  | factory other model =>
    cases hmodel : Model.template? model with
    | none =>
      simp only [Step.bound?, Step.answer, Step.effect, effect, Effect.value, hmodel] at h
      cases h
    | some template =>
      simp only [Step.bound?, Step.answer, Step.effect, effect, Effect.value, hmodel] at h
      cases h
      exact ⟨_, .factory hmodel⟩
  | builder other model =>
    cases h
    exact ⟨_, .builder name model⟩
  | formatter source other =>
    rcases hsource : state.scope.identifiedBuilder source with fault | ⟨identity, model, template⟩
    · simp only [Step.bound?, Step.answer, Step.effect, effect, Scope.builder, hsource] at h
      cases h
    · simp only [Step.bound?, Step.answer, Step.effect, effect, Scope.builder, hsource] at h
      cases template with
      | none => cases h
      | some template =>
        cases h
        exact ⟨_, .formatter (Scope.identifiedBuilder_eq_ok_iff.mp hsource)⟩
  | _ =>
    unfold Step.bound? at h
    split at h
    · cases h
    · cases h
    · cases h

theorem Step.scope_stateAfter_eq_self_or_binds (state : State) (step : Step) :
    (step.stateAfter state).scope = state.scope ∨ ∃ made name object, step = .object made ∧
      made.Binds state.scope name object ∧
      (step.stateAfter state).scope = state.scope.bind name object := by
  cases step with
  | logging step => exact Or.inl rfl
  | object step =>
    rcases step.scopeAfter_eq_self_or_binds state.scope with hself | ⟨name, object, hbinds⟩
    · exact Or.inl hself
    · exact Or.inr ⟨step, name, object, rfl, hbinds, hbinds.scopeAfter_eq⟩

theorem Step.target?_of_bound? {step : Step} {answer : Answer} {name : String}
    (h : step.bound? answer = some name) : step.target? = some name := by
  unfold bound? at h
  split at h
  · exact h
  · exact h
  · cases h

theorem Step.exists_binds_of_bound? {state : State} {step : Step} {name : String}
    (h : step.bound? (step.answer state) = some name) :
    ∃ made object, step = .object made ∧ made.Binds state.scope name object := by
  cases step with
  | object step =>
    obtain ⟨object, hbinds⟩ := ObjectStep.exists_binds_of_bound? h
    exact ⟨step, object, rfl, hbinds⟩
  | logging step =>
    unfold Step.bound? at h
    split at h
    · cases h
    · cases h
    · cases h

/-- Steps leave the names alone that they do not bind. -/
theorem Step.slot_stateAfter_of_bound?_ne {state : State} {step : Step} {name : String}
    (h : step.bound? (step.answer state) ≠ some name) :
    (step.stateAfter state).scope.slot name = state.scope.slot name := by
  rcases step.scope_stateAfter_eq_self_or_binds state with hself | ⟨made, other, object, rfl, hbinds,
    hscope⟩
  · rw [hself]
  · have hother : name ≠ other := by
      rintro rfl
      exact h hbinds.bound?_eq
    rw [hscope, Scope.slot_bind_of_ne hother]

theorem Step.get?_stateAfter_of_bound?_ne {state : State} {step : Step} {name : String}
    (h : step.bound? (step.answer state) ≠ some name) :
    (step.stateAfter state).scope.get? name = state.scope.get? name :=
  congrArg Slot.object (Step.slot_stateAfter_of_bound?_ne h)

/-- What every binding keeps holds of the scope after any steps. -/
theorem scope_after_of_bind {motive : Scope → Prop}
    (hbind : ∀ scope step name object, motive scope → ObjectStep.Binds scope step name object →
      motive (scope.bind name object))
    {state : State} (h : motive state.scope) (steps : List Step) :
    motive (state.after steps).scope := by
  induction steps generalizing state with
  | nil => exact h
  | cons step steps ih =>
    rw [State.after_cons]
    apply ih
    rcases step.scope_stateAfter_eq_self_or_binds state with hself | ⟨made, name, object, -, hbinds,
      hscope⟩
    · rwa [hself]
    · rw [hscope]
      exact hbind state.scope made name object h hbinds

/-- A name stands for the same object until a step binds it. -/
theorem get?_after_of_target?_ne {name : String} (state : State) {steps : List Step}
    (h : ∀ step ∈ steps, step.target? ≠ some name) :
    (state.after steps).scope.get? name = state.scope.get? name := by
  induction steps generalizing state with
  | nil => rfl
  | cons step steps ih =>
    obtain ⟨hstep, hsteps⟩ := List.forall_mem_cons.mp h
    rw [State.after_cons, ih (step.stateAfter state) hsteps]
    rcases step.scope_stateAfter_eq_self_or_binds state with hself | ⟨made, other, object, rfl,
      hbinds, hscope⟩
    · rw [hself]
    · rw [hscope, Scope.get?_bind_of_ne]
      rintro rfl
      exact hstep hbinds.target?_eq

/-- Every builder that is named has been made for its model. -/
theorem eq_ofModel_of_get? {steps : List Step} {name : String} {identity : Identity}
    {builder : Builder}
    (h : (State.after {} steps).scope.get? name = some ⟨identity, .builder builder⟩) :
    builder = .ofModel builder.model := by
  revert name identity builder
  apply scope_after_of_bind (motive := fun scope => ∀ {name identity builder},
    scope.get? name = some ⟨identity, .builder builder⟩ → builder = .ofModel builder.model)
  · intro scope step name object hscope hbinds other identity builder hget
    rcases Scope.get?_bind_eq_some_iff.mp hget with ⟨-, rfl⟩ | ⟨-, hget⟩
    · cases hbinds
      rfl
    · exact hscope hget
  · intro name identity builder hget
    cases hget

/-! ## Identities -/

namespace Scope

variable {scope : Scope}

/-- The object of this identity has been made, or the builder that holds it. -/
def HasMade (scope : Scope) : Identity → Prop
  | .made name generation => generation < (scope.slot name).generation
  | .formatterOf builder => scope.HasMade builder

theorem not_hasMade_fresh (name : String) : ¬ scope.HasMade (scope.fresh name) :=
  Nat.lt_irrefl _

theorem hasMade_fresh_bind (name : String) (object : Object) :
    (scope.bind name object).HasMade (scope.fresh name) := by
  simp only [fresh, HasMade, bind, if_true, Nat.lt_succ_self]

theorem HasMade.bind {identity : Identity} (h : scope.HasMade identity) (name : String)
    (object : Object) : (scope.bind name object).HasMade identity := by
  induction identity with
  | made other generation =>
    show generation < ((scope.bind name object).slot other).generation
    by_cases hother : other = name
    · subst hother
      simp only [Scope.bind, if_true]
      exact Nat.lt_succ_of_lt h
    · simp only [Scope.bind, if_neg hother]
      exact h
  | formatterOf builder ih => exact ih h

theorem HasMade.after {state : State} {identity : Identity} (h : state.scope.HasMade identity)
    (steps : List Step) : (state.after steps).scope.HasMade identity := by
  apply scope_after_of_bind (motive := fun scope => scope.HasMade identity)
  · intro scope step name object hmade _
    exact hmade.bind name object
  · exact h

/-- All objects that are named have been made. -/
def Stamped (scope : Scope) : Prop :=
  ∀ ⦃name : String⦄ ⦃object : Object⦄, scope.get? name = some object →
    scope.HasMade object.identity

theorem Stamped.hasMade (h : scope.Stamped) {name : String} {object : Object} {identity : Identity}
    (hget : scope.get? name = some object) (hidentity : object.identity = identity) :
    scope.HasMade identity :=
  hidentity ▸ h hget

theorem Stamped.bind (h : scope.Stamped) {step : ObjectStep} {name : String} {object : Object}
    (hbinds : step.Binds scope name object) : (scope.bind name object).Stamped := by
  intro other found hfound
  rcases get?_bind_eq_some_iff.mp hfound with ⟨rfl, rfl⟩ | ⟨-, hfound⟩
  · rcases hbinds.eq_made_or_formatter with ⟨value, rfl⟩ | ⟨source, model, identity, template,
      hsource, rfl⟩
    · exact hasMade_fresh_bind _ _
    · have hmade : scope.HasMade (.formatterOf identity) := h hsource
      exact hmade.bind _ _
  · exact (h hfound).bind name object

theorem stamped_after (steps : List Step) : (State.after {} steps).scope.Stamped := by
  apply scope_after_of_bind (motive := Stamped)
  · intro scope step name object h hbinds
    exact h.bind hbinds
  · intro name object hfound
    cases hfound

end Scope

end RerankPrompt.Session
