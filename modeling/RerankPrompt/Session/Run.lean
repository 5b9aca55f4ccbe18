import RerankPrompt.Session.Step

/-!
# Running a session

A session starts with no object and no handler. Each step is answered with its result, what the
capture sinks received, the spans it ended and what the console wrote.
-/

namespace RerankPrompt.Session

structure State where
  scope : Scope := {}
  logging : Log.Logging := {}

/-- What a session answers to one step. -/
structure Answer where
  result : Except Fault Result
  captured : List Log.Record
  spans : List Span
  written : Log.Output

namespace Step

/-- What a step does. -/
def effect (state : State) : Step → Effect
  | .object step => step.effect state.scope
  | .logging step => step.effect state.logging

/-- The state after a step. -/
def stateAfter (state : State) : Step → State
  | .object step => { state with scope := step.scopeAfter state.scope }
  | .logging step => { state with logging := step.loggingAfter state.logging }

/-- The answer to a step: its effect, with the records taken to the handlers. -/
def answer (state : State) (step : Step) : Answer :=
  let effect := step.effect state
  { result := effect.result
    captured := state.logging.captured effect.records
    spans := effect.spans
    written := state.logging.written effect.records }

theorem answer_build {state : State} {name : String} {builder : Builder}
    (h : state.scope.builder name = .ok builder) (query text : String)
    (instruction : Option String) :
    answer state (.object (.build name query text instruction))
      = { result := .ok (.input (builder.build query text instruction))
          captured := state.logging.captured (builder.remarks instruction)
          spans := []
          written := state.logging.written (builder.remarks instruction) } := by
  simp only [answer, effect, ObjectStep.effect, h]
  rfl

end Step

namespace State

/-- The state after a list of steps. -/
def after (state : State) (steps : List Step) : State :=
  steps.foldl Step.stateAfter state

/-- The answers to a list of steps. -/
def answers (state : State) : List Step → List Answer
  | [] => []
  | step :: steps => step.answer state :: (step.stateAfter state).answers steps

@[simp]
theorem after_nil (state : State) : state.after [] = state := rfl

@[simp]
theorem after_cons (state : State) (step : Step) (steps : List Step) :
    state.after (step :: steps) = (step.stateAfter state).after steps := rfl

theorem after_append (state : State) (first second : List Step) :
    state.after (first ++ second) = (state.after first).after second := by
  simp [after]

theorem answers_append (state : State) (first second : List Step) :
    state.answers (first ++ second)
      = state.answers first ++ (state.after first).answers second := by
  induction first generalizing state with
  | nil => rfl
  | cons step steps ih => simp [answers, ih]

@[simp]
theorem length_answers (state : State) (steps : List Step) :
    (state.answers steps).length = steps.length := by
  induction steps generalizing state with
  | nil => rfl
  | cons step steps ih => simp [answers, ih]

end State

/-- The answers of a session. -/
def run (steps : List Step) : List Answer :=
  State.answers {} steps

end RerankPrompt.Session
