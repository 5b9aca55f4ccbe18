import RerankPrompt.Session.Run

/-!
# Results without the log

Object steps read the scope alone, and logging steps leave it alone. So what object steps give and which
spans they end is the same with any logging steps among them, and with none
(`objectAnswers_eq_run_filter`).
-/

namespace RerankPrompt.Session

def Step.isObject : Step → Bool
  | .object _ => true
  | .logging _ => false

/-- An answer without what went to the log. -/
def Answer.unlogged (answer : Answer) : Except Fault Result × List Span :=
  (answer.result, answer.spans)

/-- The answers to the object steps of a session, without what went to the log. -/
def objectAnswers (steps : List Step) : List (Except Fault Result × List Span) :=
  ((steps.zip (run steps)).filter fun entry => entry.1.isObject).map fun entry => entry.2.unlogged

/-! ## Steps -/

theorem unlogged_answer_congr {state other : State} (h : state.scope = other.scope)
    (step : ObjectStep) :
    (Step.answer state (.object step)).unlogged = (Step.answer other (.object step)).unlogged := by
  show ((step.effect state.scope).result, (step.effect state.scope).spans) = _
  rw [h]
  rfl

theorem scope_stateAfter_congr {state other : State} (h : state.scope = other.scope)
    (step : ObjectStep) :
    (Step.stateAfter state (.object step)).scope = (Step.stateAfter other (.object step)).scope :=
  congrArg step.scopeAfter h

theorem scope_stateAfter_logging (state : State) (step : LoggingStep) :
    (Step.stateAfter state (.logging step)).scope = state.scope := rfl

/-! ## Sessions -/

/-- From states with one scope, whatever their handlers are. -/
theorem unlogged_answers_filter {state other : State} (h : state.scope = other.scope)
    (steps : List Step) :
    ((steps.zip (state.answers steps)).filter fun entry => entry.1.isObject).map
        (fun entry => entry.2.unlogged)
      = (other.answers (steps.filter Step.isObject)).map Answer.unlogged := by
  induction steps generalizing state other with
  | nil => rfl
  | cons step steps ih =>
    rw [State.answers, List.zip_cons_cons]
    cases step with
    | object step =>
      rw [List.filter_cons_of_pos rfl, List.filter_cons_of_pos rfl, List.map_cons, State.answers,
        List.map_cons, unlogged_answer_congr h, ih (scope_stateAfter_congr h step)]
    | logging step =>
      rw [List.filter_cons_of_neg Bool.false_ne_true]
      exact ih ((scope_stateAfter_logging state step).trans h)

/-- **Results do not depend on the log**: object steps give the same results, faults and spans as in the
session without its logging steps, and so the same in every session with the same object steps. -/
theorem objectAnswers_eq_run_filter (steps : List Step) :
    objectAnswers steps = (run (steps.filter Step.isObject)).map Answer.unlogged ∧
    ∀ other : List Step, other.filter Step.isObject = steps.filter Step.isObject →
      objectAnswers other = objectAnswers steps := by
  have hfilter (steps : List Step) :
      objectAnswers steps = (run (steps.filter Step.isObject)).map Answer.unlogged :=
    unlogged_answers_filter rfl steps
  refine ⟨hfilter steps, ?_⟩
  intro other h
  rw [hfilter, hfilter, h]

/-- Set-ups that fail, sinks and records between the steps of two builders. -/
theorem objectAnswers_eq_run_filter_interleaved :
    let make (name : String) : Step := .object (.builder name "plain")
    let build : Step := .object (.buildBatch "a" "q" ["one", "two"] (some "rule"))
    let compare : Step := .object (.compare "a" "b")
    let steps := [make "a", .logging (.setUp "LOUD" false), make "b", build, compare]
    let other := [.logging (.setUp "DEBUG" true), make "a", .logging (.addSink "TRACE"), make "b",
      .logging (.emit none "LOUD" "text"), build, .logging (.addSink "10"), compare]
    other.filter Step.isObject = steps.filter Step.isObject ∧
      objectAnswers other = objectAnswers steps := by
  intro make build compare steps other
  have hsame : other.filter Step.isObject = steps.filter Step.isObject := rfl
  exact ⟨hsame, (objectAnswers_eq_run_filter steps).2 other hsame⟩

end RerankPrompt.Session
