import Mathlib.Data.List.DropRight
import RerankPrompt.Session.Run

/-!
# What the past steps of a session leave

The log set-up of a session is read off its past: the sinks are those added since the last set-up, and
the console is the one of that set-up, if its level is known (`logging_after`). No object step has a
part in it, and neither has a record that was written.
-/

namespace RerankPrompt.Session

namespace Step

/-- The set-up that a step asks for, whether or not its level is known. -/
def setUp? : Step → Option (String × Bool)
  | .logging (.setUp level structured) => some (level, structured)
  | _ => none

/-- The threshold of the sink that a step adds. -/
def sink? : Step → Option Log.Level
  | .logging (.addSink level) => Log.Level.ofName? level
  | _ => none

end Step

/-- The last set-up among the steps. -/
def lastSetUp? (steps : List Step) : Option (String × Bool) :=
  (steps.filterMap Step.setUp?).getLast?

/-- The console of the last set-up. -/
def lastConsole? (steps : List Step) : Option Log.Console :=
  (lastSetUp? steps).bind fun (level, structured) =>
    (Log.Level.ofName? level).map fun threshold => ⟨threshold, structured⟩

/-- The thresholds of the sinks that were added since the last set-up. -/
def sinksSince (steps : List Step) : List Log.Level :=
  (steps.rtakeWhile fun step => step.setUp?.isNone).filterMap Step.sink?

/-- A session is cut at any of its steps. -/
theorem eq_take_append_cons_drop {steps : List Step} {position : Nat} {step : Step}
    (h : steps[position]? = some step) :
    steps = steps.take position ++ step :: steps.drop (position + 1) := by
  obtain ⟨hlt, rfl⟩ := List.getElem?_eq_some_iff.mp h
  rw [← List.drop_eq_getElem_cons hlt, List.take_append_drop]

/-! ## One more step -/

theorem lastSetUp?_concat (steps : List Step) (step : Step) :
    lastSetUp? (steps ++ [step]) = step.setUp?.or (lastSetUp? steps) := by
  unfold lastSetUp?
  rw [List.filterMap_append, List.getLast?_append]
  cases h : step.setUp? with
  | none => rw [List.filterMap_cons_none h, List.filterMap_nil, List.getLast?_nil]
  | some setUp => rw [List.filterMap_cons_some h, List.filterMap_nil, List.getLast?_singleton]

theorem sinksSince_concat (steps : List Step) (step : Step) :
    sinksSince (steps ++ [step])
      = if step.setUp?.isNone then sinksSince steps ++ step.sink?.toList else [] := by
  unfold sinksSince
  rw [List.rtakeWhile_concat]
  split
  · rw [List.filterMap_append]
    cases h : step.sink? with
    | none => rw [List.filterMap_cons_none h]; rfl
    | some threshold => rw [List.filterMap_cons_some h]; rfl
  · rfl

/-- A step either sets everything up anew or adds at most one sink. -/
theorem logging_stateAfter (state : State) (step : Step) :
    (step.stateAfter state).logging = match step.setUp? with
      | some (level, structured) => .setUp level structured
      | none => { state.logging with sinks := state.logging.sinks ++ step.sink?.toList } := by
  cases step with
  | object step =>
    show state.logging = _
    simp only [Step.setUp?, Step.sink?, Option.toList_none, List.append_nil]
  | logging step =>
    cases step with
    | addSink level => rfl
    | setUp level structured => rfl
    | emit source level message =>
      show state.logging = _
      simp only [Step.setUp?, Step.sink?, Option.toList_none, List.append_nil]

/-! ## All past steps -/

theorem logging_after (steps : List Step) :
    (State.after {} steps).logging = ⟨sinksSince steps, lastConsole? steps⟩ := by
  induction steps using List.reverseRecOn with
  | nil => rfl
  | append_singleton steps step ih =>
    rw [State.after_append, State.after_cons, State.after_nil, logging_stateAfter, ih,
      sinksSince_concat]
    unfold lastConsole?
    rw [lastSetUp?_concat]
    cases step.setUp? with
    | none => rfl
    | some setUp => rfl

/-- A session answers a step from the state that the steps before it leave. -/
theorem getElem?_run (past : List Step) (step : Step) (future : List Step) :
    (run (past ++ step :: future))[past.length]? = some (step.answer (State.after {} past)) := by
  rw [run, State.answers_append, List.getElem?_append_right (by simp), State.length_answers,
    Nat.sub_self, State.answers, List.getElem?_cons_zero]

end RerankPrompt.Session
