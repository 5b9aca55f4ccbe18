import RerankPrompt.Proofs.Log.Form
import RerankPrompt.Proofs.Session.Routing

/-!
# Sessions that differ in their consoles

Of the console a step reads no more than whether there is one. So sessions that differ in what their
set-ups say of it, and not in which of these fail, differ in what the console writes and in nothing
else (`map_unwritten_run`). What it writes for a step is told by the last set-up before: the form,
and which of the records of the step it takes (`written_answer`).
-/

namespace RerankPrompt.Session

/-- An answer without what the console wrote. -/
def Answer.unwritten (answer : Answer) : Except Fault Result × List Log.Record × List Span :=
  (answer.result, answer.captured, answer.spans)

/-- The steps are the same, or both set the console up, in some form and with some level, or both fail
to and give the same reason. -/
inductive Step.SameButConsole : Step → Step → Prop where
  | same (step : Step) : SameButConsole step step
  | form (level : String) (structured structured' : Bool) :
    SameButConsole (.logging (.setUp level structured)) (.logging (.setUp level structured'))
  | level (level level' : Log.Level) (structured : Bool) :
    SameButConsole (.logging (.setUp level.name structured))
      (.logging (.setUp level'.name structured))

/-- The states are the same, but for what the console is if there is one. -/
structure State.SameButConsole (first second : State) : Prop where
  scope_eq : first.scope = second.scope
  sinks_eq : first.logging.sinks = second.logging.sinks
  isSome_eq : first.logging.console.isSome = second.logging.console.isSome

/-- Whether the last set-up among the steps asks for records with all their parts. -/
def isStructured (past : List Step) : Bool :=
  (lastSetUp? past).any Prod.snd

/-- The level of the last set-up among the steps, if it is known. -/
def threshold? (past : List Step) : Option Log.Level :=
  (lastSetUp? past).bind fun setUp => Log.Level.ofName? setUp.1

/-- The records of a step that the console of the last set-up before it takes. -/
def taken (past : List Step) (step : Step) : List Log.Record :=
  match threshold? past with
  | none => []
  | some threshold => (step.records (State.after {} past).scope).filter fun record =>
      decide (threshold ≤ record.level) && record.isFrom Log.packageName

/-! ## What a step reads of the handlers -/

/-- A step reads the objects, and of the handlers whether there is any. -/
theorem Step.effect_congr {first second : State} (hscope : first.scope = second.scope)
    (hsilent : first.logging.isSilent = second.logging.isSilent) (step : Step) :
    step.effect first = step.effect second := by
  cases step with
  | object step => exact congrArg (step.effect ·) hscope
  | logging step =>
    cases step with
    | addSink level => rfl
    | setUp level structured => rfl
    | emit source level message => simp only [effect, LoggingStep.effect, hsilent]

namespace State.SameButConsole

variable {first second : State} (h : first.SameButConsole second)

theorem refl (state : State) : state.SameButConsole state := ⟨rfl, rfl, rfl⟩

include h

theorem isSilent_eq : first.logging.isSilent = second.logging.isSilent := by
  unfold Log.Logging.isSilent
  rw [h.sinks_eq, ← Option.not_isSome, ← Option.not_isSome, h.isSome_eq]

variable {step step' : Step} (hstep : step.SameButConsole step')

include hstep

theorem effect_eq : step.effect first = step'.effect second := by
  rw [step.effect_congr h.scope_eq h.isSilent_eq]
  cases hstep with
  | same step => rfl
  | form level structured structured' => rfl
  | level level level' structured =>
    have hparse (level : Log.Level) : Log.Level.parse level.name = .ok level :=
      Log.Level.parse_eq_ok_iff.mpr rfl
    simp only [Step.effect, LoggingStep.effect, hparse]
    rfl

theorem unwritten_answer : (step.answer first).unwritten = (step'.answer second).unwritten := by
  have hcaptured : first.logging.captured = second.logging.captured := by
    unfold Log.Logging.captured
    rw [h.sinks_eq]
  simp only [Answer.unwritten, Step.answer, h.effect_eq hstep, hcaptured]

theorem stateAfter : (step.stateAfter first).SameButConsole (step'.stateAfter second) := by
  cases hstep with
  | same step =>
    cases step with
    | object step => exact ⟨congrArg (step.scopeAfter ·) h.scope_eq, h.sinks_eq, h.isSome_eq⟩
    | logging step =>
      cases step with
      | addSink level => exact ⟨h.scope_eq, congrArg (· ++ _) h.sinks_eq, h.isSome_eq⟩
      | setUp level structured => exact ⟨h.scope_eq, rfl, rfl⟩
      | emit source level message => exact h
  | form level structured structured' =>
    exact ⟨h.scope_eq, rfl, Option.isSome_map.trans Option.isSome_map.symm⟩
  | level level level' structured =>
    have hisSome (level : Log.Level) :
        (Log.Logging.setUp level.name structured).console.isSome = true := by
      simp [Log.Logging.setUp]
    exact ⟨h.scope_eq, rfl, (hisSome level).trans (hisSome level').symm⟩

end State.SameButConsole

/-! ## Sessions -/

section Sessions

variable {first second : State} {steps steps' : List Step}

theorem State.SameButConsole.after (h : first.SameButConsole second)
    (hsteps : List.Forall₂ Step.SameButConsole steps steps') :
    (first.after steps).SameButConsole (second.after steps') := by
  induction hsteps generalizing first second with
  | nil => exact h
  | cons hstep _ ih => exact ih (h.stateAfter hstep)

theorem State.SameButConsole.map_unwritten_answers (h : first.SameButConsole second)
    (hsteps : List.Forall₂ Step.SameButConsole steps steps') :
    (first.answers steps).map Answer.unwritten = (second.answers steps').map Answer.unwritten := by
  induction hsteps generalizing first second with
  | nil => rfl
  | cons hstep _ ih =>
    rw [State.answers, State.answers, List.map_cons, List.map_cons, h.unwritten_answer hstep,
      ih (h.stateAfter hstep)]

theorem map_unwritten_run (hsteps : List.Forall₂ Step.SameButConsole steps steps') :
    (run steps).map Answer.unwritten = (run steps').map Answer.unwritten :=
  (State.SameButConsole.refl {}).map_unwritten_answers hsteps

theorem scope_after_eq (hsteps : List.Forall₂ Step.SameButConsole steps steps') :
    (State.after {} steps).scope = (State.after {} steps').scope :=
  ((State.SameButConsole.refl {}).after hsteps).scope_eq

end Sessions

/-! ## What the console writes -/

theorem written_answer (past : List Step) (step : Step) :
    (step.answer (State.after {} past)).written
      = Log.Output.ofRecords (isStructured past) (taken past step) := by
  show (State.after {} past).logging.written _ = _
  rw [records_effect, logging_after]
  unfold Log.Logging.written lastConsole? taken threshold? isStructured
  cases lastSetUp? past with
  | none => rfl
  | some setUp =>
    obtain ⟨level, structured⟩ := setUp
    simp only [Option.bind_some]
    cases Log.Level.ofName? level with
    | none => exact (Log.Output.ofRecords_nil _).symm
    | some threshold => rfl

theorem exists_of_getElem?_run {steps : List Step} {k : Nat} {answer : Answer}
    (h : (run steps)[k]? = some answer) :
    ∃ step, steps[k]? = some step ∧ answer = step.answer (State.after {} (steps.take k)) := by
  have hk : k < steps.length := by
    rw [← State.length_answers {} steps]
    exact (List.getElem?_eq_some_iff.mp h).1
  have hstep : steps[k]? = some steps[k] := List.getElem?_eq_getElem hk
  have hanswer := getElem?_run (steps.take k) steps[k] (steps.drop (k + 1))
  rw [← eq_take_append_cons_drop hstep, List.length_take_of_le (Nat.le_of_lt hk), h] at hanswer
  exact ⟨steps[k], hstep, Option.some.inj hanswer⟩

end RerankPrompt.Session
