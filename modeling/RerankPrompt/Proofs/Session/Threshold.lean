import Mathlib.Data.List.Flatten
import Mathlib.Data.List.Forall2
import RerankPrompt.CommandLine.Run
import RerankPrompt.Proofs.Session.Console

/-!
# Higher thresholds

A threshold is raised for one handler and for as long as that handler is there. A console that is set
up with a higher level writes, until the next set-up, what reaches that level of what it wrote before;
a sink that is added with a higher level may miss entries below it. No other output changes, no result
and no span, and a command line with a higher level prints the same (`run_raised`).
-/

namespace RerankPrompt

namespace Session

/-- The answer is the original one, but that entries below the level may be missing from what the sinks
captured. -/
structure Answer.MissesBelow (level : Log.Level) (answer original : Answer) : Prop where
  result_eq : answer.result = original.result
  spans_eq : answer.spans = original.spans
  written_eq : answer.written = original.written
  captured_sublist : answer.captured.Sublist original.captured
  filter_captured_eq : (answer.captured.filter fun record => decide (level ≤ record.level))
    = original.captured.filter fun record => decide (level ≤ record.level)

theorem Answer.MissesBelow.refl (level : Log.Level) (answer : Answer) :
    answer.MissesBelow level answer :=
  ⟨rfl, rfl, rfl, List.Sublist.refl _, rfl⟩

/-- A step that is answered as another one in its place leaves the answers up to it as they were. -/
theorem take_run_eq {past : List Step} {step step' : Step}
    (h : step.answer (State.after {} past) = step'.answer (State.after {} past))
    (future : List Step) :
    (run (past ++ step :: future)).take (past.length + 1)
      = (run (past ++ step' :: future)).take (past.length + 1) := by
  have htake (step : Step) : (run (past ++ step :: future)).take (past.length + 1)
      = State.answers {} past ++ [step.answer (State.after {} past)] := by
    rw [run, State.answers_append, State.answers, ← State.length_answers {} past,
      List.take_length_add_append]
    rfl
  rw [htake, htake, h]

/-! ## A console that is set up with a higher level -/

theorem lastSetUp?_append (first second : List Step) :
    lastSetUp? (first ++ second) = (lastSetUp? second).or (lastSetUp? first) := by
  unfold lastSetUp?
  rw [List.filterMap_append, List.getLast?_append]

theorem lastSetUp?_setUp_append (past between : List Step) (level : String) (structured : Bool) :
    lastSetUp? (past ++ .logging (.setUp level structured) :: between)
      = (lastSetUp? between).or (some (level, structured)) := by
  rw [List.append_cons, lastSetUp?_append, lastSetUp?_concat]
  rfl

theorem lastSetUp?_eq_none {steps : List Step} (h : ∀ step ∈ steps, step.setUp? = none) :
    lastSetUp? steps = none := by
  rw [lastSetUp?, List.filterMap_eq_nil_iff.mpr h, List.getLast?_nil]

theorem exists_lastSetUp? {steps : List Step} (h : ∃ step ∈ steps, step.setUp?.isSome = true) :
    ∃ setUp, lastSetUp? steps = some setUp := by
  obtain ⟨step, hstep, hsome⟩ := h
  obtain ⟨setUp, hsetUp⟩ := Option.isSome_iff_exists.mp hsome
  have hmem : setUp ∈ steps.filterMap Step.setUp? := List.mem_filterMap.mpr ⟨step, hstep, hsetUp⟩
  exact ⟨_, List.getLast?_eq_some_getLast (List.ne_nil_of_mem hmem)⟩

section Console

variable {low high : Log.Level} (past : List Step) (structured : Bool)

theorem forall₂_setUp (low high : Log.Level) (future : List Step) :
    List.Forall₂ Step.SameButConsole (past ++ .logging (.setUp low.name structured) :: future)
      (past ++ .logging (.setUp high.name structured) :: future) := by
  have hrefl (steps : List Step) : List.Forall₂ Step.SameButConsole steps steps :=
    List.forall₂_same.mpr fun step _ => .same step
  exact List.rel_append (hrefl past) (.cons (.level low high structured) (hrefl future))

theorem answer_setUp (low high : Log.Level) (state : State) :
    Step.answer state (.logging (.setUp high.name structured))
      = Step.answer state (.logging (.setUp low.name structured)) := by
  unfold Step.answer
  rw [(State.SameButConsole.refl state).effect_eq (.level high low structured)]

variable {between : List Step}

/-- After another set-up the console is what that one made of it. -/
theorem written_of_setUp_mem (hbetween : ∃ other ∈ between, other.setUp?.isSome = true)
    (low high : Log.Level) (step : Step) :
    (step.answer
        (State.after {} (past ++ .logging (.setUp high.name structured) :: between))).written
      = (step.answer
          (State.after {} (past ++ .logging (.setUp low.name structured) :: between))).written := by
  obtain ⟨setUp, hsetUp⟩ := exists_lastSetUp? hbetween
  have hlast (level : Log.Level) :
      lastSetUp? (past ++ .logging (.setUp level.name structured) :: between) = some setUp := by
    rw [lastSetUp?_setUp_append, hsetUp]
    rfl
  rw [written_answer, written_answer]
  unfold taken threshold? isStructured
  rw [hlast, hlast, scope_after_eq (forall₂_setUp past structured high low between)]

/-- Until then it takes what reaches its level. -/
theorem written_of_forall_setUp? (hbetween : ∀ other ∈ between, other.setUp? = none)
    (level : Log.Level) (step : Step) :
    let state := State.after {} (past ++ .logging (.setUp level.name structured) :: between)
    (step.answer state).written = .ofRecords structured
      ((step.records state.scope).filter (Log.Console.accepts ⟨level, structured⟩)) := by
  intro state
  have hlast : lastSetUp? (past ++ .logging (.setUp level.name structured) :: between)
      = some (level.name, structured) := by
    rw [lastSetUp?_setUp_append, lastSetUp?_eq_none hbetween]
    rfl
  rw [written_answer]
  unfold taken threshold? isStructured
  rw [hlast, Option.bind_some, Log.Level.ofName?_name]
  rfl

end Console

/-! ## A sink that is added with a higher level -/

/-- A threshold is as it was, or was raised to the level. -/
def IsRaised (level threshold original : Log.Level) : Prop :=
  threshold = original ∨ original ≤ level ∧ threshold = level

theorem IsRaised.le_of_le {level threshold original bound : Log.Level}
    (h : IsRaised level threshold original) (hbound : threshold ≤ bound) : original ≤ bound := by
  rcases h with rfl | ⟨hle, rfl⟩
  · exact hbound
  · exact Log.Level.le_trans hle hbound

theorem IsRaised.le_iff {level threshold original bound : Log.Level}
    (h : IsRaised level threshold original) (hbound : level ≤ bound) :
    threshold ≤ bound ↔ original ≤ bound := by
  refine ⟨h.le_of_le, fun horiginal => ?_⟩
  rcases h with rfl | ⟨-, rfl⟩
  · exact horiginal
  · exact hbound

/-- The states are the same, but that thresholds of sinks were raised to the level. -/
structure State.SinksRaised (level : Log.Level) (state original : State) : Prop where
  scope_eq : state.scope = original.scope
  console_eq : state.logging.console = original.logging.console
  sinks : List.Forall₂ (IsRaised level) state.logging.sinks original.logging.sinks

/-- What sinks with these thresholds capture of a record, an entry for each that accepts it. -/
def entriesOf (sinks : List Log.Level) (record : Log.Record) : List Log.Record :=
  (sinks.filter fun threshold => decide (threshold ≤ record.level)).map fun _ => record

theorem captured_eq_flatMap (logging : Log.Logging) (records : List Log.Record) :
    logging.captured records = records.flatMap (entriesOf logging.sinks) := rfl

theorem entriesOf_cons (threshold : Log.Level) (sinks : List Log.Level) (record : Log.Record) :
    entriesOf (threshold :: sinks) record
      = if threshold ≤ record.level then record :: entriesOf sinks record
        else entriesOf sinks record := by
  unfold entriesOf
  by_cases h : threshold ≤ record.level
  · rw [if_pos h, List.filter_cons_of_pos (by simpa using h), List.map_cons]
  · rw [if_neg h, List.filter_cons_of_neg (by simpa using h)]

section Entries

variable {level : Log.Level} {sinks originals : List Log.Level}
  (h : List.Forall₂ (IsRaised level) sinks originals)

include h

theorem isEmpty_eq_of_isRaised : sinks.isEmpty = originals.isEmpty := by
  cases h <;> rfl

theorem entriesOf_sublist (record : Log.Record) :
    (entriesOf sinks record).Sublist (entriesOf originals record) := by
  induction h with
  | nil => exact List.Sublist.refl _
  | cons hraised _ ih =>
    rw [entriesOf_cons, entriesOf_cons]
    split
    · next hthreshold =>
      rw [if_pos (hraised.le_of_le hthreshold)]
      exact ih.cons_cons record
    · split
      · exact ih.cons record
      · exact ih

theorem entriesOf_eq {record : Log.Record} (hrecord : level ≤ record.level) :
    entriesOf sinks record = entriesOf originals record := by
  induction h with
  | nil => rfl
  | cons hraised _ ih =>
    rw [entriesOf_cons, entriesOf_cons, ih]
    simp only [hraised.le_iff hrecord]

theorem filter_entriesOf (record : Log.Record) :
    ((entriesOf sinks record).filter fun entry => decide (level ≤ entry.level))
      = (entriesOf originals record).filter fun entry => decide (level ≤ entry.level) := by
  by_cases hrecord : level ≤ record.level
  · rw [entriesOf_eq h hrecord]
  · -- entries are copies of the record, so none of them reaches the level
    have hnone (sinks : List Log.Level) :
        ((entriesOf sinks record).filter fun entry => decide (level ≤ entry.level)) = [] := by
      apply List.filter_eq_nil_iff.mpr
      intro entry hentry
      obtain ⟨threshold, -, rfl⟩ := List.mem_map.mp hentry
      simpa using hrecord
    rw [hnone, hnone]

end Entries

namespace State.SinksRaised

variable {level : Log.Level} {state original : State} (h : state.SinksRaised level original)

include h

theorem isSilent_eq : state.logging.isSilent = original.logging.isSilent := by
  unfold Log.Logging.isSilent
  rw [isEmpty_eq_of_isRaised h.sinks, h.console_eq]

theorem missesBelow_answer (step : Step) :
    (step.answer state).MissesBelow level (step.answer original) := by
  have heffect := step.effect_congr h.scope_eq h.isSilent_eq
  have hwritten : state.logging.written = original.logging.written := by
    unfold Log.Logging.written
    rw [h.console_eq]
  unfold Step.answer
  rw [heffect, hwritten]
  refine ⟨rfl, rfl, rfl, ?_, ?_⟩
  · exact List.Sublist.flatMap_right _ fun record _ => entriesOf_sublist h.sinks record
  · dsimp only
    rw [captured_eq_flatMap, captured_eq_flatMap, List.filter_flatMap, List.filter_flatMap]
    exact List.flatMap_congr fun record _ => filter_entriesOf h.sinks record

theorem stateAfter (step : Step) :
    (step.stateAfter state).SinksRaised level (step.stateAfter original) := by
  cases step with
  | object step => exact ⟨congrArg (step.scopeAfter ·) h.scope_eq, h.console_eq, h.sinks⟩
  | logging step =>
    cases step with
    | addSink name =>
      have hadded : List.Forall₂ (IsRaised level) (Log.Level.ofName? name).toList
          (Log.Level.ofName? name).toList := List.forall₂_same.mpr fun _ _ => Or.inl rfl
      exact ⟨h.scope_eq, h.console_eq, List.rel_append h.sinks hadded⟩
    | setUp name structured => exact ⟨h.scope_eq, rfl, .nil⟩
    | emit source name message => exact h

theorem forall₂_answers (steps : List Step) :
    List.Forall₂ (Answer.MissesBelow level) (state.answers steps) (original.answers steps) := by
  induction steps generalizing state original with
  | nil => exact .nil
  | cons step steps ih => exact .cons (h.missesBelow_answer step) (ih (h.stateAfter step))

end State.SinksRaised

theorem answer_addSink (low high : Log.Level) (state : State) :
    Step.answer state (.logging (.addSink high.name))
      = Step.answer state (.logging (.addSink low.name)) := by
  have heffect (level : Log.Level) :
      Step.effect state (.logging (.addSink level.name)) = .value .nothing := by
    simp only [Step.effect, LoggingStep.effect, Log.Level.parse_eq_ok_iff.mpr rfl]
    rfl
  unfold Step.answer
  rw [heffect, heffect]

theorem sinksRaised_addSink {low high : Log.Level} (h : low ≤ high) (state : State) :
    (Step.stateAfter state (.logging (.addSink high.name))).SinksRaised high
      (Step.stateAfter state (.logging (.addSink low.name))) := by
  have hsinks (level : Log.Level) : (state.logging.addSink level.name).sinks
      = state.logging.sinks ++ [level] := by
    rw [Log.Logging.addSink, Log.Level.ofName?_name]
    rfl
  have hpast : List.Forall₂ (IsRaised high) state.logging.sinks state.logging.sinks :=
    List.forall₂_same.mpr fun _ _ => Or.inl rfl
  refine ⟨rfl, rfl, ?_⟩
  show List.Forall₂ _ (state.logging.addSink high.name).sinks
    (state.logging.addSink low.name).sinks
  rw [hsinks, hsinks]
  exact List.rel_append hpast (.cons (Or.inr ⟨h, rfl⟩) .nil)

theorem forall₂_run_addSink {low high : Log.Level} (h : low ≤ high) (past future : List Step) :
    List.Forall₂ (Answer.MissesBelow high) (run (past ++ .logging (.addSink high.name) :: future))
      (run (past ++ .logging (.addSink low.name) :: future)) := by
  have hpast : List.Forall₂ (Answer.MissesBelow high) (State.answers {} past)
      (State.answers {} past) :=
    List.forall₂_same.mpr fun answer _ => Answer.MissesBelow.refl high answer
  have hfuture := (sinksRaised_addSink h (State.after {} past)).forall₂_answers future
  rw [run, run, State.answers_append, State.answers_append, State.answers, State.answers,
    answer_addSink low high]
  exact List.rel_append hpast (.cons (Answer.MissesBelow.refl high _) hfuture)

end Session

/-- **A higher threshold only filters**: where a console is set up with a higher level, it writes
until the next set-up the records of before without those below the level, in the same form, and all
else is as it was; where a sink is added with a higher level, only entries below it may be missing
from what is captured from there on; and a command line with a higher level prints the same and writes
the records of before without those below the level. -/
theorem run_raised {low high : Log.Level} (h : low ≤ high) :
    (∀ (past future : List Session.Step) (structured : Bool),
      let session (level : Log.Level) : List Session.Step :=
        past ++ .logging (.setUp level.name structured) :: future
      (Session.run (session high)).map Session.Answer.unwritten
        = (Session.run (session low)).map Session.Answer.unwritten ∧
      (Session.run (session high)).take (past.length + 1)
        = (Session.run (session low)).take (past.length + 1) ∧
      ∀ (between rest : List Session.Step) (step : Session.Step),
        future = between ++ step :: rest →
        ∃ raised original,
          (Session.run (session high))[past.length + 1 + between.length]? = some raised ∧
          (Session.run (session low))[past.length + 1 + between.length]? = some original ∧
          ((∃ other ∈ between, other.setUp?.isSome = true) → raised.written = original.written) ∧
          ((∀ other ∈ between, other.setUp? = none) →
            let state := Session.State.after {}
              (past ++ .logging (.setUp low.name structured) :: between)
            let records := (step.records state.scope).filter (Log.Console.accepts ⟨low, structured⟩)
            original.written = .ofRecords structured records ∧
            raised.written = .ofRecords structured
              (records.filter fun record => decide (high ≤ record.level)))) ∧
    (∀ past future : List Session.Step,
      let session (level : Log.Level) : List Session.Step :=
        past ++ .logging (.addSink level.name) :: future
      (Session.run (session high)).take (past.length + 1)
        = (Session.run (session low)).take (past.length + 1) ∧
      List.Forall₂ (Session.Answer.MissesBelow high) (Session.run (session high))
        (Session.run (session low))) ∧
    ∀ (arguments arguments' : List String) (request : CommandLine.Request) (structured : Bool),
      CommandLine.Invocation.ofArguments arguments = .ok ⟨request, low.name, structured⟩ →
      CommandLine.Invocation.ofArguments arguments' = .ok ⟨request, high.name, structured⟩ →
      let records := request.records.filter (Log.Console.accepts ⟨low, structured⟩)
      ∃ printed,
        CommandLine.run arguments = .completed printed (.ofRecords structured records) ∧
        CommandLine.run arguments' = .completed printed (.ofRecords structured
          (records.filter fun record => decide (high ≤ record.level))) := by
  refine ⟨?_, ?_, ?_⟩
  · intro past future structured session
    refine ⟨Session.map_unwritten_run (Session.forall₂_setUp past structured high low future),
      Session.take_run_eq (Session.answer_setUp structured low high _) future, ?_⟩
    rintro between rest step rfl
    have hanswer (level : Log.Level) :
        (Session.run (session level))[past.length + 1 + between.length]?
          = some (step.answer (Session.State.after {}
              (past ++ .logging (.setUp level.name structured) :: between))) := by
      have hget := Session.getElem?_run
        (past ++ .logging (.setUp level.name structured) :: between) step rest
      rw [List.append_assoc, List.length_append, List.length_cons] at hget
      rw [Nat.add_assoc, Nat.add_comm 1]
      exact hget
    refine ⟨_, _, hanswer high, hanswer low, ?_, ?_⟩
    · intro hbetween
      exact Session.written_of_setUp_mem past structured hbetween low high step
    · intro hbetween state records
      have hwritten := Session.written_of_forall_setUp? past structured hbetween
      refine ⟨hwritten low step, ?_⟩
      rw [hwritten high step, Log.Console.filter_accepts_of_le h structured,
        Session.scope_after_eq (Session.forall₂_setUp past structured high low between)]
  · intro past future session
    exact ⟨Session.take_run_eq (Session.answer_addSink low high _) future,
      Session.forall₂_run_addSink h past future⟩
  · intro arguments arguments' request structured hread hread' records
    refine ⟨_, CommandLine.run_of_known_level hread, ?_⟩
    rw [CommandLine.run_of_known_level hread', Log.Console.write_eq_ofRecords,
      Log.Console.filter_accepts_of_le h structured]

/-- A remark that a console no longer takes, until another set-up lets it through again, and that one of
two sinks no longer takes. -/
theorem run_raised_until_next_setUp :
    let make : Session.Step := .object (.builder "b" "plain")
    let build : Session.Step := .object (.build "b" "q" "t" (some "rule"))
    let session (level : Log.Level) : List Session.Step := [.logging (.addSink "TRACE")]
      ++ .logging (.setUp level.name true) :: [make, build, .logging (.setUp "TRACE" false), build]
    let listening (level : Log.Level) : List Session.Step := [.logging (.addSink "TRACE")]
      ++ .logging (.addSink level.name) :: [make, build]
    let arguments (level : String) : List String :=
      ["format", "q", "--logger-level", level, "--instruction=rule", "d", "--model-id=plain"]
    let announcement := Session.announcement "plain"
    let remark := Session.ignoredInstruction "plain"
    (Log.Level.debug ≤ .info ∧
      (Session.run (session .info)).map Session.Answer.unwritten
        = (Session.run (session .debug)).map Session.Answer.unwritten) ∧
    (∃ raised original, (Session.run (session .info))[3]? = some raised ∧
      (Session.run (session .debug))[3]? = some original ∧
      original.written = .records [remark] ∧ raised.written = .text "") ∧
    (∃ raised original, (Session.run (session .info))[5]? = some raised ∧
      (Session.run (session .debug))[5]? = some original ∧ raised.written = original.written) ∧
    List.Forall₂ (Session.Answer.MissesBelow .info) (Session.run (listening .info))
      (Session.run (listening .debug)) ∧
    ∃ printed,
      CommandLine.run (arguments "DEBUG") = .completed printed
        (.text (announcement.line ++ remark.line)) ∧
      CommandLine.run (arguments "INFO") = .completed printed (.text announcement.line) := by
  intro make build session listening arguments announcement remark
  have hle : Log.Level.debug ≤ .info := by decide
  obtain ⟨hconsole, hsink, hcommandLine⟩ := run_raised hle
  obtain ⟨hunwritten, -, hanswers⟩ := hconsole [.logging (.addSink "TRACE")]
    [make, build, .logging (.setUp "TRACE" false), build] true
  refine ⟨⟨hle, hunwritten⟩, ?_, ?_,
    (hsink [.logging (.addSink "TRACE")] [make, build]).2, ?_⟩
  · obtain ⟨raised, original, hraised, horiginal, -, hwritten⟩ := hanswers [make] _ build rfl
    obtain ⟨hbefore, hafter⟩ := hwritten (by simp [make, Session.Step.setUp?])
    exact ⟨raised, original, hraised, horiginal, hbefore.trans (by decide +kernel),
      hafter.trans (by decide +kernel)⟩
  · obtain ⟨raised, original, hraised, horiginal, hwritten, -⟩ :=
      hanswers [make, build, .logging (.setUp "TRACE" false)] [] build rfl
    exact ⟨raised, original, hraised, horiginal, hwritten ⟨_, List.mem_of_getLast? rfl, rfl⟩⟩
  · obtain ⟨printed, hbefore, hafter⟩ := hcommandLine (arguments "DEBUG") (arguments "INFO")
      (.format "q" "d" "plain" (some "rule")) false rfl rfl
    refine ⟨printed, hbefore.trans (congrArg _ ?_), hafter.trans (congrArg _ ?_)⟩
    · decide +kernel
    · decide +kernel

end RerankPrompt
