import RerankPrompt.Proofs.Session.Binding

/-!
# Exchanging steps

What a step answers depends on the handlers and on the objects that it refers to (`answer_congr`), and
what it makes of a name on these objects and on the past of that name alone (`slot_stateAfter_congr`).
So of two adjacent steps that leave the handlers alone, and of which neither binds a name that the
other binds or refers to, either may come first (`run_exchange`): an object that is made is known by
its name, so not even the identities of later objects tell in which order the two were made.
-/

namespace RerankPrompt.Session

/-- The names that a step refers to. -/
def Step.references : Step → List String
  | .object (.formatter name _) | .object (.format name _ _ _) | .object (.build name _ _ _)
  | .object (.buildBatch name _ _ _) | .object (.get name _) | .object (.change name _)
  | .object (.describe name) => [name]
  | .object (.compare first second) => [first, second]
  | _ => []

/-- Whether a step changes the handlers, if its level is known. -/
def Step.changesHandlers : Step → Bool
  | .logging (.addSink _) | .logging (.setUp _ _) => true
  | _ => false

/-- Of two steps with their answers neither binds a name that the other binds or refers to. -/
structure Independent (first : Step) (answer : Answer) (second : Step) (answer' : Answer) :
    Prop where
  bound?_ne : ∀ {name}, first.bound? answer = some name → second.bound? answer' ≠ some name
  bound?_notMem : ∀ {name}, first.bound? answer = some name → name ∉ second.references
  notMem_bound? : ∀ {name}, second.bound? answer' = some name → name ∉ first.references

/-! ## What a step depends on -/

namespace Scope

variable {scope other : Scope} {name : String}

theorem object_congr (h : scope.get? name = other.get? name) :
    scope.object name = other.object name := by
  unfold object
  rw [h]

theorem template_congr (h : scope.get? name = other.get? name) :
    scope.template name = other.template name := by
  unfold template
  rw [object_congr h]

theorem identifiedBuilder_congr (h : scope.get? name = other.get? name) :
    scope.identifiedBuilder name = other.identifiedBuilder name := by
  unfold identifiedBuilder
  rw [object_congr h]

theorem builder_congr (h : scope.get? name = other.get? name) :
    scope.builder name = other.builder name := by
  unfold builder
  rw [identifiedBuilder_congr h]

theorem change_congr (h : scope.get? name = other.get? name) (attempt : Attempt) :
    scope.change name attempt = other.change name attempt := by
  have hexpect : scope.expect name attempt = other.expect name attempt := by
    unfold expect
    rw [template_congr h, builder_congr h]
  unfold change
  rw [hexpect]

theorem slot_bind_congr (h : scope.slot name = other.slot name) (target : String)
    (object : Object) :
    (scope.bind target object).slot name = (other.bind target object).slot name := by
  by_cases htarget : name = target
  · subst htarget
    simp only [bind, h]
  · rw [slot_bind_of_ne htarget, slot_bind_of_ne htarget, h]

theorem slot_make_congr (h : scope.slot name = other.slot name) (target : String)
    (value : Value) :
    (scope.make target value).slot name = (other.make target value).slot name := by
  by_cases htarget : name = target
  · subst htarget
    simp only [make, fresh, bind, h]
  · rw [make, make, slot_bind_of_ne htarget, slot_bind_of_ne htarget, h]

end Scope

namespace ObjectStep

variable {scope other : Scope} {step : ObjectStep}
  (h : ∀ name ∈ Step.references (.object step), scope.get? name = other.get? name)

include h

theorem effect_congr : step.effect scope = step.effect other := by
  cases step with
  | template name defaultInstruction => rfl
  | factory name model => rfl
  | builder name model => rfl
  | formatter source name =>
    simp only [effect, Scope.builder_congr (h source (List.mem_singleton_self source))]
  | format source query document instruction =>
    simp only [effect, Scope.template_congr (h source (List.mem_singleton_self source))]
  | build source query text instruction =>
    simp only [effect, Scope.builder_congr (h source (List.mem_singleton_self source))]
  | buildBatch source query texts instruction =>
    simp only [effect, Scope.builder_congr (h source (List.mem_singleton_self source))]
  | get source field =>
    simp only [effect, Scope.object_congr (h source (List.mem_singleton_self source))]
  | change source attempt =>
    simp only [effect, Scope.change_congr (h source (List.mem_singleton_self source))]
  | describe source =>
    simp only [effect, Scope.template_congr (h source (List.mem_singleton_self source))]
  | compare first second =>
    have hfirst := h first List.mem_cons_self
    have hsecond := h second (List.mem_cons_of_mem first (List.mem_singleton_self second))
    simp only [effect, Scope.object_congr hfirst, Scope.object_congr hsecond]

theorem slot_scopeAfter_congr {name : String} (hslot : scope.slot name = other.slot name) :
    (step.scopeAfter scope).slot name = (step.scopeAfter other).slot name := by
  cases step with
  | template target defaultInstruction => exact Scope.slot_make_congr hslot target _
  | factory target model =>
    simp only [scopeAfter]
    cases Model.template? model with
    | none => exact hslot
    | some template => exact Scope.slot_make_congr hslot target _
  | builder target model => exact Scope.slot_make_congr hslot target _
  | formatter source target =>
    simp only [scopeAfter, Scope.identifiedBuilder_congr (h source (List.mem_singleton_self source))]
    split
    · exact Scope.slot_bind_congr hslot target _
    · exact hslot
  | change source attempt =>
    rw [scopeAfter_change, scopeAfter_change]
    exact hslot
  | _ => exact hslot

end ObjectStep

namespace Step

variable {state other : State} {step : Step}

theorem answer_congr (hlogging : state.logging = other.logging)
    (h : ∀ name ∈ step.references, state.scope.get? name = other.scope.get? name) :
    step.answer state = step.answer other := by
  have heffect : step.effect state = step.effect other := by
    cases step with
    | object step => exact step.effect_congr h
    | logging step => exact congrArg (step.effect ·) hlogging
  unfold answer
  rw [heffect, hlogging]

theorem slot_stateAfter_congr
    (h : ∀ name ∈ step.references, state.scope.get? name = other.scope.get? name)
    {name : String} (hslot : state.scope.slot name = other.scope.slot name) :
    (step.stateAfter state).scope.slot name = (step.stateAfter other).scope.slot name := by
  cases step with
  | object step => exact step.slot_scopeAfter_congr h hslot
  | logging step => exact hslot

theorem logging_stateAfter_of_not_changesHandlers (h : step.changesHandlers = false)
    (state : State) : (step.stateAfter state).logging = state.logging := by
  cases step with
  | object step => rfl
  | logging step =>
    cases step with
    | addSink level => cases h
    | setUp level structured => cases h
    | emit source level message => rfl

end Step

/-! ## Two steps -/

section Pair

variable {state : State} {first second : Step} (hfirst : first.changesHandlers = false)
  (hsecond : second.changesHandlers = false)
  (h : Independent first (first.answer state) second (second.answer (first.stateAfter state)))

include h

theorem get?_stateAfter_first {name : String} (hname : name ∈ second.references) :
    (first.stateAfter state).scope.get? name = state.scope.get? name :=
  Step.get?_stateAfter_of_bound?_ne fun hbound => h.bound?_notMem hbound hname

include hfirst

/-- The second step answers as it does without the first. -/
theorem answer_second : second.answer (first.stateAfter state) = second.answer state := by
  apply Step.answer_congr (Step.logging_stateAfter_of_not_changesHandlers hfirst state)
  intro name hname
  exact get?_stateAfter_first h hname

theorem get?_stateAfter_second {name : String} (hname : name ∈ first.references) :
    (second.stateAfter state).scope.get? name = state.scope.get? name := by
  apply Step.get?_stateAfter_of_bound?_ne
  rw [← answer_second hfirst h]
  exact fun hbound => h.notMem_bound? hbound hname

include hsecond

/-- And the first step answers as it does with the second before it. -/
theorem answer_first : first.answer (second.stateAfter state) = first.answer state := by
  apply Step.answer_congr (Step.logging_stateAfter_of_not_changesHandlers hsecond state)
  intro name hname
  exact get?_stateAfter_second hfirst h hname

/-- A name that the first step binds is left alone by the second, and any other by the first. -/
theorem slot_stateAfter_comm (name : String) :
    (second.stateAfter (first.stateAfter state)).scope.slot name
      = (first.stateAfter (second.stateAfter state)).scope.slot name := by
  by_cases hbound : first.bound? (first.answer state) = some name
  · have hafter := h.bound?_ne hbound
    have hbefore : second.bound? (second.answer state) ≠ some name := by
      rw [← answer_second hfirst h]
      exact hafter
    rw [Step.slot_stateAfter_of_bound?_ne hafter]
    apply Step.slot_stateAfter_congr
    · intro other hother
      exact (get?_stateAfter_second hfirst h hother).symm
    · exact (Step.slot_stateAfter_of_bound?_ne hbefore).symm
  · have hafter : first.bound? (first.answer (second.stateAfter state)) ≠ some name := by
      rw [answer_first hfirst hsecond h]
      exact hbound
    rw [Step.slot_stateAfter_of_bound?_ne hafter]
    apply Step.slot_stateAfter_congr
    · intro other hother
      exact get?_stateAfter_first h hother
    · exact Step.slot_stateAfter_of_bound?_ne hbound

theorem stateAfter_comm :
    second.stateAfter (first.stateAfter state) = first.stateAfter (second.stateAfter state) := by
  have hscope : (second.stateAfter (first.stateAfter state)).scope
      = (first.stateAfter (second.stateAfter state)).scope :=
    congrArg Scope.mk (funext (slot_stateAfter_comm hfirst hsecond h))
  have hlogging : (second.stateAfter (first.stateAfter state)).logging
      = (first.stateAfter (second.stateAfter state)).logging := by
    simp only [Step.logging_stateAfter_of_not_changesHandlers hfirst,
      Step.logging_stateAfter_of_not_changesHandlers hsecond]
  exact (State.mk.injEq _ _ _ _).mpr ⟨hscope, hlogging⟩

end Pair

/-- **Independent steps commute**: two adjacent steps that do not touch the handlers, and of which
neither binds a name that the other binds or refers to, can be exchanged. Each of them keeps its
answer, and so does every other step of the session. -/
theorem run_exchange {past future : List Step} {first second : Step}
    (hfirst : first.changesHandlers = false) (hsecond : second.changesHandlers = false)
    (h : Independent first (first.answer (State.after {} past)) second
      (second.answer (State.after {} (past ++ [first])))) :
    ∃ before answer answer' after, before.length = past.length ∧
      run (past ++ first :: second :: future) = before ++ answer :: answer' :: after ∧
      run (past ++ second :: first :: future) = before ++ answer' :: answer :: after := by
  rw [State.after_append, State.after_cons, State.after_nil] at h
  refine ⟨_, _, _, _, State.length_answers {} past, State.answers_append {} past _, ?_⟩
  rw [run, State.answers_append, State.answers, State.answers]
  rw [answer_second hfirst h, answer_first hfirst hsecond h, stateAfter_comm hfirst hsecond h]

/-- A builder's formatter takes over the name of a template, and a second builder is made. -/
theorem run_exchange_two_bindings :
    let past : List Step := [.logging (.addSink "DEBUG"), .object (.builder "b" "Qwen3-Reranker"),
      .object (.template "f" none)]
    let first : Step := .object (.formatter "b" "f")
    let second : Step := .object (.builder "c" "Qwen3-Reranker")
    let future : List Step := [.object (.formatter "c" "g"), .object (.compare "f" "g")]
    (first.changesHandlers = false ∧ second.changesHandlers = false ∧
      Independent first (first.answer (State.after {} past)) second
        (second.answer (State.after {} (past ++ [first])))) ∧
    ∃ before answer answer' after, before.length = past.length ∧
      run (past ++ first :: second :: future) = before ++ answer :: answer' :: after ∧
      run (past ++ second :: first :: future) = before ++ answer' :: answer :: after := by
  intro past first second future
  have hfirst : first.bound? (first.answer (State.after {} past)) = some "f" := rfl
  have hsecond : second.bound? (second.answer (State.after {} (past ++ [first]))) = some "c" := rfl
  have hindependent : Independent first (first.answer (State.after {} past)) second
      (second.answer (State.after {} (past ++ [first]))) := by
    refine ⟨?_, ?_, ?_⟩
    · intro name hname
      cases hfirst.symm.trans hname
      rw [hsecond]
      decide
    · intro name hname
      cases hfirst.symm.trans hname
      decide
    · intro name hname
      cases hsecond.symm.trans hname
      decide
  exact ⟨⟨rfl, rfl, hindependent⟩, run_exchange rfl rfl hindependent⟩

end RerankPrompt.Session
