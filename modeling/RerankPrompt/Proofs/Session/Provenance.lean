import RerankPrompt.Proofs.Session.History
import RerankPrompt.Proofs.Session.Omission

/-!
# Where the object of a name comes from

Which object a name stands for is read off the past of a session: it is the one that the last step
made that bound the name, or the formatter of a builder that an earlier step made, whatever has become
of the builder's name since. Two names stand for one object only where they come from the same
builder in this way (`compare_same_iff`), for no object that is made has existed before, be it named
or held by a builder (`Existed.hasMade`).
-/

namespace RerankPrompt.Session

/-- The positions of the steps that bound a name, as their answers tell. -/
def bindings (steps : List Step) (name : String) : List Nat :=
  (transcript steps).findIdxs fun (step, answer) => step.bound? answer == some name

/-- The position of the step that bound a name last. -/
def lastBinding? (steps : List Step) (name : String) : Option Nat :=
  (bindings steps name).getLast?

/-- The position of the step that made the builder whose formatter a name stands for. Where a formatter
was named last, it is the builder that the source of that step stood for then. -/
def formatterSource? (steps : List Step) (name : String) : Option Nat :=
  (lastBinding? steps name).bind fun position =>
    match steps[position]? with
    | some (.object (.formatter source _)) => lastBinding? (steps.take position) source
    | _ => none

/-- An object of this identity was there at some time: a name stood for it, or for the builder that
holds it. -/
inductive Existed (steps : List Step) : Identity → Prop where
  | named {past future : List Step} {name : String} {object : Object} :
    steps = past ++ future → (State.after {} past).scope.get? name = some object →
      Existed steps object.identity
  | held {past future : List Step} {name model : String} {identity : Identity}
    {template : Template} :
    steps = past ++ future →
      (State.after {} past).scope.get? name = some ⟨identity, .builder ⟨model, some template⟩⟩ →
        Existed steps (.formatterOf identity)

/-! ## The last binding -/

theorem transcript_concat (steps : List Step) (step : Step) :
    transcript (steps ++ [step])
      = transcript steps ++ [(step, step.answer (State.after {} steps))] := by
  have hlength : steps.length = (run steps).length := (State.length_answers _ _).symm
  unfold transcript
  rw [run, State.answers_append, ← run, List.zip_append hlength]
  rfl

theorem length_transcript (steps : List Step) : (transcript steps).length = steps.length := by
  unfold transcript
  rw [List.length_zip, run, State.length_answers, Nat.min_self]

theorem lastBinding?_concat (steps : List Step) (step : Step) (name : String) :
    lastBinding? (steps ++ [step]) name
      = if step.bound? (step.answer (State.after {} steps)) = some name then some steps.length
        else lastBinding? steps name := by
  unfold lastBinding? bindings
  rw [transcript_concat, List.findIdxs_append, List.getLast?_append, List.findIdxs_singleton,
    length_transcript, Nat.zero_add]
  simp only [beq_iff_eq]
  split
  · rfl
  · rfl

/-- A name stands for the object that its last binding gave it. -/
theorem exists_of_lastBinding? {steps : List Step} {name : String} {position : Nat}
    (h : lastBinding? steps name = some position) :
    ∃ step object, steps[position]? = some (.object step) ∧
      step.Binds (State.after {} (steps.take position)).scope name object ∧
      (State.after {} steps).scope.get? name = some object := by
  induction steps using List.reverseRecOn with
  | nil => cases h
  | append_singleton steps step ih =>
    rw [lastBinding?_concat] at h
    rw [State.after_append, State.after_cons, State.after_nil]
    split at h
    · next hbound =>
      cases h
      obtain ⟨made, object, rfl, hbinds⟩ := Step.exists_binds_of_bound? hbound
      refine ⟨made, object, List.getElem?_concat_length, ?_, ?_⟩
      · rw [List.take_left]
        exact hbinds
      · show (made.scopeAfter _).get? name = _
        rw [hbinds.scopeAfter_eq, Scope.get?_bind_self]
    · next hbound =>
      obtain ⟨made, object, hstep, hbinds, hget⟩ := ih h
      have hlt : position < steps.length := (List.getElem?_eq_some_iff.mp hstep).1
      refine ⟨made, object, ?_, ?_, ?_⟩
      · rw [List.getElem?_append_left hlt, hstep]
      · rw [List.take_append_of_le_length (Nat.le_of_lt hlt)]
        exact hbinds
      · rw [Step.get?_stateAfter_of_bound?_ne hbound, hget]

theorem exists_lastBinding?_of_get? {steps : List Step} {name : String} {object : Object}
    (h : (State.after {} steps).scope.get? name = some object) :
    ∃ position, lastBinding? steps name = some position := by
  induction steps using List.reverseRecOn with
  | nil => cases h
  | append_singleton steps step ih =>
    rw [lastBinding?_concat]
    split
    · exact ⟨_, rfl⟩
    · next hbound =>
      rw [State.after_append, State.after_cons, State.after_nil,
        Step.get?_stateAfter_of_bound?_ne hbound] at h
      exact ih h

theorem lastBinding?_append {past between : List Step} {name : String}
    (h : ∀ step ∈ between, step.target? ≠ some name) :
    lastBinding? (past ++ between) name = lastBinding? past name := by
  induction between using List.reverseRecOn with
  | nil => rw [List.append_nil]
  | append_singleton between step ih =>
    obtain ⟨hbetween, hstep⟩ := List.forall_mem_append.mp h
    have hbound : step.bound? (step.answer (State.after {} (past ++ between))) ≠ some name :=
      fun hbound => hstep step (List.mem_singleton_self step) (Step.target?_of_bound? hbound)
    rw [← List.append_assoc, lastBinding?_concat, if_neg hbound, ih hbetween]

theorem formatterSource?_append {past between : List Step} {name : String}
    (h : ∀ step ∈ between, step.target? ≠ some name) :
    formatterSource? (past ++ between) name = formatterSource? past name := by
  unfold formatterSource?
  rw [lastBinding?_append h]
  cases hlast : lastBinding? past name with
  | none => rfl
  | some position =>
    obtain ⟨step, object, hstep, -, -⟩ := exists_of_lastBinding? hlast
    have hlt : position < past.length := (List.getElem?_eq_some_iff.mp hstep).1
    simp only [Option.bind_some]
    rw [List.getElem?_append_left hlt, List.take_append_of_le_length (Nat.le_of_lt hlt)]

/-! ## Identities by position -/

/-- The step at this position bound the name. -/
def BoundAt (steps : List Step) (position : Nat) (name : String) : Prop :=
  ∃ step object, steps[position]? = some (.object step) ∧
    step.Binds (State.after {} (steps.take position)).scope name object

/-- The identity of the object that the step at this position makes for a name. -/
def stamp (steps : List Step) (position : Nat) (name : String) : Identity :=
  (State.after {} (steps.take position)).scope.fresh name

/-- The step at a position binds one name only. -/
theorem BoundAt.name_eq {steps : List Step} {position : Nat} {name other : String}
    (h : BoundAt steps position name) (h' : BoundAt steps position other) : name = other := by
  obtain ⟨step, object, hstep, hbinds⟩ := h
  obtain ⟨step', object', hstep', hbinds'⟩ := h'
  obtain rfl : step = step' := by
    rw [hstep] at hstep'
    cases hstep'
    rfl
  exact Option.some.inj (hbinds.target?_eq.symm.trans hbinds'.target?_eq)

theorem hasMade_fresh_after {past : List Step} {step : ObjectStep} {name : String}
    {object : Object} (h : step.Binds (State.after {} past).scope name object)
    (between : List Step) :
    (State.after {} (past ++ .object step :: between)).scope.HasMade
      ((State.after {} past).scope.fresh name) := by
  rw [State.after_append, State.after_cons]
  apply Scope.HasMade.after
  show (step.scopeAfter _).HasMade _
  rw [h.scopeAfter_eq]
  exact Scope.hasMade_fresh_bind name object

theorem stamp_ne_of_lt {steps : List Step} {position later : Nat} {name other : String}
    (h : BoundAt steps position name) (hlt : position < later) :
    stamp steps position name ≠ stamp steps later other := by
  obtain ⟨step, object, hstep, hbinds⟩ := h
  have hstep' : (steps.take later)[position]? = some (.object step) := by
    rw [List.getElem?_take_of_lt hlt, hstep]
  have hsplit := eq_take_append_cons_drop hstep'
  rw [List.take_take, Nat.min_eq_left (Nat.le_of_lt hlt)] at hsplit
  have hmade := hasMade_fresh_after hbinds ((steps.take later).drop (position + 1))
  rw [← hsplit] at hmade
  intro heq
  unfold stamp at heq
  rw [heq] at hmade
  exact Scope.not_hasMade_fresh other hmade

theorem BoundAt.eq_of_stamp_eq {steps : List Step} {position other : Nat} {name name' : String}
    (h : BoundAt steps position name) (h' : BoundAt steps other name')
    (heq : stamp steps position name = stamp steps other name') : position = other := by
  rcases Nat.lt_trichotomy position other with hlt | rfl | hlt
  · exact absurd heq (stamp_ne_of_lt h hlt)
  · rfl
  · exact absurd heq.symm (stamp_ne_of_lt h' hlt)

/-- What a name stands for was made by the step that bound it last, or is the formatter of a builder
that an earlier step made. -/
inductive StandsFor (steps : List Step) (name : String) : Identity → Prop where
  | made {position : Nat} :
    BoundAt steps position name → formatterSource? steps name = none →
      StandsFor steps name (stamp steps position name)
  | formatter {position : Nat} {source model : String} :
    steps[position]? = some (.object (.builder source model)) → BoundAt steps position source →
      formatterSource? steps name = some position →
        StandsFor steps name (.formatterOf (stamp steps position source))

/-- A builder was made by the step that bound its name last. -/
theorem exists_stamp_of_builder {past : List Step} {source : String} {identity : Identity}
    {builder : Builder}
    (h : (State.after {} past).scope.get? source = some ⟨identity, .builder builder⟩)
    (future : List Step) :
    ∃ position model, lastBinding? past source = some position ∧
      (past ++ future)[position]? = some (.object (.builder source model)) ∧
      BoundAt (past ++ future) position source ∧ identity = stamp (past ++ future) position source := by
  obtain ⟨position, hlast⟩ := exists_lastBinding?_of_get? h
  obtain ⟨step, object, hstep, hbinds, hget⟩ := exists_of_lastBinding? hlast
  obtain rfl := Option.some.inj (h.symm.trans hget)
  have hlt : position < past.length := (List.getElem?_eq_some_iff.mp hstep).1
  have hget' : (past ++ future)[position]? = some (.object step) := by
    rw [List.getElem?_append_left hlt, hstep]
  have htake : (past ++ future).take position = past.take position :=
    List.take_append_of_le_length (Nat.le_of_lt hlt)
  rw [← htake] at hbinds
  obtain ⟨hidentity, model, rfl⟩ := hbinds.eq_builder rfl
  exact ⟨position, model, hlast, hget', ⟨_, _, hget', hbinds⟩, hidentity⟩

theorem standsFor_of_get? {steps : List Step} {name : String} {object : Object}
    (h : (State.after {} steps).scope.get? name = some object) :
    StandsFor steps name object.identity := by
  obtain ⟨position, hlast⟩ := exists_lastBinding?_of_get? h
  obtain ⟨step, object', hstep, hbinds, hget⟩ := exists_of_lastBinding? hlast
  obtain rfl := Option.some.inj (h.symm.trans hget)
  have hbound : BoundAt steps position name := ⟨step, object, hstep, hbinds⟩
  have hsource : formatterSource? steps name = match some (Step.object step) with
      | some (.object (.formatter source _)) => lastBinding? (steps.take position) source
      | _ => none := by
    rw [formatterSource?, hlast, Option.bind_some, hstep]
  cases hbinds with
  | template name defaultInstruction => exact .made hbound hsource
  | factory hmodel => exact .made hbound hsource
  | builder name model => exact .made hbound hsource
  | formatter hbuilder =>
    obtain ⟨origin, model, horigin, hmade, hbound', rfl⟩ :=
      exists_stamp_of_builder hbuilder (steps.drop position)
    rw [List.take_append_drop] at hmade hbound' ⊢
    exact .formatter hmade hbound' (hsource.trans horigin)

/-- The builder of a formatter was made by a step that makes builders. -/
theorem exists_builder_of_formatterSource? {steps : List Step} {name : String} {position : Nat}
    (h : formatterSource? steps name = some position) :
    ∃ source model, steps[position]? = some (.object (.builder source model)) := by
  obtain ⟨last, hlast, -⟩ := Option.bind_eq_some_iff.mp h
  obtain ⟨step, object, -, -, hget⟩ := exists_of_lastBinding? hlast
  have hstands := standsFor_of_get? hget
  generalize object.identity = identity at hstands
  cases hstands with
  | made _ hnone => cases hnone.symm.trans h
  | formatter hmade _ hsource =>
    cases hsource.symm.trans h
    exact ⟨_, _, hmade⟩

/-! ## The result -/

theorem Existed.hasMade {steps : List Step} {identity : Identity} (h : Existed steps identity) :
    (State.after {} steps).scope.HasMade identity := by
  cases h with
  | @named past future name object hsteps hget =>
    rw [hsteps, State.after_append]
    exact (Scope.stamped_after past hget).after future
  | @held past future name model identity template hsteps hget =>
    rw [hsteps, State.after_append]
    have hmade : (State.after {} past).scope.HasMade identity := Scope.stamped_after past hget
    exact hmade.after future

theorem exists_fresh_of_bound? {past : List Step} {step : Step} {name : String}
    (h : step.bound? (step.answer (State.after {} past)) = some name)
    (hmakes : ∀ source, step ≠ .object (.formatter source name)) :
    ∃ object, (State.after {} (past ++ [step])).scope.get? name = some object ∧
      object.identity = (State.after {} past).scope.fresh name := by
  obtain ⟨made, object, rfl, hbinds⟩ := Step.exists_binds_of_bound? h
  refine ⟨object, ?_, ?_⟩
  · rw [State.after_append, State.after_cons, State.after_nil]
    show (made.scopeAfter _).get? name = _
    rw [hbinds.scopeAfter_eq, Scope.get?_bind_self]
  · cases hbinds with
    | formatter hsource => exact absurd rfl (hmakes _)
    | _ => rfl

theorem ObjectStep.effect_compare {scope : Scope} {first second : String} {x y : Object}
    (hx : scope.get? first = some x) (hy : scope.get? second = some y) :
    (ObjectStep.compare first second).effect scope
      = .value (.comparison ⟨x == y, x.isSame y, x.distinct y⟩) := by
  rw [effect, Scope.object_of_get? hx, Scope.object_of_get? hy]
  rfl

theorem result_compare {state : State} {first second : String} {x y : Object}
    (hx : state.scope.get? first = some x) (hy : state.scope.get? second = some y) :
    (Step.answer state (.object (.compare first second))).result
      = .ok (.comparison ⟨x == y, x.isSame y, x.distinct y⟩) :=
  congrArg Effect.result (ObjectStep.effect_compare hx hy)

/-- Two names stand for one object only where both stand for the formatter of one builder. -/
theorem identity_eq_iff {steps : List Step} {first second : String} {x y : Object}
    (hx : (State.after {} steps).scope.get? first = some x)
    (hy : (State.after {} steps).scope.get? second = some y) :
    x.identity = y.identity ↔ first = second ∨
      ∃ source, formatterSource? steps first = some source ∧
        formatterSource? steps second = some source := by
  constructor
  · intro heq
    have hfirst := standsFor_of_get? hx
    have hsecond := standsFor_of_get? hy
    generalize x.identity = identity at hfirst heq
    generalize y.identity = identity' at hsecond heq
    cases hfirst with
    | made hbound hnone =>
      cases hsecond with
      | made hbound' hnone' => exact Or.inl (Identity.made.inj heq).1
      | formatter hstep' hbound' hsource' => cases heq
    | formatter hstep hbound hsource =>
      cases hsecond with
      | made hbound' hnone' => cases heq
      | formatter hstep' hbound' hsource' =>
        obtain rfl := hbound.eq_of_stamp_eq hbound' (Identity.formatterOf.inj heq)
        exact Or.inr ⟨_, hsource, hsource'⟩
  · rintro (rfl | ⟨source, hfirst, hsecond⟩)
    · rw [hx] at hy
      cases hy
      rfl
    · have hx' := standsFor_of_get? hx
      have hy' := standsFor_of_get? hy
      generalize x.identity = identity at hx'
      generalize y.identity = identity' at hy'
      cases hx' with
      | made hbound hnone => cases hnone.symm.trans hfirst
      | formatter hstep hbound hsource =>
        cases hy' with
        | made hbound' hnone' => cases hnone'.symm.trans hsecond
        | formatter hstep' hbound' hsource' =>
          cases hsource.symm.trans hfirst
          cases hsource'.symm.trans hsecond
          rw [hbound.name_eq hbound']

/-- **Identity follows provenance**: two names that exist stand for one object exactly if they are one
name or both stand for the formatter of one builder, which a `builder` step made. What a step makes is
no object that was there before, and neither is its formatter. What a name stands for stays until a
step binds that name, and a step that finds no template binds none. -/
theorem compare_same_iff :
    (∀ (past future : List Step) (first second : String) (x y : Object),
      (State.after {} past).scope.get? first = some x →
      (State.after {} past).scope.get? second = some y →
      ∃ answer comparison,
        (run (past ++ .object (.compare first second) :: future))[past.length]? = some answer ∧
        answer.result = .ok (.comparison comparison) ∧
        (comparison.same = true ↔ first = second ∨
          ∃ source, formatterSource? past first = some source ∧
            formatterSource? past second = some source) ∧
        ∀ i j, formatterSource? past first = some i → formatterSource? past second = some j →
          i ≠ j → comparison.same = false) ∧
    (∀ (past : List Step) (name : String) (position : Nat),
      formatterSource? past name = some position →
      ∃ source model, past[position]? = some (.object (.builder source model))) ∧
    (∀ (past : List Step) (step : Step) (name : String),
      step.bound? (step.answer (State.after {} past)) = some name →
      (∀ source, step ≠ .object (.formatter source name)) →
      ∃ object, (State.after {} (past ++ [step])).scope.get? name = some object ∧
        ¬ Existed past object.identity ∧ ¬ Existed past (.formatterOf object.identity)) ∧
    (∀ (past between : List Step) (name : String),
      (∀ step ∈ between, step.target? ≠ some name) →
      (State.after {} (past ++ between)).scope.get? name = (State.after {} past).scope.get? name ∧
        formatterSource? (past ++ between) name = formatterSource? past name) ∧
    (∀ (past : List Step) (step : Step),
      (step.answer (State.after {} past)).result = .ok (.template none) →
      ∀ name, (State.after {} (past ++ [step])).scope.get? name
        = (State.after {} past).scope.get? name) := by
  refine ⟨?_, ?_, ?_, ?_, ?_⟩
  · intro past future first second x y hx hy
    have hsame : x.isSame y = true ↔ first = second ∨ ∃ source,
        formatterSource? past first = some source ∧ formatterSource? past second = some source := by
      rw [Object.isSame, decide_eq_true_iff]
      exact identity_eq_iff hx hy
    refine ⟨_, _, getElem?_run past _ future, result_compare hx hy, hsame, ?_⟩
    intro i j hi hj hne
    rw [← Bool.not_eq_true, hsame]
    rintro (rfl | ⟨source, hfirst, hsecond⟩)
    · exact hne (Option.some.inj (hi.symm.trans hj))
    · exact hne (Option.some.inj ((hi.symm.trans hfirst).trans (hsecond.symm.trans hj)))
  · intro past name position h
    exact exists_builder_of_formatterSource? h
  · intro past step name hbound hmakes
    obtain ⟨object, hget, hidentity⟩ := exists_fresh_of_bound? hbound hmakes
    refine ⟨object, hget, ?_, ?_⟩
    · rw [hidentity]
      exact fun hexisted => Scope.not_hasMade_fresh name hexisted.hasMade
    · rw [hidentity]
      exact fun hexisted => Scope.not_hasMade_fresh name hexisted.hasMade
  · intro past between name h
    rw [State.after_append]
    exact ⟨get?_after_of_target?_ne _ h, formatterSource?_append h⟩
  · intro past step hresult name
    have hbound : step.bound? (step.answer (State.after {} past)) ≠ some name := by
      simp only [Step.bound?, hresult, ne_eq, reduceCtorEq, not_false_eq_true]
    rw [State.after_append, State.after_cons, State.after_nil,
      Step.get?_stateAfter_of_bound?_ne hbound]

/-- A builder made anew under its name, its formatter named before once and afterwards twice, and a
model that needs none. -/
theorem compare_same_iff_rebound_builder :
    let builder : Step := .object (.builder "b" "Qwen3-Reranker")
    let formatter (name : String) : Step := .object (.formatter "b" name)
    let nothing : Step := .object (.factory "g" "plain")
    let early := [builder, formatter "f"]
    let past := early ++ [builder, formatter "g", formatter "h", nothing]
    let compare (first second : String) : List Step := past ++ [.object (.compare first second)]
    (formatterSource? past "f" = some 0 ∧ formatterSource? past "g" = some 2 ∧
      ∃ source model, past[2]? = some (.object (.builder source model))) ∧
    (∃ answer comparison, (run (compare "f" "g"))[6]? = some answer ∧
      answer.result = .ok (.comparison comparison) ∧ comparison.same = false) ∧
    (∃ answer comparison, (run (compare "g" "h"))[6]? = some answer ∧
      answer.result = .ok (.comparison comparison) ∧ comparison.same = true) ∧
    (∃ object, (State.after {} (early ++ [builder])).scope.get? "b" = some object ∧
      ¬ Existed early object.identity ∧ ¬ Existed early (.formatterOf object.identity)) ∧
    (State.after {} (early ++ [builder])).scope.get? "f"
      = (State.after {} early).scope.get? "f" ∧
    (State.after {} past).scope.get? "g"
      = (State.after {} (early ++ [builder, formatter "g", formatter "h"])).scope.get? "g" := by
  intro builder formatter nothing early past compare
  obtain ⟨hsame, hsource, hfresh, hkept, hnothing⟩ := compare_same_iff
  have hf : formatterSource? past "f" = some 0 := by decide +kernel
  have hg : formatterSource? past "g" = some 2 := by decide +kernel
  have hh : formatterSource? past "h" = some 2 := by decide +kernel
  have hnull : (nothing.answer (State.after {}
      (early ++ [builder, formatter "g", formatter "h"]))).result = .ok (.template none) := rfl
  refine ⟨⟨hf, hg, hsource past "g" 2 hg⟩, ?_, ?_, ?_, ?_, ?_⟩
  · obtain ⟨answer, comparison, hanswer, hresult, -, hne⟩ := hsame past [] "f" "g" _ _ rfl rfl
    exact ⟨answer, comparison, hanswer, hresult, hne 0 2 hf hg (by decide)⟩
  · obtain ⟨answer, comparison, hanswer, hresult, hiff, -⟩ := hsame past [] "g" "h" _ _ rfl rfl
    exact ⟨answer, comparison, hanswer, hresult, hiff.mpr (Or.inr ⟨2, hg, hh⟩)⟩
  · exact hfresh early builder "b" rfl (by simp [builder])
  · exact (hkept early [builder] "f" (by simp [builder, Step.target?])).1
  · exact hnothing _ nothing hnull "g"

end RerankPrompt.Session
