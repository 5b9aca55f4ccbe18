import RerankPrompt.Log.Output
import RerankPrompt.Proofs.Session.Classification
import RerankPrompt.Proofs.Session.Provenance

/-!
# Equal objects

Templates are compared by their default instructions, which no caller has to look at: one prompt that
two templates fill alike without an instruction tells that they fill all prompts alike
(`render_eq_render_iff`). Builders are equal to none but themselves, and there is but one name for
each. That objects of one identity are equal is no matter of the comparison: it holds in the states
that sessions reach, where an identity stands for one value only (`value_eq_of_identity_eq`).
-/

namespace RerankPrompt

/-! ## Templates -/

namespace Template

variable {s t : Template}

theorem eq_iff : s = t ↔ s.defaultInstruction = t.defaultInstruction := by
  obtain ⟨general⟩ := s
  obtain ⟨other⟩ := t
  rw [Template.mk.injEq]

/-- All that stands around the instruction of a prompt can be taken off. -/
theorem render_eq_render_iff {query document : String} :
    s.render query document none = t.render query document none ↔ s = t := by
  rw [eq_iff, ← String.toList_inj, ← String.toList_inj]
  simp only [render, prompt, Option.getD_none, Prompt.toList_text, Prompt.toList_body,
    List.append_cancel_right_eq, List.append_cancel_left_eq]

theorem eq_iff_exists_render_eq :
    s = t ↔ ∃ query document, s.render query document none = t.render query document none := by
  simp only [render_eq_render_iff, exists_const]

theorem eq_iff_forall_render_eq :
    s = t ↔ ∀ query document instruction,
      s.render query document instruction = t.render query document instruction := by
  constructor
  · rintro rfl query document instruction
    rfl
  · intro h
    exact render_eq_render_iff.mp (h "" "" none)

end Template

namespace Session

/-! ## Objects of one identity -/

theorem ObjectStep.Binds.object_eq {scope : Scope} {step : ObjectStep} {name : String}
    {object other : Object} (h : step.Binds scope name object) (h' : step.Binds scope name other) :
    object = other := by
  have hscope := h.scopeAfter_eq.symm.trans h'.scopeAfter_eq
  have hget := congrArg (Scope.get? · name) hscope
  simp only [Scope.get?_bind_self] at hget
  exact Option.some.inj hget

/-- A formatter is found with the template of the builder that it comes from. -/
theorem value_of_formatterSource? {steps : List Step} {name : String} {object : Object}
    {position : Nat} (hget : (State.after {} steps).scope.get? name = some object)
    (h : formatterSource? steps name = some position) :
    ∃ source model template, steps[position]? = some (.object (.builder source model)) ∧
      (Builder.ofModel model).template = some template ∧ object.value = .template template := by
  have hstands := standsFor_of_get? hget
  generalize hidentity : object.identity = identity at hstands
  cases hstands with
  | made _ hnone => cases hnone.symm.trans h
  | @formatter _ source model hstep _ hsource =>
    cases hsource.symm.trans h
    have hkeeps := keeps_after_builder (steps.take position) (steps.drop (position + 1)) source model
    rw [← eq_take_append_cons_drop hstep] at hkeeps
    obtain ⟨template, htemplate, hvalue⟩ := hkeeps.formatter_eq hget hidentity
    exact ⟨source, model, template, hstep, htemplate, hvalue⟩

section Named

variable {steps : List Step} {first second : String} {x y : Object}
  (hx : (State.after {} steps).scope.get? first = some x)
  (hy : (State.after {} steps).scope.get? second = some y)

include hx hy

theorem value_eq_of_identity_eq (h : x.identity = y.identity) : x.value = y.value := by
  rcases (identity_eq_iff hx hy).mp h with rfl | ⟨position, hfirst, hsecond⟩
  · rw [Option.some.inj (hx.symm.trans hy)]
  · obtain ⟨source, model, template, hstep, htemplate, hvalue⟩ := value_of_formatterSource? hx hfirst
    obtain ⟨_, _, _, hstep', htemplate', hvalue'⟩ := value_of_formatterSource? hy hsecond
    cases hstep.symm.trans hstep'
    cases htemplate.symm.trans htemplate'
    rw [hvalue, hvalue']

/-- No two names stand for one builder. -/
theorem identity_eq_iff_of_builder {builder : Builder} (hvalue : x.value = .builder builder) :
    x.identity = y.identity ↔ first = second := by
  rw [identity_eq_iff hx hy, or_iff_left_iff_imp]
  rintro ⟨position, hfirst, -⟩
  obtain ⟨_, _, template, -, -, htemplate⟩ := value_of_formatterSource? hx hfirst
  cases hvalue.symm.trans htemplate

/-- Of one identity there is one object. -/
theorem beq_of_isSame (h : x.isSame y = true) : (x == y) = true := by
  have hidentity : x.identity = y.identity := of_decide_eq_true h
  have hvalue := value_eq_of_identity_eq hx hy hidentity
  obtain ⟨identity, value⟩ := x
  obtain ⟨identity', value'⟩ := y
  cases hidentity
  cases hvalue
  exact BEq.refl _

end Named

/-! ## Comparing -/

/-- Both names stand for templates, which fill the same prompt here. -/
def State.FillsAlike (state : State) (first second query document : String)
    (instruction : Option String) : Prop :=
  ∃ prompt, state.result (.format first query document instruction) = .ok (.text prompt) ∧
    state.result (.format second query document instruction) = .ok (.text prompt)

/-- A comparison finds the objects of two names to be equal. -/
def State.Equates (state : State) (first second : String) : Prop :=
  ∃ comparison, state.result (.compare first second) = .ok (.comparison comparison) ∧
    comparison.equal = true

theorem fillsAlike_iff {state : State} {first second : String} {i j : Identity} {s t : Template}
    (hs : state.scope.get? first = some ⟨i, .template s⟩)
    (ht : state.scope.get? second = some ⟨j, .template t⟩) {query document : String}
    {instruction : Option String} :
    state.FillsAlike first second query document instruction ↔
      s.render query document instruction = t.render query document instruction := by
  unfold State.FillsAlike
  rw [result_format hs, result_format ht]
  constructor
  · rintro ⟨prompt, hfirst, hsecond⟩
    have hs' := Result.text.inj (Except.ok.inj hfirst)
    have ht' := Result.text.inj (Except.ok.inj hsecond)
    exact hs'.trans ht'.symm
  · intro h
    exact ⟨_, rfl, by rw [h]⟩

theorem Object.beq_template_iff {i j : Identity} {s t : Template} :
    ((⟨i, .template s⟩ : Object) == ⟨j, .template t⟩) = true ↔ s = t := by
  rw [beq_def, decide_eq_true_iff, Template.eq_iff]

theorem Object.distinct_eq_one_iff {x y : Object} : x.distinct y = 1 ↔ (x == y) = true := by
  rw [distinct_eq]
  by_cases h : (x == y) = true
  · rw [if_pos h]
    exact iff_of_true rfl h
  · rw [if_neg h]
    exact iff_of_false (by decide) h

section Named

variable {state : State} {first second : String} {x y : Object}
  (hx : state.scope.get? first = some x) (hy : state.scope.get? second = some y)

include hx hy

/-- A comparison writes nothing, so nothing but its objects shows in the answer. -/
theorem answer_compare :
    Step.answer state (.object (.compare first second))
      = { result := .ok (.comparison ⟨x == y, x.isSame y, x.distinct y⟩)
          captured := []
          spans := []
          written := .text "" } := by
  rw [Step.answer, Step.effect, ObjectStep.effect_compare hx hy]
  exact congrArg (Answer.mk _ _ _) state.logging.written_nil

theorem equates_iff : state.Equates first second ↔ (x == y) = true := by
  unfold State.Equates
  rw [State.result, result_compare hx hy]
  constructor
  · rintro ⟨comparison, hresult, hequal⟩
    cases hresult
    exact hequal
  · intro h
    exact ⟨_, rfl, h⟩

end Named

theorem equivalence_equates (state : State) :
    Equivalence fun first second : {name : String // ∃ object, state.scope.get? name = some object} =>
      state.Equates first second := by
  refine ⟨?_, ?_, ?_⟩
  · rintro ⟨first, x, hx⟩
    exact (equates_iff hx hx).mpr (BEq.refl x)
  · rintro ⟨first, x, hx⟩ ⟨second, y, hy⟩ h
    exact (equates_iff hy hx).mpr (BEq.symm ((equates_iff hx hy).mp h))
  · rintro ⟨first, x, hx⟩ ⟨second, y, hy⟩ ⟨third, z, hz⟩ h h'
    exact (equates_iff hx hz).mpr
      (BEq.trans ((equates_iff hx hy).mp h) ((equates_iff hy hz).mp h'))

/-- A name stands for the same object as long as its last binding stays the last. -/
theorem get?_append_of_lastBinding?_eq {past between : List Step} {name : String} {object : Object}
    (h : lastBinding? (past ++ between) name = lastBinding? past name)
    (hget : (State.after {} past).scope.get? name = some object) :
    (State.after {} (past ++ between)).scope.get? name = some object := by
  obtain ⟨position, hlast⟩ := exists_lastBinding?_of_get? hget
  obtain ⟨step, found, hstep, hbinds, hfound⟩ := exists_of_lastBinding? hlast
  obtain ⟨step', found', hstep', hbinds', hfound'⟩ := exists_of_lastBinding? (h.trans hlast)
  have hlt : position < past.length := (List.getElem?_eq_some_iff.mp hstep).1
  rw [List.getElem?_append_left hlt, hstep] at hstep'
  cases hstep'
  rw [List.take_append_of_le_length (Nat.le_of_lt hlt)] at hbinds'
  rw [hfound', hbinds'.object_eq hbinds, ← hfound, hget]

/-- **Equality of templates is observational**: in every state that a session reaches, two templates
are found to be equal exactly if they fill one prompt alike without an instruction, and exactly if
they fill all prompts alike; two builders exactly if they are one, which has a single name; a template
and a builder never. Equality is an equivalence on what is named, one object is equal to itself under
all its names, equal objects have one hash and make a set of one, and the answer stays until one of
the two names is bound anew. -/
theorem compare_equal_iff (past : List Step) :
    let state := State.after {} past
    (∀ (first second : String) (x y : Object),
      state.scope.get? first = some x → state.scope.get? second = some y →
      ∃ comparison, state.result (.compare first second) = .ok (.comparison comparison) ∧
        (match x.value, y.value with
          | .template _, .template _ =>
            (comparison.equal = true ↔
              ∃ query document, state.FillsAlike first second query document none) ∧
            (comparison.equal = true ↔ ∀ query document instruction,
              state.FillsAlike first second query document instruction)
          | .builder _, .builder _ =>
            (comparison.equal = true ↔ comparison.same = true) ∧
            (comparison.equal = true ↔ first = second)
          | _, _ => comparison.equal = false) ∧
        (comparison.same = true → comparison.equal = true) ∧
        (comparison.distinct = 1 ↔ comparison.equal = true) ∧
        (comparison.equal = true → hash x = hash y)) ∧
    (Equivalence fun first second :
        {name : String // ∃ object, state.scope.get? name = some object} =>
      state.Equates first second) ∧
    ∀ (between : List Step) (first second : String) (x y : Object),
      state.scope.get? first = some x → state.scope.get? second = some y →
      lastBinding? (past ++ between) first = lastBinding? past first →
      lastBinding? (past ++ between) second = lastBinding? past second →
      Step.answer (State.after {} (past ++ between)) (.object (.compare first second))
        = Step.answer state (.object (.compare first second)) := by
  intro state
  refine ⟨?_, equivalence_equates state, ?_⟩
  · intro first second x y hx hy
    refine ⟨_, result_compare hx hy, ?_, beq_of_isSame hx hy, ?_, fun h => hash_eq h⟩
    · obtain ⟨i, value⟩ := x
      obtain ⟨j, value'⟩ := y
      cases value with
      | template s =>
        cases value' with
        | template t =>
          simp only [fillsAlike_iff hx hy, Object.beq_template_iff]
          exact ⟨Template.eq_iff_exists_render_eq, Template.eq_iff_forall_render_eq⟩
        | builder c => rfl
      | builder b =>
        cases value' with
        | template t => rfl
        | builder c =>
          have hsame := identity_eq_iff_of_builder hx hy rfl
          exact ⟨Iff.rfl, decide_eq_true_iff.trans hsame⟩
    · exact Object.distinct_eq_one_iff
  · intro between first second x y hx hy hfirst hsecond
    rw [answer_compare hx hy, answer_compare (get?_append_of_lastBinding?_eq hfirst hx)
      (get?_append_of_lastBinding?_eq hsecond hy)]

/-- A template and a formatter whose builder loses its name, beside a second builder for the model. -/
theorem compare_equal_iff_rebound_builder :
    let past : List Step := [.object (.template "t" none), .object (.builder "b" "Qwen3-Reranker"),
      .object (.formatter "b" "f"), .object (.builder "c" "Qwen3-Reranker")]
    let between : List Step := [.object (.builder "b" "plain"), .object (.factory "f" "plain"),
      .object (.formatter "b" "t"), .logging (.addSink "TRACE")]
    let state := State.after {} past
    (∃ comparison, state.result (.compare "t" "f") = .ok (.comparison comparison) ∧
      comparison.equal = true ∧ comparison.distinct = 1) ∧
    (∃ comparison, state.result (.compare "b" "c") = .ok (.comparison comparison) ∧
      comparison.equal ≠ true ∧ comparison.same ≠ true) ∧
    lastBinding? (past ++ between) "t" = lastBinding? past "t" ∧
    lastBinding? (past ++ between) "f" = lastBinding? past "f" ∧
    Step.answer (State.after {} (past ++ between)) (.object (.compare "t" "f"))
      = Step.answer state (.object (.compare "t" "f")) := by
  intro past between state
  obtain ⟨hcompare, -, hkept⟩ := compare_equal_iff past
  have ht : lastBinding? (past ++ between) "t" = lastBinding? past "t" := by decide +kernel
  have hf : lastBinding? (past ++ between) "f" = lastBinding? past "f" := by decide +kernel
  refine ⟨?_, ?_, ht, hf, hkept between "t" "f" _ _ rfl rfl ht hf⟩
  · obtain ⟨comparison, hresult, ⟨hone, -⟩, -, hdistinct, -⟩ := hcompare "t" "f" _ _ rfl rfl
    have hequal : comparison.equal = true := hone.mpr ⟨"q", "d", _, rfl, rfl⟩
    exact ⟨comparison, hresult, hequal, hdistinct.mpr hequal⟩
  · obtain ⟨comparison, hresult, ⟨hsame, hname⟩, -⟩ := hcompare "b" "c" _ _ rfl rfl
    have hne : comparison.equal ≠ true := fun hequal => absurd (hname.mp hequal) (by decide)
    exact ⟨comparison, hresult, hne, fun hone => hne (hsame.mpr hone)⟩

end Session

end RerankPrompt
