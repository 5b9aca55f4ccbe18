import RerankPrompt.Proofs.Session.Equality
import RerankPrompt.Proofs.Text.Quoting

/-!
# Descriptions of templates

A template is described by a call that makes it, with its default instruction as quoted text. The
description is faithful: it is one line of printable text, the instruction can be read back from it,
and so it tells whether two templates are equal.
-/

namespace RerankPrompt

open Text.Quoted

theorem Template.description_eq (template : Template) :
    template.description = "Qwen3RerankerTemplate(default_instruction="
      ++ String.ofList (encode template.defaultInstruction.toList) ++ ")" := by
  have hopening : typeName ++ "(default_instruction=" = "Qwen3RerankerTemplate(default_instruction=" :=
    rfl
  rw [description, hopening, quote]

theorem Template.description_eq_iff {s t : Template} : s.description = t.description ↔ s = t := by
  rw [eq_iff, ← String.toList_inj, ← String.toList_inj]
  simp only [description_eq, String.toList_append, String.toList_ofList,
    List.append_cancel_right_eq, List.append_cancel_left_eq]
  exact encode_injective.eq_iff

namespace Session

theorem result_describe {state : State} {name : String} {identity : Identity} {template : Template}
    (h : state.scope.get? name = some ⟨identity, .template template⟩) :
    state.result (.describe name) = .ok (.text template.description) := by
  show (ObjectStep.effect state.scope (.describe name)).result = _
  rw [ObjectStep.effect, Scope.template_of_get? h]
  rfl

/-- **Descriptions are faithful**: what stands for the default instruction is enclosed in quotes, reads
back to its end and as that instruction, shows printable characters only, so none that ends a line, and
holds its quote inside only behind a backslash that is not escaped itself. So two templates are found
to be equal exactly if their descriptions are the same. -/
theorem describe_reads_back :
    (∀ template : Template, ∃ (quote : Char) (body : List Char),
      let literal := quote :: (body ++ [quote])
      template.description
        = "Qwen3RerankerTemplate(default_instruction=" ++ String.ofList literal ++ ")" ∧
      IsQuote quote ∧
      decode? literal = some template.defaultInstruction.toList ∧
      (∀ c ∈ literal, Text.isPrintable c = true ∧ c ∉ lineBreaks ∧
        IsShown template.defaultInstruction.toList c) ∧
      OnlyEscaped quote body) ∧
    ∀ (state : State) (first second : String) (i j : Identity) (s t : Template),
      state.scope.get? first = some ⟨i, .template s⟩ →
      state.scope.get? second = some ⟨j, .template t⟩ →
      ∃ comparison, state.result (.compare first second) = .ok (.comparison comparison) ∧
        state.result (.describe first) = .ok (.text s.description) ∧
        state.result (.describe second) = .ok (.text t.description) ∧
        (comparison.equal = true ↔ s.description = t.description) := by
  constructor
  · intro template
    have hquote := isQuote_quoteFor template.defaultInstruction.toList
    refine ⟨_, _, template.description_eq, hquote, decode?_encode _, ?_,
      onlyEscaped_encodeBody hquote _⟩
    intro c hc
    have hshown := isShown_of_mem_encode hc
    exact ⟨hshown.isPrintable, hshown.notMem_lineBreaks, hshown⟩
  · intro state first second i j s t hs ht
    refine ⟨_, result_compare hs ht, result_describe hs, result_describe ht, ?_⟩
    rw [Template.description_eq_iff]
    exact Object.beq_template_iff

/-- A backslash before a letter against the line feed that the two are the code of, both before a single
quote. -/
theorem describe_reads_back_spelled_code :
    let s : Template := ⟨"a\x5cn\x27"⟩
    let t : Template := ⟨"a\n\x27"⟩
    let state := State.after {} [.object (.template "s" (some s.defaultInstruction)),
      .object (.template "t" (some t.defaultInstruction))]
    state.scope.get? "s" = some ⟨.made "s" 0, .template s⟩ ∧
    state.scope.get? "t" = some ⟨.made "t" 0, .template t⟩ ∧
    s.description = "Qwen3RerankerTemplate(default_instruction=\x22a\x5c\x5cn\x27\x22)" ∧
    t.description = "Qwen3RerankerTemplate(default_instruction=\x22a\x5cn\x27\x22)" ∧
    ∃ comparison, state.result (.compare "s" "t") = .ok (.comparison comparison) ∧
      comparison.equal ≠ true := by
  intro s t state
  have hs : s.description = "Qwen3RerankerTemplate(default_instruction=\x22a\x5c\x5cn\x27\x22)" := by
    decide +kernel
  have ht : t.description = "Qwen3RerankerTemplate(default_instruction=\x22a\x5cn\x27\x22)" := by
    decide +kernel
  have hne : s.description ≠ t.description := by
    rw [hs, ht]
    decide
  obtain ⟨comparison, hresult, -, -, hequal⟩ :=
    describe_reads_back.2 state "s" "t" (.made "s" 0) (.made "t" 0) s t rfl rfl
  exact ⟨rfl, rfl, hs, ht, comparison, hresult, fun h => hne (hequal.mp h)⟩

end Session

end RerankPrompt
