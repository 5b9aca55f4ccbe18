import Mathlib.Data.List.Forall2
import RerankPrompt.Proofs.CommandLine.Refinement
import RerankPrompt.Proofs.Prompt.Parts
import RerankPrompt.Proofs.Session.Batch

/-!
# Given instructions

An instruction that is given, be it empty, takes the place of the default one altogether: the prompt is
the same in every template, and the general instruction is found in it only where it stands in one of
the three texts that fill it (`showsGiven_render`). No part of a prompt holds the character that it
starts with, so none is made where a text meets the prompt. The same holds wherever prompts are made:
by templates, by builders one by one or in batches, and by the command line, where it holds of the plain
texts.
-/

namespace RerankPrompt

/-! ## The general instruction in prompts -/

namespace Prompt

theorem head?_generalInstruction : generalInstruction.toList.head? = some 'G' := by
  decide +kernel

theorem head_notMem_header : 'G' ∉ header.toList :=
  notMem_header (by decide +kernel)

theorem head_notMem_queryMark : 'G' ∉ queryMark.toList := by
  decide +kernel

theorem head_notMem_documentMark : 'G' ∉ documentMark.toList := by
  decide +kernel

theorem apart_generalInstruction : Apart generalInstruction.toList where
  ne_nil := List.ne_nil_of_mem (List.mem_of_mem_head? head?_generalInstruction)
  lineFeed := by decide +kernel
  bracket := by decide +kernel
  header _ := Text.seam_of_notMem head?_generalInstruction head_notMem_header
  queryMark _ := Text.seam_of_notMem head?_generalInstruction head_notMem_queryMark
  documentMark _ := Text.seam_of_notMem head?_generalInstruction head_notMem_documentMark

theorem generalInstruction_infix_text_iff (prompt : Prompt) :
    generalInstruction.toList <:+: prompt.text.toList ↔
      ∃ field ∈ [prompt.instruction, prompt.query, prompt.document],
        generalInstruction.toList <:+: field.toList :=
  infix_text_iff apart_generalInstruction
    (Text.positions_eq_nil_of_notMem head?_generalInstruction head_notMem_queryMark)
    (Text.positions_eq_nil_of_notMem head?_generalInstruction head_notMem_documentMark)
    (Text.positions_eq_nil_of_notMem head?_generalInstruction head_notMem_header)
    (Text.positions_eq_nil_of_notMem head?_generalInstruction (by decide +kernel)) prompt

end Prompt

/-- The text is the prompt that the three texts fill, in whatever template, and the general instruction
stands in it only where it stands in one of them. -/
structure ShowsGiven (instruction query document text : String) : Prop where
  eq_render (template : Template) : text = template.render query document (some instruction)
  infix_iff : generalInstruction.toList <:+: text.toList ↔
    ∃ field ∈ [instruction, query, document], generalInstruction.toList <:+: field.toList

theorem showsGiven_render (template : Template) (query document instruction : String) :
    ShowsGiven instruction query document (template.render query document (some instruction)) where
  eq_render _ := rfl
  infix_iff := Prompt.generalInstruction_infix_text_iff ⟨instruction, query, document⟩

/-! ## Builders of a session -/

namespace Session

theorem build_of_needsTemplate {steps : List Step} {name : String} {identity : Identity}
    {builder : Builder}
    (h : (State.after {} steps).scope.get? name = some ⟨identity, .builder builder⟩)
    (hmodel : Model.needsTemplate builder.model = true) (query text : String)
    (instruction : Option String) :
    builder.build query text instruction = .prompt (Template.render {} query text instruction) := by
  rw [eq_ofModel_of_get? h, Builder.build_ofModel, if_pos hmodel]

end Session

namespace CommandLine

theorem printed_of_needsTemplate {arguments : List String} {query document model level : String}
    {instruction : Option String} {structured : Bool}
    (hread : Invocation.ofArguments arguments
      = .ok ⟨.format query document model instruction, level, structured⟩)
    (haccepted : (run arguments).exitCode = 0) (hmodel : Model.needsTemplate model = true) :
    (run arguments).printed
      = Template.render {} (plain query) (plain document) (instruction.map plain) := by
  rw [printed_eq hread haccepted, join_values_format, Builder.build_ofModel, if_pos hmodel]
  exact plain_render query document instruction

end CommandLine

/-! ## Wherever prompts are made -/

namespace Session

/-- **A given instruction leaves no trace of the default one**: a template with whatever default fills
the same prompt, in which the general instruction is found only where one of its texts holds it; so
does a builder for a model that needs a template, for one text and for each of a batch, and so does
the command line for the plain texts. -/
theorem showsGiven_everywhere :
    (∀ (state : State) (name : String) (identity : Identity) (template : Template),
      state.scope.get? name = some ⟨identity, .template template⟩ →
      ∀ query document instruction, ∃ prompt,
        state.result (.format name query document (some instruction)) = .ok (.text prompt) ∧
        ShowsGiven instruction query document prompt) ∧
    (∀ (past : List Step) (name : String) (identity : Identity) (builder : Builder),
      let state := State.after {} past
      state.scope.get? name = some ⟨identity, .builder builder⟩ →
      Model.needsTemplate builder.model = true →
      (∀ query text instruction, ∃ prompt,
        state.result (.build name query text (some instruction)) = .ok (.input (.prompt prompt)) ∧
        ShowsGiven instruction query text prompt) ∧
      ∀ query texts instruction, ∃ prompts : List String,
        state.result (.buildBatch name query texts (some instruction))
          = .ok (.inputs (prompts.map .prompt)) ∧
        List.Forall₂ (ShowsGiven instruction query) texts prompts) ∧
    ∀ (arguments : List String) (query document model instruction level : String)
      (structured : Bool),
      CommandLine.Invocation.ofArguments arguments
        = .ok ⟨.format query document model (some instruction), level, structured⟩ →
      (CommandLine.run arguments).exitCode = 0 → Model.needsTemplate model = true →
      ShowsGiven (CommandLine.plain instruction) (CommandLine.plain query)
        (CommandLine.plain document) (CommandLine.run arguments).printed := by
  refine ⟨?_, ?_, ?_⟩
  · intro state name identity template h query document instruction
    exact ⟨_, result_format h query document (some instruction),
      showsGiven_render template query document instruction⟩
  · intro past name identity builder state h hmodel
    have hbuild := build_of_needsTemplate h hmodel
    constructor
    · intro query text instruction
      refine ⟨_, ?_, showsGiven_render {} query text instruction⟩
      rw [result_build h, hbuild]
    · intro query texts instruction
      refine ⟨texts.map fun text => Template.render {} query text (some instruction), ?_, ?_⟩
      · have hbatch := congrArg Answer.result
          (answer_buildBatch (Scope.builder_of_get? h) query texts (some instruction))
        simp only [hbuild] at hbatch
        rw [List.map_map]
        exact hbatch
      · rw [List.forall₂_map_right_iff, List.forall₂_same]
        intro text _
        exact showsGiven_render {} query text instruction
  · intro arguments query document model instruction level structured hread haccepted hmodel
    rw [CommandLine.printed_of_needsTemplate hread haccepted hmodel]
    exact showsGiven_render {} _ _ _

/-- The empty instruction in a template with a default of its own and in a batch; and, on the command
line, the general instruction itself with an escape sequence inside, which the plain text is without. -/
theorem showsGiven_everywhere_empty_instruction :
    let past : List Step := [.object (.template "t" (some "rule")),
      .object (.builder "b" "Qwen3-seq-cls")]
    let state := State.after {} past
    let instruction := "Given a web search\x1b[0m query, retrieve relevant passages that answer the query"
    let arguments := ["format", "--instruction", instruction, "q", "d"]
    (state.scope.get? "t" = some ⟨.made "t" 0, .template ⟨"rule"⟩⟩ ∧
      ∃ prompt, state.result (.format "t" "q" "d" (some "")) = .ok (.text prompt) ∧
        ShowsGiven "" "q" "d" prompt) ∧
    (state.scope.get? "b" = some ⟨.made "b" 0, .builder (.ofModel "Qwen3-seq-cls")⟩ ∧
      Model.needsTemplate "Qwen3-seq-cls" = true ∧
      ∃ prompts : List String,
        state.result (.buildBatch "b" "q" ["d", "", "d"] (some ""))
          = .ok (.inputs (prompts.map .prompt)) ∧
        List.Forall₂ (ShowsGiven "" "q") ["d", "", "d"] prompts) ∧
    CommandLine.Invocation.ofArguments arguments
      = .ok ⟨.format "q" "d" Model.defaultId (some instruction), "INFO", false⟩ ∧
    (CommandLine.run arguments).exitCode = 0 ∧ Model.needsTemplate Model.defaultId = true ∧
    generalInstruction.toList <:+: (CommandLine.run arguments).printed.toList := by
  intro past state instruction arguments
  obtain ⟨hformat, hbuild, hline⟩ := showsGiven_everywhere
  have hmodel : Model.needsTemplate "Qwen3-seq-cls" = true := by decide +kernel
  have hdefault : Model.needsTemplate Model.defaultId = true := by decide +kernel
  have hread : CommandLine.Invocation.ofArguments arguments
      = .ok ⟨.format "q" "d" Model.defaultId (some instruction), "INFO", false⟩ := rfl
  have haccepted : (CommandLine.run arguments).exitCode = 0 := by decide +kernel
  have hplain : CommandLine.plain instruction = generalInstruction := by decide +kernel
  refine ⟨⟨rfl, hformat state "t" (.made "t" 0) ⟨"rule"⟩ rfl "q" "d" ""⟩, ⟨rfl, hmodel, ?_⟩, hread,
    haccepted, hdefault, ?_⟩
  · exact (hbuild past "b" (.made "b" 0) (.ofModel "Qwen3-seq-cls") rfl hmodel).2 "q"
      ["d", "", "d"] ""
  · have hshows := hline arguments "q" "d" Model.defaultId instruction "INFO" false hread haccepted
      hdefault
    rw [hplain] at hshows
    exact hshows.infix_iff.mpr ⟨generalInstruction, List.mem_cons_self, List.infix_rfl⟩

end Session

end RerankPrompt
