import RerankPrompt.Proofs.Prompt.Parts

/-!
# The turns of a prompt

Turn markers are not escaped in the texts, but none is made or lost where a text meets the prompt: the
markers of a prompt are its own, three that open a turn and two that close one, and those that stand
inside a text. So whatever the texts hold, the last turn that is opened is the assistant's, and it
stays open.
-/

namespace RerankPrompt

namespace Prompt

theorem isTag_turnStart : IsTag turnStart.toList where
  head? := by decide
  bracket := by decide
  lineFeed := by decide
  space := by decide

theorem isTag_turnEnd : IsTag turnEnd.toList where
  head? := by decide
  bracket := by decide
  lineFeed := by decide
  space := by decide

theorem turnStart_free : Text.positions turnStart.toList queryMark.toList = [] ∧
    Text.positions turnStart.toList documentMark.toList = [] := by
  decide

theorem turnEnd_free : Text.positions turnEnd.toList queryMark.toList = [] ∧
    Text.positions turnEnd.toList documentMark.toList = [] := by
  decide

/-! ## The markers of the prompt itself -/

theorem positions_turnStart_header :
    Text.positions turnStart.toList header.toList = [0, userStart] := by
  have hsystem : Text.positions turnStart.toList (turnStart ++ "system\n").toList = [0] := by
    decide
  have hend : Text.positions turnStart.toList (turnEnd ++ "\n").toList = [] := by decide
  have huser : Text.positions turnStart.toList (turnStart ++ "user\n<Instruct>: ").toList = [0] := by
    decide
  rw [isTag_turnStart.positions_header, hsystem, hend, huser, List.map_nil, List.append_nil,
    List.map_singleton, Nat.add_zero, List.singleton_append]

theorem positions_turnEnd_header :
    Text.positions turnEnd.toList header.toList = [systemEnd] := by
  have hsystem : Text.positions turnEnd.toList (turnStart ++ "system\n").toList = [] := by
    decide
  have hend : Text.positions turnEnd.toList (turnEnd ++ "\n").toList = [0] := by decide
  have huser : Text.positions turnEnd.toList (turnStart ++ "user\n<Instruct>: ").toList = [] := by
    decide
  rw [isTag_turnEnd.positions_header, hsystem, hend, huser, List.map_nil, List.append_nil,
    List.map_singleton, Nat.add_zero, List.nil_append]

theorem positions_turnStart_footer :
    Text.positions turnStart.toList footer.toList = [(turnEnd ++ "\n").length] := by
  decide

theorem positions_turnEnd_footer : Text.positions turnEnd.toList footer.toList = [0] := by
  decide

/-! ## The markers of a filled prompt -/

theorem positions_turnStart (prompt : Prompt) :
    Text.positions turnStart.toList prompt.text.toList
      = [0, userStart]
        ++ (Text.positions turnStart.toList prompt.instruction.toList).map (instructionStart + ·)
        ++ (Text.positions turnStart.toList prompt.query.toList).map (prompt.queryStart + ·)
        ++ (Text.positions turnStart.toList prompt.document.toList).map (prompt.documentStart + ·)
        ++ [prompt.assistantStart] := by
  rw [positions_text_of_free isTag_turnStart.apart turnStart_free.1 turnStart_free.2,
    positions_turnStart_header, positions_turnStart_footer, List.map_singleton, footerStart_add]

theorem positions_turnEnd (prompt : Prompt) :
    Text.positions turnEnd.toList prompt.text.toList
      = [systemEnd]
        ++ (Text.positions turnEnd.toList prompt.instruction.toList).map (instructionStart + ·)
        ++ (Text.positions turnEnd.toList prompt.query.toList).map (prompt.queryStart + ·)
        ++ (Text.positions turnEnd.toList prompt.document.toList).map (prompt.documentStart + ·)
        ++ [prompt.footerStart] := by
  rw [positions_text_of_free isTag_turnEnd.apart turnEnd_free.1 turnEnd_free.2,
    positions_turnEnd_header, positions_turnEnd_footer, List.map_singleton, Nat.add_zero]

theorem length_positions_turnStart_eq_three_iff (prompt : Prompt) :
    (Text.positions turnStart.toList prompt.text.toList).length = 3 ↔
      ∀ field ∈ [prompt.instruction, prompt.query, prompt.document],
        ¬ turnStart.toList <:+: field.toList := by
  have h := length_positions_text_eq_iff isTag_turnStart.apart turnStart_free.1 turnStart_free.2
    prompt
  rwa [positions_turnStart_header, positions_turnStart_footer] at h

theorem length_positions_turnEnd_eq_two_iff (prompt : Prompt) :
    (Text.positions turnEnd.toList prompt.text.toList).length = 2 ↔
      ∀ field ∈ [prompt.instruction, prompt.query, prompt.document],
        ¬ turnEnd.toList <:+: field.toList := by
  have h := length_positions_text_eq_iff isTag_turnEnd.apart turnEnd_free.1 turnEnd_free.2 prompt
  rwa [positions_turnEnd_header, positions_turnEnd_footer] at h

/-! ## The open turn -/

theorem drop_assistantStart (prompt : Prompt) :
    prompt.text.toList.drop prompt.assistantStart = (turnStart ++ "assistant\n").toList := by
  have hsplit : prompt.text.toList
      = (header ++ prompt.body ++ turnEnd ++ "\n").toList ++ (turnStart ++ "assistant\n").toList := by
    simp only [text, footer, String.toList_append, List.append_assoc]
  rw [hsplit, assistantStart, ← String.length_toList, List.drop_left]

/-- Nothing closes the turn that a prompt leaves open. -/
theorem lt_assistantStart (prompt : Prompt) {i : Nat}
    (hi : i ∈ Text.positions turnEnd.toList prompt.text.toList) : i < prompt.assistantStart := by
  apply Nat.lt_of_not_le
  intro hle
  have hstart := (Text.mem_positions.mp hi).2
  rw [← Nat.add_sub_of_le hle, ← List.drop_drop, drop_assistantStart] at hstart
  have hoccurs := hstart.isInfix.trans (List.drop_suffix _ _).isInfix
  have hnone : ¬ turnEnd.toList <:+: (turnStart ++ "assistant\n").toList := by decide +kernel
  exact hnone hoccurs

end Prompt

namespace Template

open Prompt

/-- **No turn marker is made or lost at the edge of a text**: the markers of a prompt are its own and
those inside its texts, so that their number tells whether a text holds one; and in every prompt the
last turn is the assistant's and stays open. -/
theorem render_turnMarkers (template : Template) (query document : String)
    (instruction : Option String) :
    let prompt := template.prompt query document instruction
    let text := (template.render query document instruction).toList
    let starts := Text.positions turnStart.toList text
    let ends := Text.positions turnEnd.toList text
    let inside (marker : String) : List Nat :=
      (Text.positions marker.toList prompt.instruction.toList).map (instructionStart + ·)
        ++ (Text.positions marker.toList query.toList).map (prompt.queryStart + ·)
        ++ (Text.positions marker.toList document.toList).map (prompt.documentStart + ·)
    starts = [0, userStart] ++ inside turnStart ++ [prompt.assistantStart] ∧
    ends = [systemEnd] ++ inside turnEnd ++ [prompt.footerStart] ∧
    (starts.length = 3 ∧ ends.length = 2 ↔
      ∀ field ∈ [prompt.instruction, query, document],
        ¬ turnStart.toList <:+: field.toList ∧ ¬ turnEnd.toList <:+: field.toList) ∧
    starts.getLast? = some prompt.assistantStart ∧
    text.drop prompt.assistantStart = (turnStart ++ "assistant\n").toList ∧
    ∀ i ∈ ends, i < prompt.assistantStart := by
  intro prompt text starts ends inside
  have hstarts : starts = [0, userStart] ++ inside turnStart ++ [prompt.assistantStart] := by
    simp only [inside, ← List.append_assoc]
    exact positions_turnStart prompt
  have hends : ends = [systemEnd] ++ inside turnEnd ++ [prompt.footerStart] := by
    simp only [inside, ← List.append_assoc]
    exact positions_turnEnd prompt
  refine ⟨hstarts, hends, ?_, ?_, drop_assistantStart prompt, fun i => lt_assistantStart prompt⟩
  · have hthree := length_positions_turnStart_eq_three_iff prompt
    have htwo := length_positions_turnEnd_eq_two_iff prompt
    constructor
    · rintro ⟨hs, he⟩ field hfield
      exact ⟨hthree.mp hs field hfield, htwo.mp he field hfield⟩
    · intro hfields
      exact ⟨hthree.mpr fun field hfield => (hfields field hfield).1,
        htwo.mpr fun field hfield => (hfields field hfield).2⟩
  · rw [hstarts, List.getLast?_concat]

end Template

end RerankPrompt
