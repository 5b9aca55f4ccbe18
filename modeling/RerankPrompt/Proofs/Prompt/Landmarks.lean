import Mathlib.Data.List.Chain
import RerankPrompt.Proofs.Prompt.Parts

/-!
# The landmarks of a prompt

Six tags lead through a prompt: the openings of its turns and the labels of its texts. A text may hold
any of them, so a search need not end where the prompt has the tag of its own; it ends in the first
part that holds it (`firstPosition?_text`). No text stands in front of the tags of the header, which
are found at the same places in every prompt. Each of the others is found at its own place or in the
text right before it, if no earlier text holds it, and so behind the one that is written before it
(`render_landmarks`).
-/

namespace RerankPrompt

namespace Prompt

def instructionLabel : String := "<Instruct>: "

def queryLabel : String := "<Query>: "

def documentLabel : String := "<Document>: "

/-- How the turn starts that a prompt leaves open. -/
def assistantOpening : String := turnStart ++ "assistant"

/-- The tags that lead through a prompt, in the order in which they are written. -/
def landmarks : List String :=
  [turnStart ++ "system", turnStart ++ "user", instructionLabel, queryLabel, documentLabel,
    assistantOpening]

def instructionLabelStart : Nat :=
  (turnStart ++ "system\n" ++ judgingRule ++ turnEnd ++ "\n" ++ turnStart ++ "user\n").length

theorem isTag_of_mem_landmarks {mark : String} (h : mark ∈ landmarks) : IsTag mark.toList where
  head? := by revert mark; decide
  bracket := by revert mark; decide
  lineFeed := by revert mark; decide
  space := by revert mark; decide

/-- A search ends in the first part that holds the pattern. -/
theorem firstPosition?_text {pattern : List Char} (h : Apart pattern) (prompt : Prompt) :
    Text.firstPosition? pattern prompt.text.toList
      = (Text.firstPosition? pattern header.toList).or
        (((Text.firstPosition? pattern prompt.instruction.toList).map (instructionStart + ·)).or
        (((Text.firstPosition? pattern queryMark.toList).map (prompt.queryMarkStart + ·)).or
        (((Text.firstPosition? pattern prompt.query.toList).map (prompt.queryStart + ·)).or
        (((Text.firstPosition? pattern documentMark.toList).map (prompt.documentMarkStart + ·)).or
        (((Text.firstPosition? pattern prompt.document.toList).map (prompt.documentStart + ·)).or
        ((Text.firstPosition? pattern footer.toList).map (prompt.footerStart + ·))))))) := by
  simp only [Text.firstPosition?, positions_text h, List.head?_append, List.head?_map,
    Option.or_assoc]

theorem IsTag.firstPosition?_header {pattern : List Char} (h : IsTag pattern) :
    Text.firstPosition? pattern header.toList
      = (Text.firstPosition? pattern (turnStart ++ "system\n").toList).or
        (((Text.firstPosition? pattern (turnEnd ++ "\n").toList).map (systemEnd + ·)).or
        ((Text.firstPosition? pattern (turnStart ++ "user\n<Instruct>: ").toList).map
          (userStart + ·))) := by
  simp only [Text.firstPosition?, h.positions_header, List.head?_append, List.head?_map,
    Option.or_assoc]

/-! ## Landmarks of the header -/

theorem firstPosition?_text_of_header {mark : String} (h : mark ∈ landmarks) {i : Nat}
    (hheader : Text.firstPosition? mark.toList header.toList = some i) (prompt : Prompt) :
    Text.firstPosition? mark.toList prompt.text.toList = some i := by
  rw [firstPosition?_text (isTag_of_mem_landmarks h).apart, hheader, Option.some_or]

/-- In the header only the first landmark is found before the user's turn. -/
theorem firstPosition?_header_of_mem_tail {mark : String} (h : mark ∈ landmarks.tail) :
    Text.firstPosition? mark.toList header.toList
      = (Text.firstPosition? mark.toList (turnStart ++ "user\n<Instruct>: ").toList).map
        (userStart + ·) := by
  have hfree : ∀ part ∈ [turnStart ++ "system\n", turnEnd ++ "\n"],
      Text.firstPosition? mark.toList part.toList = none := by
    revert mark
    decide
  have htag := isTag_of_mem_landmarks (List.mem_of_mem_tail h)
  rw [htag.firstPosition?_header, hfree _ (by simp), hfree _ (by simp), Option.none_or,
    Option.map_none, Option.none_or]

theorem firstPosition?_systemOpening (prompt : Prompt) :
    Text.firstPosition? (turnStart ++ "system").toList prompt.text.toList = some 0 := by
  have hmem : turnStart ++ "system" ∈ landmarks := by simp [landmarks]
  apply firstPosition?_text_of_header hmem
  have hsystem : Text.firstPosition? (turnStart ++ "system").toList
      (turnStart ++ "system\n").toList = some 0 := by decide
  rw [(isTag_of_mem_landmarks hmem).firstPosition?_header, hsystem, Option.some_or]

theorem firstPosition?_userOpening (prompt : Prompt) :
    Text.firstPosition? (turnStart ++ "user").toList prompt.text.toList = some userStart := by
  apply firstPosition?_text_of_header (by simp [landmarks])
  have huser : Text.firstPosition? (turnStart ++ "user").toList
      (turnStart ++ "user\n<Instruct>: ").toList = some 0 := by decide
  rw [firstPosition?_header_of_mem_tail (by simp [landmarks]), huser, Option.map_some, Nat.add_zero]

theorem firstPosition?_instructionLabel (prompt : Prompt) :
    Text.firstPosition? instructionLabel.toList prompt.text.toList
      = some instructionLabelStart := by
  apply firstPosition?_text_of_header (by simp [landmarks])
  have hlabel : Text.firstPosition? instructionLabel.toList
      (turnStart ++ "user\n<Instruct>: ").toList = some (turnStart ++ "user\n").length := by
    decide
  rw [firstPosition?_header_of_mem_tail (by simp [landmarks]), hlabel, Option.map_some]
  simp only [instructionLabelStart, userStart, String.length_append, Nat.add_assoc]

/-! ## Landmarks behind the header -/

theorem firstPosition?_header_eq_none {mark : String}
    (h : mark ∈ [queryLabel, documentLabel, assistantOpening]) :
    Text.firstPosition? mark.toList header.toList = none := by
  have hmem : mark ∈ landmarks.tail := by
    simp only [landmarks, List.tail_cons]
    exact List.mem_cons_of_mem _ (List.mem_cons_of_mem _ h)
  have huser : Text.firstPosition? mark.toList (turnStart ++ "user\n<Instruct>: ").toList = none := by
    revert mark
    decide
  rw [firstPosition?_header_of_mem_tail hmem, huser, Option.map_none]

/-- The label of the query is found in the instruction, or else behind the line feed that the query's
delimiter starts with. -/
theorem firstPosition?_queryLabel (prompt : Prompt) :
    Text.firstPosition? queryLabel.toList prompt.text.toList
      = ((Text.firstPosition? queryLabel.toList prompt.instruction.toList).map
          (instructionStart + ·)).or (some (prompt.queryMarkStart + 1)) := by
  have hmark : Text.firstPosition? queryLabel.toList queryMark.toList = some 1 := by decide
  rw [firstPosition?_text (isTag_of_mem_landmarks (by simp [landmarks])).apart,
    firstPosition?_header_eq_none (by simp), hmark]
  simp only [Option.none_or, Option.map_some, Option.some_or]

/-- An instruction without the label of the document leaves it to the query or its own delimiter. -/
theorem firstPosition?_documentLabel {prompt : Prompt}
    (hinstruction : ¬ documentLabel.toList <:+: prompt.instruction.toList) :
    Text.firstPosition? documentLabel.toList prompt.text.toList
      = ((Text.firstPosition? documentLabel.toList prompt.query.toList).map
          (prompt.queryStart + ·)).or (some (prompt.documentMarkStart + 1)) := by
  have hquery : Text.firstPosition? documentLabel.toList queryMark.toList = none := by
    decide
  have hmark : Text.firstPosition? documentLabel.toList documentMark.toList = some 1 := by
    decide
  rw [firstPosition?_text (isTag_of_mem_landmarks (by simp [landmarks])).apart,
    firstPosition?_header_eq_none (by simp), Text.firstPosition?_eq_none_iff.mpr hinstruction, hquery,
    hmark]
  simp only [Option.map_none, Option.none_or, Option.map_some, Option.some_or]

/-- Where neither of the first two texts opens the assistant's turn, the document does or the prompt
itself. -/
theorem firstPosition?_assistantOpening {prompt : Prompt}
    (hinstruction : ¬ assistantOpening.toList <:+: prompt.instruction.toList)
    (hquery : ¬ assistantOpening.toList <:+: prompt.query.toList) :
    Text.firstPosition? assistantOpening.toList prompt.text.toList
      = ((Text.firstPosition? assistantOpening.toList prompt.document.toList).map
          (prompt.documentStart + ·)).or (some prompt.assistantStart) := by
  have hmarks : ∀ mark ∈ [queryMark, documentMark],
      Text.firstPosition? assistantOpening.toList mark.toList = none := by decide
  have hfooter : Text.firstPosition? assistantOpening.toList footer.toList
      = some (turnEnd ++ "\n").length := by decide
  rw [firstPosition?_text (isTag_of_mem_landmarks (by simp [landmarks])).apart,
    firstPosition?_header_eq_none (by simp), Text.firstPosition?_eq_none_iff.mpr hinstruction,
    hmarks _ (by simp), Text.firstPosition?_eq_none_iff.mpr hquery, hmarks _ (by simp), hfooter]
  simp only [Option.map_none, Option.none_or, Option.map_some, footerStart_add]

/-! ## The order of the landmarks -/

theorem length_turnStart_pos : 0 < turnStart.length := by
  decide

theorem userStart_pos : 0 < userStart := by
  have hturn := length_turnStart_pos
  simp only [userStart, String.length_append]
  omega

theorem userStart_lt : userStart < instructionLabelStart := by
  have hturn := length_turnStart_pos
  simp only [userStart, instructionLabelStart, String.length_append]
  omega

theorem instructionLabelStart_lt : instructionLabelStart < instructionStart := by
  have hlabel : 0 < "<Instruct>: ".length := by decide
  simp only [instructionLabelStart, instructionStart, header, String.length_append]
  omega

/-- The place is in the instruction or in the query's delimiter, so the query starts behind it. -/
theorem exists_firstPosition?_queryLabel (prompt : Prompt) :
    ∃ i, Text.firstPosition? queryLabel.toList prompt.text.toList = some i ∧
      instructionStart ≤ i ∧ i < prompt.queryStart := by
  have hmark : 1 < queryMark.length := by decide
  have hfield : prompt.queryMarkStart = instructionStart + prompt.instruction.toList.length := by
    simp only [queryMarkStart, instructionStart, String.length_append, String.length_toList]
  have hquery : prompt.queryStart = prompt.queryMarkStart + queryMark.length :=
    String.length_append _ _
  obtain ⟨i, hi, hstart, hplace⟩ :=
    Text.exists_of_firstPosition?_eq_or (firstPosition?_queryLabel prompt) (by omega)
  exact ⟨i, hi, hstart, by omega⟩

theorem exists_firstPosition?_documentLabel {prompt : Prompt}
    (hinstruction : ¬ documentLabel.toList <:+: prompt.instruction.toList) :
    ∃ i, Text.firstPosition? documentLabel.toList prompt.text.toList = some i ∧
      prompt.queryStart ≤ i ∧ i < prompt.documentStart := by
  have hmark : 1 < documentMark.length := by decide
  have hfield : prompt.documentMarkStart = prompt.queryStart + prompt.query.toList.length := by
    simp only [documentMarkStart, queryStart, String.length_append, String.length_toList]
  have hdocument : prompt.documentStart = prompt.documentMarkStart + documentMark.length :=
    String.length_append _ _
  obtain ⟨i, hi, hstart, hplace⟩ :=
    Text.exists_of_firstPosition?_eq_or (firstPosition?_documentLabel hinstruction) (by omega)
  exact ⟨i, hi, hstart, by omega⟩

theorem exists_firstPosition?_assistantOpening {prompt : Prompt}
    (hinstruction : ¬ assistantOpening.toList <:+: prompt.instruction.toList)
    (hquery : ¬ assistantOpening.toList <:+: prompt.query.toList) :
    ∃ i, Text.firstPosition? assistantOpening.toList prompt.text.toList = some i ∧
      prompt.documentStart ≤ i := by
  have hfield : prompt.documentStart + prompt.document.toList.length ≤ prompt.assistantStart := by
    simp only [documentStart, assistantStart, body, String.length_append, String.length_toList]
    omega
  obtain ⟨i, hi, hstart, -⟩ :=
    Text.exists_of_firstPosition?_eq_or (firstPosition?_assistantOpening hinstruction hquery) hfield
  exact ⟨i, hi, hstart⟩

end Prompt

namespace Template

open Prompt

/-- **The landmarks of a prompt are found in order**: those of the header at the same places whatever
the texts are, and all six one behind the other unless the instruction holds the label of the document
or one of the first two texts opens the assistant's turn. -/
theorem render_landmarks (template : Template) (query document : String)
    (instruction : Option String) :
    let prompt := template.prompt query document instruction
    let text := (template.render query document instruction).toList
    let place (mark : String) : Option Nat := Text.firstPosition? mark.toList text
    (place (turnStart ++ "system") = some 0 ∧ place (turnStart ++ "user") = some userStart ∧
      place instructionLabel = some instructionLabelStart) ∧
    (¬ documentLabel.toList <:+: prompt.instruction.toList →
      ¬ assistantOpening.toList <:+: prompt.instruction.toList →
      ¬ assistantOpening.toList <:+: query.toList →
      ∃ places : List Nat, landmarks.map place = places.map some ∧ places.Pairwise (· < ·)) := by
  intro prompt text place
  have hsystem : place (turnStart ++ "system") = some 0 := firstPosition?_systemOpening prompt
  have huser : place (turnStart ++ "user") = some userStart := firstPosition?_userOpening prompt
  have hlabel : place instructionLabel = some instructionLabelStart :=
    firstPosition?_instructionLabel prompt
  refine ⟨⟨hsystem, huser, hlabel⟩, fun hdocument hinstruction hquery => ?_⟩
  obtain ⟨i, (hi : place queryLabel = some i), hi_ge, hi_lt⟩ :=
    exists_firstPosition?_queryLabel prompt
  obtain ⟨j, (hj : place documentLabel = some j), hj_ge, hj_lt⟩ :=
    exists_firstPosition?_documentLabel hdocument
  obtain ⟨k, (hk : place assistantOpening = some k), hk_ge⟩ :=
    exists_firstPosition?_assistantOpening hinstruction hquery
  refine ⟨[0, userStart, instructionLabelStart, i, j, k], ?_, ?_⟩
  · simp only [landmarks, List.map_cons, List.map_nil, hsystem, huser, hlabel, hi, hj, hk]
  · -- each landmark is found before the field in which the next one can be found at the earliest
    apply List.isChain_iff_pairwise.mp
    simp only [List.isChain_cons_cons, List.isChain_singleton, and_true]
    exact ⟨userStart_pos, userStart_lt, Nat.lt_of_lt_of_le instructionLabelStart_lt hi_ge,
      Nat.lt_of_lt_of_le hi_lt hj_ge, Nat.lt_of_lt_of_le hj_lt hk_ge⟩

/-- Labels and openings in the texts, whole where they do no harm and else cut short where the texts
end. -/
theorem render_landmarks_in_texts :
    let instruction := "<Query>: <|im_start|>user\n<Document>:"
    let query := "<Document>: <Query>: <|im_start|>assist"
    let document := "<|im_start|>assistant\n<Document>: "
    let text := (Template.render {} query document (some instruction)).toList
    ¬ documentLabel.toList <:+: instruction.toList ∧
    ¬ assistantOpening.toList <:+: instruction.toList ∧
    ¬ assistantOpening.toList <:+: query.toList ∧
    ∃ places : List Nat,
      landmarks.map (fun mark => Text.firstPosition? mark.toList text) = places.map some ∧
      places.Pairwise (· < ·) := by
  intro instruction query document text
  have hdocument : ¬ documentLabel.toList <:+: instruction.toList :=
    Text.firstPosition?_eq_none_iff.mp (by decide)
  have hinstruction : ¬ assistantOpening.toList <:+: instruction.toList :=
    Text.firstPosition?_eq_none_iff.mp (by decide)
  have hquery : ¬ assistantOpening.toList <:+: query.toList :=
    Text.firstPosition?_eq_none_iff.mp (by decide)
  exact ⟨hdocument, hinstruction, hquery,
    (render_landmarks {} query document (some instruction)).2 hdocument hinstruction hquery⟩

end Template

end RerankPrompt
