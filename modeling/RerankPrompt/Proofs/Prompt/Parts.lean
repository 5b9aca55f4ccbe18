import RerankPrompt.Template
import RerankPrompt.Proofs.Text.Occurrence

/-!
# Where the parts of a prompt stand

A prompt is seven parts, of which four are fixed. For a pattern that is `Apart` no occurrence runs over
one of the six seams between them, whatever the three texts are, so that its positions are those in
the parts, each shifted to where the part starts (`positions_text`).
-/

namespace RerankPrompt.Prompt

/-! ## Places -/

def systemEnd : Nat :=
  (turnStart ++ "system\n" ++ judgingRule).length

def userStart : Nat :=
  (turnStart ++ "system\n" ++ judgingRule ++ turnEnd ++ "\n").length

def instructionStart : Nat :=
  header.length

def queryMarkStart (prompt : Prompt) : Nat :=
  (header ++ prompt.instruction).length

def queryStart (prompt : Prompt) : Nat :=
  (header ++ prompt.instruction ++ queryMark).length

def documentMarkStart (prompt : Prompt) : Nat :=
  (header ++ prompt.instruction ++ queryMark ++ prompt.query).length

def documentStart (prompt : Prompt) : Nat :=
  (header ++ prompt.instruction ++ queryMark ++ prompt.query ++ documentMark).length

def footerStart (prompt : Prompt) : Nat :=
  (header ++ prompt.body).length

def assistantStart (prompt : Prompt) : Nat :=
  (header ++ prompt.body ++ turnEnd ++ "\n").length

theorem footerStart_add (prompt : Prompt) :
    prompt.footerStart + (turnEnd ++ "\n").length = prompt.assistantStart := by
  simp only [footerStart, assistantStart, String.length_append, Nat.add_assoc]

/-! ## Patterns that stay within a part -/

/-- The delimiters and the footer start with a character that the pattern has nowhere but at its start,
and no fixed part ends with a beginning of the pattern that a text could complete. -/
structure Apart (pattern : List Char) : Prop where
  ne_nil : pattern ≠ []
  lineFeed : '\n' ∉ pattern.tail
  bracket : '<' ∉ pattern.tail
  header : ∀ back, Text.Seam pattern header.toList back
  queryMark : ∀ back, Text.Seam pattern queryMark.toList back
  documentMark : ∀ back, Text.Seam pattern documentMark.toList back

/-- Tags open with a bracket and hold no other, no line feed, and no space but at their end. -/
structure IsTag (pattern : List Char) : Prop where
  head? : pattern.head? = some '<'
  bracket : '<' ∉ pattern.tail
  lineFeed : '\n' ∉ pattern
  space : ' ' ∉ pattern.dropLast

namespace IsTag

variable {pattern : List Char} (h : IsTag pattern)

include h

theorem ne_nil : pattern ≠ [] :=
  List.ne_nil_of_mem (List.mem_of_mem_head? h.head?)

theorem lineFeed_notMem_dropLast : '\n' ∉ pattern.dropLast :=
  fun hmem => h.lineFeed ((List.dropLast_sublist pattern).subset hmem)

/-- A space ends each fixed part before a text, and a tag has none that it could go on from. -/
theorem apart : Apart pattern where
  ne_nil := h.ne_nil
  lineFeed hmem := h.lineFeed (List.mem_of_mem_tail hmem)
  bracket := h.bracket
  header _ := by
    apply Text.seam_of_getLast? (c := ' ') _ h.space
    rw [Prompt.header, String.toList_append, List.getLast?_append]
    rfl
  queryMark _ := Text.seam_of_getLast? (by decide) h.space
  documentMark _ := Text.seam_of_getLast? (by decide) h.space

/-- The tags of the header are those of its three turn parts; the judging rule has none. -/
theorem positions_header :
    Text.positions pattern Prompt.header.toList
      = Text.positions pattern (turnStart ++ "system\n").toList
        ++ (Text.positions pattern (turnEnd ++ "\n").toList).map (systemEnd + ·)
        ++ (Text.positions pattern (turnStart ++ "user\n<Instruct>: ").toList).map
          (userStart + ·) := by
  have hrule : Text.positions pattern judgingRule.toList = [] :=
    Text.positions_eq_nil_of_notMem h.head? (by decide +kernel)
  have hsplit : Prompt.header.toList
      = (turnStart ++ "system\n").toList ++ (judgingRule.toList
        ++ ((turnEnd ++ "\n").toList ++ (turnStart ++ "user\n<Instruct>: ").toList)) := by
    have huser : "user\n" ++ "<Instruct>: " = "user\n<Instruct>: " := rfl
    rw [← huser]
    simp only [Prompt.header, String.toList_append, List.append_assoc]
  have hsystem (back : List Char) :
      Text.Seam pattern (turnStart ++ "system\n").toList back :=
    Text.seam_of_getLast? (by decide) h.lineFeed_notMem_dropLast
  have hopen : Text.Seam pattern judgingRule.toList
      ((turnEnd ++ "\n").toList ++ (turnStart ++ "user\n<Instruct>: ").toList) :=
    Text.seam_of_head? (by decide) h.bracket
  have hclose (back : List Char) : Text.Seam pattern (turnEnd ++ "\n").toList back :=
    Text.seam_of_getLast? (by decide) h.lineFeed_notMem_dropLast
  rw [hsplit, Text.positions_append h.ne_nil (hsystem _), Text.positions_append h.ne_nil hopen,
    Text.positions_append h.ne_nil (hclose _), hrule]
  simp only [List.nil_append, List.map_append, List.map_map, Function.comp_def, systemEnd,
    userStart, String.toList_append, List.length_append, String.length_append, String.length_toList,
    List.append_assoc, Nat.add_assoc]

end IsTag

theorem positions_text {pattern : List Char} (h : Apart pattern) (prompt : Prompt) :
    Text.positions pattern prompt.text.toList
      = Text.positions pattern header.toList
        ++ (Text.positions pattern prompt.instruction.toList).map (instructionStart + ·)
        ++ (Text.positions pattern queryMark.toList).map (prompt.queryMarkStart + ·)
        ++ (Text.positions pattern prompt.query.toList).map (prompt.queryStart + ·)
        ++ (Text.positions pattern documentMark.toList).map (prompt.documentMarkStart + ·)
        ++ (Text.positions pattern prompt.document.toList).map (prompt.documentStart + ·)
        ++ (Text.positions pattern footer.toList).map (prompt.footerStart + ·) := by
  have hinstruction (back : List Char) :
      Text.Seam pattern prompt.instruction.toList (queryMark.toList ++ back) :=
    Text.seam_of_head? (c := '\n') (by simp [queryMark]) h.lineFeed
  have hquery (back : List Char) :
      Text.Seam pattern prompt.query.toList (documentMark.toList ++ back) :=
    Text.seam_of_head? (c := '\n') (by simp [documentMark]) h.lineFeed
  have hdocument : Text.Seam pattern prompt.document.toList footer.toList :=
    Text.seam_of_head? (c := '<') (by decide) h.bracket
  rw [toList_text, toList_body]
  simp only [List.append_assoc]
  rw [Text.positions_append h.ne_nil (h.header _), Text.positions_append h.ne_nil (hinstruction _),
    Text.positions_append h.ne_nil (h.queryMark _), Text.positions_append h.ne_nil (hquery _),
    Text.positions_append h.ne_nil (h.documentMark _), Text.positions_append h.ne_nil hdocument]
  simp only [List.map_append, List.map_map, Function.comp_def, instructionStart, queryMarkStart,
    queryStart, documentMarkStart, documentStart, footerStart, body, String.length_append,
    String.length_toList, Nat.add_assoc]

/-! ## Patterns that the delimiters do not hold -/

section Free

variable {pattern : List Char} (h : Apart pattern)
  (hquery : Text.positions pattern queryMark.toList = [])
  (hdocument : Text.positions pattern documentMark.toList = [])

include h hquery hdocument

theorem positions_text_of_free (prompt : Prompt) :
    Text.positions pattern prompt.text.toList
      = Text.positions pattern header.toList
        ++ (Text.positions pattern prompt.instruction.toList).map (instructionStart + ·)
        ++ (Text.positions pattern prompt.query.toList).map (prompt.queryStart + ·)
        ++ (Text.positions pattern prompt.document.toList).map (prompt.documentStart + ·)
        ++ (Text.positions pattern footer.toList).map (prompt.footerStart + ·) := by
  rw [positions_text h, hquery, hdocument]
  simp only [List.map_nil, List.append_nil]

/-- A prompt has no more occurrences than header and footer exactly where none of its texts has one. -/
theorem length_positions_text_eq_iff (prompt : Prompt) :
    (Text.positions pattern prompt.text.toList).length
        = (Text.positions pattern header.toList).length
          + (Text.positions pattern footer.toList).length ↔
      ∀ field ∈ [prompt.instruction, prompt.query, prompt.document],
        ¬ pattern <:+: field.toList := by
  rw [positions_text_of_free h hquery hdocument]
  simp only [List.forall_mem_cons, ← Text.length_positions_eq_zero_iff, List.length_append,
    List.length_map, List.not_mem_nil, false_implies, implies_true, and_true]
  omega

/-- A pattern that no fixed part holds occurs in a prompt exactly where one of its texts holds it. -/
theorem infix_text_iff (hheader : Text.positions pattern header.toList = [])
    (hfooter : Text.positions pattern footer.toList = []) (prompt : Prompt) :
    pattern <:+: prompt.text.toList ↔
      ∃ field ∈ [prompt.instruction, prompt.query, prompt.document], pattern <:+: field.toList := by
  have hlength := length_positions_text_eq_iff h hquery hdocument prompt
  rw [hheader, hfooter, List.length_nil, Nat.add_zero, Text.length_positions_eq_zero_iff] at hlength
  constructor
  · intro hoccurs
    apply Classical.byContradiction
    intro hnone
    exact hlength.mpr (fun field hfield hinside => hnone ⟨field, hfield, hinside⟩) hoccurs
  · rintro ⟨field, hfield, hinside⟩
    apply Classical.byContradiction
    intro hnone
    exact hlength.mp hnone field hfield hinside

end Free

end RerankPrompt.Prompt
