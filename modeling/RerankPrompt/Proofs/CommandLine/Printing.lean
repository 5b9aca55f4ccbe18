import RerankPrompt.CommandLine.Run
import RerankPrompt.Proofs.Text.Stripping

/-!
# What the command line prints

Escape sequences are taken out of the whole of a printed value, not out of the texts that it is filled
with. It comes to the same: every fixed part of a prompt starts with a character that stops a
sequence that a text has begun, and holds no escape character itself. So `format` prints the input
for the plain texts, and prints what a builder makes of the texts as given exactly where none of
those that are rendered holds a sequence.
-/

namespace RerankPrompt

open Text.EscapeSequence

namespace CommandLine

/-! ## Plain texts -/

theorem toList_plain (text : String) : (plain text).toList = strip text.toList := by
  rw [plain, String.toList_ofList]

theorem plain_eq_self_iff {text : String} : plain text = text ↔ ¬ HasSequence text.toList := by
  rw [← strip_eq_self_iff, ← String.toList_inj, toList_plain]

theorem plain_of_notMem {text : String} (h : escape ∉ text.toList) : plain text = text := by
  rw [plain, strip_of_notMem h, String.ofList_toList]

theorem length_plain_le (text : String) : (plain text).length ≤ text.length := by
  rw [← String.length_toList, ← String.length_toList, toList_plain]
  exact (strip_sublist text.toList).length_le

theorem plain_eq_self_of_length {text : String} (h : text.length ≤ (plain text).length) :
    plain text = text := by
  rw [← String.length_toList, ← String.length_toList, toList_plain] at h
  apply String.toList_inj.mp
  rw [toList_plain]
  exact (strip_sublist text.toList).eq_of_length_le h

/-! ## Fixed parts -/

theorem stops_lineFeed : Stops '\n' := ⟨by decide, by decide, by decide⟩

theorem stops_bracket : Stops '<' := ⟨by decide, by decide, by decide⟩

theorem escape_notMem_header : escape ∉ Prompt.header.toList :=
  Prompt.notMem_header (by decide +kernel)

theorem escape_notMem_generalInstruction : escape ∉ generalInstruction.toList := by
  decide +kernel

/-- A text before a fixed part and the part itself: the text is stripped, the part passed over. -/
theorem strip_append_fixed {c : Char} (hc : Stops c) (fixed : List Char)
    (hhead : fixed.head? = some c) (hescape : escape ∉ fixed) (front back : List Char) :
    strip (front ++ (fixed ++ back)) = strip front ++ (fixed ++ strip back) := by
  obtain ⟨tail, rfl⟩ := List.head?_eq_some_iff.mp hhead
  rw [List.cons_append, strip_append_of_stops hc, ← List.cons_append,
    strip_append_of_notMem hescape]

theorem plain_text (prompt : Prompt) :
    plain prompt.text
      = Prompt.text ⟨plain prompt.instruction, plain prompt.query, plain prompt.document⟩ := by
  have hquery := strip_append_fixed stops_lineFeed Prompt.queryMark.toList (by decide)
    (by decide +kernel)
  have hdocument := strip_append_fixed stops_lineFeed Prompt.documentMark.toList (by decide)
    (by decide +kernel)
  have hfooter := strip_append_fixed stops_bracket Prompt.footer.toList (by decide +kernel)
    (by decide +kernel) prompt.document.toList []
  rw [strip_nil, List.append_nil] at hfooter
  apply String.toList_inj.mp
  rw [toList_plain]
  simp only [Prompt.toList_text, Prompt.toList_body, toList_plain, List.append_assoc]
  rw [strip_append_of_notMem escape_notMem_header, hquery, hdocument, hfooter]

theorem plain_line (text : String) : plain (text ++ "\n") = plain text ++ "\n" := by
  have hline := strip_append_fixed stops_lineFeed "\n".toList rfl (by decide) text.toList []
  rw [strip_nil, List.append_nil] at hline
  apply String.toList_inj.mp
  rw [toList_plain, String.toList_append, String.toList_append, toList_plain, hline]

/-! ## What stays as it was -/

theorem plain_text_eq_self_iff {prompt : Prompt} :
    plain prompt.text = prompt.text ↔
      plain prompt.instruction = prompt.instruction ∧ plain prompt.query = prompt.query ∧
        plain prompt.document = prompt.document := by
  rw [plain_text]
  constructor
  · -- no text gets longer, so none gets shorter where the whole does not
    intro h
    have hlength := congrArg String.length h
    simp only [Prompt.text_eq, String.length_append] at hlength
    have hinstruction := length_plain_le prompt.instruction
    have hquery := length_plain_le prompt.query
    have hdocument := length_plain_le prompt.document
    exact ⟨plain_eq_self_of_length (by omega), plain_eq_self_of_length (by omega),
      plain_eq_self_of_length (by omega)⟩
  · rintro ⟨hinstruction, hquery, hdocument⟩
    rw [hinstruction, hquery, hdocument]

theorem plain_lines_eq_self_iff {query document : String} :
    plain query ++ "\n" ++ plain document ++ "\n" = query ++ "\n" ++ document ++ "\n" ↔
      plain query = query ∧ plain document = document := by
  constructor
  · intro h
    have hlength := congrArg String.length h
    simp only [String.length_append] at hlength
    have hquery := length_plain_le query
    have hdocument := length_plain_le document
    exact ⟨plain_eq_self_of_length (by omega), plain_eq_self_of_length (by omega)⟩
  · rintro ⟨hquery, hdocument⟩
    rw [hquery, hdocument]

/-! ## Rendered prompts -/

theorem plain_render (query document : String) (instruction : Option String) :
    plain (Template.render {} query document instruction)
      = Template.render {} (plain query) (plain document) (instruction.map plain) := by
  rw [Template.render, plain_text]
  cases instruction with
  | none =>
    have hgeneral := plain_of_notMem escape_notMem_generalInstruction
    exact congrArg (fun text => Prompt.text ⟨text, plain query, plain document⟩) hgeneral
  | some instruction => rfl

theorem plain_render_eq_self_iff {query document : String} {instruction : Option String} :
    plain (Template.render {} query document instruction)
        = Template.render {} query document instruction ↔
      ∀ text ∈ [query, document] ++ instruction.toList, plain text = text := by
  rw [Template.render, plain_text_eq_self_iff]
  cases instruction with
  | none =>
    have hgeneral := plain_of_notMem escape_notMem_generalInstruction
    simp [Template.prompt, hgeneral]
  | some instruction => simp [Template.prompt, and_comm, and_assoc]

/-! ## Command lines -/

theorem values_format (query document model : String) (instruction : Option String) :
    (Request.format query document model instruction).values
      = if Model.needsTemplate model then [Template.render {} query document instruction]
        else [query ++ "\n", document ++ "\n"] := by
  rw [Request.values, Builder.build_ofModel]
  split
  · rfl
  · rfl

theorem join_values_detect (model : String) :
    String.join ((Request.detect model).values.map plain)
      = if Model.needsTemplate model then "true\n" else "false\n" := by
  have htrue : plain "true\n" = "true\n" := plain_of_notMem (by decide +kernel)
  have hfalse : plain "false\n" = "false\n" := plain_of_notMem (by decide +kernel)
  rw [Request.values, List.map_singleton, String.join_cons, String.join_nil, String.append_empty]
  split
  · exact htrue
  · exact hfalse

theorem printed_eq {arguments : List String} {invocation : Invocation}
    (hread : Invocation.ofArguments arguments = .ok invocation)
    (haccepted : (run arguments).exitCode = 0) :
    (run arguments).printed = String.join (invocation.request.values.map plain) := by
  obtain ⟨threshold, -, hrun⟩ := run_of_accepted hread haccepted
  rw [hrun]
  rfl

/-- **`format` prints the input for the plain texts**: with a template the prompt, whose instruction is
the general one where none is given, and without one a line for each text. It is what a builder makes
of the texts as given exactly where no escape sequence occurs in those that are rendered. -/
theorem run_format_printed {arguments : List String} {query document model level : String}
    {instruction : Option String} {structured : Bool}
    (hread : Invocation.ofArguments arguments
      = .ok ⟨.format query document model instruction, level, structured⟩)
    (haccepted : (run arguments).exitCode = 0) :
    (run arguments).printed
      = (if Model.needsTemplate model then
          Template.render {} (plain query) (plain document) (instruction.map plain)
        else plain query ++ "\n" ++ plain document ++ "\n") ∧
    ((run arguments).printed
        = String.join ((Builder.ofModel model).build query document instruction).printed ↔
      ∀ text ∈ [query, document] ++ (if Model.needsTemplate model then instruction.toList else []),
        ¬ HasSequence text.toList) := by
  have hvalues := values_format query document model instruction
  have hgiven : ((Builder.ofModel model).build query document instruction).printed
      = (Request.format query document model instruction).values := rfl
  rw [printed_eq hread haccepted, hgiven, hvalues]
  simp only [← plain_eq_self_iff]
  by_cases hmodel : Model.needsTemplate model = true
  · have hjoin (text : String) : String.join [text] = text := by
      rw [String.join_cons, String.join_nil, String.append_empty]
    rw [if_pos hmodel, if_pos hmodel, if_pos hmodel, List.map_singleton, hjoin, hjoin]
    exact ⟨plain_render query document instruction, plain_render_eq_self_iff⟩
  · have hjoin (query document : String) :
        String.join [query ++ "\n", document ++ "\n"] = query ++ "\n" ++ document ++ "\n" := by
      simp only [String.join_cons, String.join_nil, String.append_empty, String.append_assoc]
    rw [if_neg hmodel, if_neg hmodel, if_neg hmodel, List.map_cons, List.map_singleton, plain_line,
      plain_line, hjoin, hjoin, plain_lines_eq_self_iff]
    simp

/-- A sequence that the query begins is not completed by the document. -/
theorem run_format_printed_begun_sequence :
    let arguments := ["format", "--instruction", "a\x1b[31mb", "q\x1b[3", "1m\x1b[0md"]
    Invocation.ofArguments arguments
      = .ok ⟨.format "q\x1b[3" "1m\x1b[0md" Model.defaultId (some "a\x1b[31mb"), "INFO", false⟩ ∧
    (run arguments).exitCode = 0 ∧
    (run arguments).printed = Template.render {} "q\x1b[3" "1md" (some "ab") := by
  intro arguments
  have hread : Invocation.ofArguments arguments = .ok
      ⟨.format "q\x1b[3" "1m\x1b[0md" Model.defaultId (some "a\x1b[31mb"), "INFO", false⟩ := rfl
  have haccepted : (run arguments).exitCode = 0 := by decide +kernel
  have hmodel : Model.needsTemplate Model.defaultId = true := by decide +kernel
  have hquery : plain "q\x1b[3" = "q\x1b[3" := by decide +kernel
  have hdocument : plain "1m\x1b[0md" = "1md" := by decide +kernel
  have hinstruction : plain "a\x1b[31mb" = "ab" := by decide +kernel
  have hprinted := (run_format_printed hread haccepted).1
  rw [hmodel, if_pos rfl, hquery, hdocument, Option.map_some, hinstruction] at hprinted
  exact ⟨hread, haccepted, hprinted⟩

end CommandLine

end RerankPrompt
