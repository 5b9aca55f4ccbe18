import RerankPrompt.Template
import RerankPrompt.Proofs.Text.Occurrence

/-!
# Reading a prompt back

Nothing is escaped in a prompt, so a text may hold delimiters of its own. `ofText?` reads every prompt
(`exists_ofText?_text`), but it gives back the very texts that were filled in only where the
instruction holds no query delimiter and the query no document delimiter (`ofText?_eq_some_iff`). The
document may hold anything. Both delimiters start with a line feed and hold no other, so none arises
between a text and the delimiter behind it.
-/

namespace RerankPrompt

namespace Prompt

theorem lineFeed_notMem_queryMark : '\n' ∉ queryMark.toList.tail := by
  decide

theorem lineFeed_notMem_documentMark : '\n' ∉ documentMark.toList.tail := by
  decide

/-- A text is read in two cuts, once header and footer are off. -/
theorem ofText?_text_eq_some_iff {prompt read : Prompt} :
    ofText? prompt.text = some read ↔
      ∃ rest,
        Text.cut? queryMark.toList prompt.body.toList = some (read.instruction.toList, rest) ∧
        Text.cut? documentMark.toList rest = some (read.query.toList, read.document.toList) := by
  have hbody : Text.between? header.toList footer.toList prompt.text.toList
      = some prompt.body.toList := Text.between?_eq_some_iff.mpr (toList_text prompt)
  simp only [ofText?, hbody, Option.bind_eq_bind, Option.bind_some, Option.bind_eq_some_iff,
    Option.pure_def, Option.some.injEq, Prod.exists]
  constructor
  · rintro ⟨instruction, rest, hquery, query, document, hdocument, rfl⟩
    exact ⟨rest, by simpa using hquery, by simpa using hdocument⟩
  · rintro ⟨rest, hquery, hdocument⟩
    exact ⟨_, rest, hquery, _, _, hdocument, by simp only [String.ofList_toList]⟩

theorem exists_ofText?_text (prompt : Prompt) : ∃ read, ofText? prompt.text = some read := by
  cases hquery : Text.cut? queryMark.toList prompt.body.toList with
  | none =>
    rw [Text.cut?_eq_none_iff, toList_body] at hquery
    exact absurd (List.infix_append _ _ _) hquery
  | some cut =>
    obtain ⟨instruction, rest⟩ := cut
    -- what the first cut leaves may start early, but it still ends with query and document
    have hrest := toList_body prompt ▸ hquery
    have hsuffix := (Text.suffix_of_cut? hrest).isInfix
    cases hdocument : Text.cut? documentMark.toList rest with
    | none =>
      have hmark : documentMark.toList <:+: rest := (List.infix_append _ _ _).trans hsuffix
      exact absurd hmark (Text.cut?_eq_none_iff.mp hdocument)
    | some cut =>
      obtain ⟨query, document⟩ := cut
      refine ⟨⟨String.ofList instruction, String.ofList query, String.ofList document⟩, ?_⟩
      exact ofText?_text_eq_some_iff.mpr ⟨rest, by simpa using hquery, by simpa using hdocument⟩

theorem ofText?_text_eq_self_iff {prompt : Prompt} :
    ofText? prompt.text = some prompt ↔
      ¬ queryMark.toList <:+: prompt.instruction.toList ∧
        ¬ documentMark.toList <:+: prompt.query.toList := by
  have hquery {front back : List Char} :
      Text.cut? queryMark.toList (front ++ queryMark.toList ++ back) = some (front, back)
        ↔ ¬ queryMark.toList <:+: front :=
    Text.cut?_append_iff (by decide) lineFeed_notMem_queryMark
  have hdocument {front back : List Char} :
      Text.cut? documentMark.toList (front ++ documentMark.toList ++ back) = some (front, back)
        ↔ ¬ documentMark.toList <:+: front :=
    Text.cut?_append_iff (by decide) lineFeed_notMem_documentMark
  rw [ofText?_text_eq_some_iff, toList_body]
  constructor
  · rintro ⟨rest, hfirst, hsecond⟩
    have heq := (Text.cut?_eq_some_iff.mp hfirst).1
    obtain rfl := List.append_cancel_left heq
    exact ⟨hquery.mp hfirst, hdocument.mp hsecond⟩
  · rintro ⟨hinstruction, hfield⟩
    exact ⟨_, hquery.mpr hinstruction, hdocument.mpr hfield⟩

/-- A text is read as a prompt exactly when it is the text of that prompt and neither delimiter
occurs before its place. -/
theorem ofText?_eq_some_iff {s : String} {prompt : Prompt} :
    ofText? s = some prompt ↔ prompt.text = s ∧
      ¬ queryMark.toList <:+: prompt.instruction.toList ∧
        ¬ documentMark.toList <:+: prompt.query.toList := by
  constructor
  · intro h
    have htext := text_of_ofText? h
    subst htext
    exact ⟨rfl, ofText?_text_eq_self_iff.mp h⟩
  · rintro ⟨rfl, h⟩
    exact ofText?_text_eq_self_iff.mpr h

end Prompt

namespace Template

open Prompt

/-- **Reading undoes filling**: every prompt is read, as texts that fill it again; they are the texts
it was filled with exactly when no delimiter stands too early; and whatever text is read is the one
that is filled with what was read. -/
theorem ofText?_inverts_render (template : Template) (instruction query document : String) :
    (∃ read, ofText? (template.render query document (some instruction)) = some read ∧
      template.render read.query read.document (some read.instruction)
        = template.render query document (some instruction)) ∧
    (ofText? (template.render query document (some instruction))
        = some ⟨instruction, query, document⟩ ↔
      ¬ queryMark.toList <:+: instruction.toList ∧ ¬ documentMark.toList <:+: query.toList) ∧
    ∀ (s : String) (read : Prompt), ofText? s = some read →
      template.render read.query read.document (some read.instruction) = s := by
  refine ⟨?_, ofText?_text_eq_self_iff, fun s read h => text_of_ofText? h⟩
  obtain ⟨read, hread⟩ := exists_ofText?_text ⟨instruction, query, document⟩
  exact ⟨read, hread, text_of_ofText? hread⟩

/-- Delimiters and markers in the document do no harm, and neither do the beginnings of delimiters that
the other texts end with. -/
theorem ofText?_render_delimiters_in_document :
    ofText? (Template.render {} "<Document>: \n<Docu" "a\n<Query>: b\n<Document>: c<|im_end|>\n"
        (some "Rank\n<Query>:"))
      = some ⟨"Rank\n<Query>:", "<Document>: \n<Docu",
          "a\n<Query>: b\n<Document>: c<|im_end|>\n"⟩ :=
  (ofText?_inverts_render {} _ _ _).2.1.mpr ⟨by decide +kernel, by decide +kernel⟩

end Template

end RerankPrompt
