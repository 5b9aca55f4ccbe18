import RerankPrompt.Text.Search

/-!
# Prompts

The prompt that asks a chat model to judge one document: a system turn with the judging rule, a user
turn with instruction, query and document, and an assistant turn that is left open for the answer.
The three texts are inserted as they are, so a prompt can be read in more than one way; `ofText?`
takes the reading in which every delimiter is the first that can be.
-/

namespace RerankPrompt

/-- The texts that fill a prompt. -/
structure Prompt where
  instruction : String
  query : String
  document : String
deriving DecidableEq

namespace Prompt

def turnStart : String := "<|im_start|>"

def turnEnd : String := "<|im_end|>"

/-- The rule by which the model judges. -/
def judgingRule : String :=
  "Judge whether the Document meets the requirements based on the Query and the Instruct provided. "
    ++ "Note that the answer can only be \"yes\" or \"no\"."

/-- What stands before the instruction. -/
def header : String :=
  turnStart ++ "system\n" ++ judgingRule ++ turnEnd ++ "\n" ++ turnStart ++ "user\n"
    ++ "<Instruct>: "

/-- What stands between instruction and query. -/
def queryMark : String := "\n<Query>: "

/-- What stands between query and document. -/
def documentMark : String := "\n<Document>: "

/-- What stands after the document; the last turn stays open. -/
def footer : String := turnEnd ++ "\n" ++ turnStart ++ "assistant\n"

/-- The part of a prompt that its texts fill. -/
def body (prompt : Prompt) : String :=
  prompt.instruction ++ queryMark ++ prompt.query ++ documentMark ++ prompt.document

/-- The prompt as the model reads it. -/
def text (prompt : Prompt) : String :=
  header ++ prompt.body ++ footer

/-- The prompt that a text is, cut at the first query delimiter and the first document delimiter
after it. -/
def ofText? (text : String) : Option Prompt := do
  let body ← Text.between? header.toList footer.toList text.toList
  let (instruction, rest) ← Text.cut? queryMark.toList body
  let (query, document) ← Text.cut? documentMark.toList rest
  return ⟨String.ofList instruction, String.ofList query, String.ofList document⟩

theorem text_eq (prompt : Prompt) :
    prompt.text = header ++ prompt.instruction ++ queryMark ++ prompt.query ++ documentMark
      ++ prompt.document ++ footer := by
  simp only [text, body, String.append_assoc]

theorem toList_body (prompt : Prompt) :
    prompt.body.toList = prompt.instruction.toList ++ queryMark.toList
      ++ (prompt.query.toList ++ documentMark.toList ++ prompt.document.toList) := by
  simp only [body, String.toList_append, List.append_assoc]

theorem toList_text (prompt : Prompt) :
    prompt.text.toList = header.toList ++ prompt.body.toList ++ footer.toList := by
  simp only [text, String.toList_append]

/-- A character is missing from the header if it is missing from its parts. -/
theorem notMem_header {c : Char}
    (h : ∀ part ∈ [turnStart, "system\n", judgingRule, turnEnd, "\n", "user\n", "<Instruct>: "],
      c ∉ part.toList) : c ∉ header.toList := by
  simp only [List.forall_mem_cons] at h
  obtain ⟨hstart, hsystem, hrule, hend, hfeed, huser, hinstruct, -⟩ := h
  simp only [header, String.toList_append, List.mem_append, not_or]
  exact ⟨⟨⟨⟨⟨⟨⟨hstart, hsystem⟩, hrule⟩, hend⟩, hfeed⟩, hstart⟩, huser⟩, hinstruct⟩

/-- Reading a prompt loses nothing of its text. -/
theorem text_of_ofText? {s : String} {prompt : Prompt} (h : ofText? s = some prompt) :
    prompt.text = s := by
  simp only [ofText?, Option.bind_eq_bind, Option.bind_eq_some_iff, Option.pure_def,
    Option.some.injEq, Prod.exists] at h
  obtain ⟨body, hbody, instruction, rest, hquery, query, document, hdocument, rfl⟩ := h
  apply String.toList_inj.mp
  rw [Text.between?_eq_some_iff.mp hbody, (Text.cut?_eq_some_iff.mp hquery).1,
    (Text.cut?_eq_some_iff.mp hdocument).1]
  simp [text_eq]

end Prompt

end RerankPrompt
