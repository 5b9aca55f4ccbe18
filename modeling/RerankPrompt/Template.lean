import RerankPrompt.Prompt
import RerankPrompt.Text.Quoted

/-!
# Prompt templates

A template fills prompts. All it decides is the instruction of a call that brings none; a given
instruction counts even when it is empty.
-/

namespace RerankPrompt

/-- The instruction for web search, which templates use unless they are made with another. -/
def generalInstruction : String :=
  "Given a web search query, retrieve relevant passages that answer the query"

/-- A template, known by its default instruction. -/
structure Template where
  defaultInstruction : String := generalInstruction
deriving DecidableEq

namespace Template

/-- The name by which log records and descriptions call a template. -/
def typeName : String := "Qwen3RerankerTemplate"

/-- The prompt for a query and a document. -/
def prompt (template : Template) (query document : String) (instruction : Option String) : Prompt :=
  ⟨instruction.getD template.defaultInstruction, query, document⟩

/-- The text of the prompt for a query and a document. -/
def render (template : Template) (query document : String) (instruction : Option String) : String :=
  (template.prompt query document instruction).text

/-- A template written as a call that makes it. -/
def description (template : Template) : String :=
  typeName ++ "(default_instruction=" ++ Text.Quoted.quote template.defaultInstruction ++ ")"

end Template

end RerankPrompt
