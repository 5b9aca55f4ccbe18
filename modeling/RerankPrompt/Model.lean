import RerankPrompt.Template

/-!
# Model identifiers

Whether a reranker wants a filled prompt or the bare pair is read off its identifier: the family
name has to occur in it, and so has one of the marks of a reranker of that family. Where in the
identifier they stand, and in which order, does not matter.
-/

namespace RerankPrompt.Model

/-- The model that the command line takes unless it is told another. -/
def defaultId : String := "Qwen/Qwen3-Reranker-0.6B"

/-- The family of models that read prompts. -/
def family : String := "Qwen3"

/-- The marks of a reranker: its own name, and that of a checkpoint converted to one. -/
def rerankerMarks : List String := ["Reranker", "seq-cls"]

/-- Whether the model with this identifier reads a filled prompt. -/
def needsTemplate (id : String) : Bool :=
  Text.occurs family.toList id.toList && rerankerMarks.any fun mark =>
    Text.occurs mark.toList id.toList

/-- The template for the model with this identifier, if it needs one. -/
def template? (id : String) : Option Template :=
  if needsTemplate id then some {} else none

theorem isSome_template? (id : String) : (template? id).isSome = needsTemplate id := by
  unfold template?
  split <;> simp_all

theorem template?_eq_some_iff {id : String} {template : Template} :
    template? id = some template ↔ needsTemplate id = true ∧ template = {} := by
  unfold template?
  split
  · next h => simp [h, eq_comm (a := template)]
  · next h => simp [h]

end RerankPrompt.Model
