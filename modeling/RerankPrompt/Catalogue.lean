import RerankPrompt.Model

/-!
# Catalogue

The names that the package offers to its users, in alphabetical order: those about templates, which
can be had by themselves, and all of them.
-/

namespace RerankPrompt.Catalogue

/-- The names about templates. -/
def templateNames : List String :=
  ["DEFAULT_INSTRUCTION", "Qwen3RerankerTemplate", "TemplateFormatter", "get_template_formatter",
    "requires_template"]

/-- The names about inputs. -/
def inputNames : List String :=
  ["RerankInput", "RerankInputBuilder"]

/-- All names of the package. -/
def names : List String :=
  (templateNames ++ inputNames).mergeSort fun a b => decide (a ≤ b)

end RerankPrompt.Catalogue
