import RerankPrompt.Log.Record
import RerankPrompt.Model

/-!
# Reranker inputs

A builder makes the inputs for one model. With a template it fills prompts; without one it hands the
pair of query and text on as it is, and remarks on every instruction that it has to ignore. Each
batch is traced by one span.
-/

namespace RerankPrompt

/-- What a reranker is given for one text. -/
inductive Input where
  | prompt (text : String)
  | pair (query text : String)
deriving DecidableEq

/-- The parts of an input as they are printed: a prompt has its own line ends, the parts of a pair
get a line each. -/
def Input.printed : Input → List String
  | .prompt text => [text]
  | .pair query text => [query ++ "\n", text ++ "\n"]

/-- The trace of one batch. -/
structure Span where
  batchSize : Nat
  needsTemplate : Bool
deriving DecidableEq

/-- The name of the span of a batch. -/
def Span.name : String := "build_rerank_inputs"

/-- A builder of inputs for a model, with the template that the model needs, if any. -/
structure Builder where
  model : String
  template : Option Template
deriving DecidableEq

namespace Builder

/-- The name by which faults call a builder. -/
def typeName : String := "RerankInputBuilder"

/-- The module in whose name builders write log records. -/
def source : String := Log.packageName ++ ".inputs"

/-- The builder for a model. -/
def ofModel (model : String) : Builder :=
  ⟨model, Model.template? model⟩

def needsTemplate (builder : Builder) : Bool :=
  builder.template.isSome

/-- The input for one text. -/
def build (builder : Builder) (query text : String) (instruction : Option String) : Input :=
  match builder.template with
  | some template => .prompt (template.render query text instruction)
  | none => .pair query text

/-- The inputs for several texts, in their order. -/
def buildBatch (builder : Builder) (query : String) (texts : List String)
    (instruction : Option String) : List Input :=
  texts.map fun text => builder.build query text instruction

/-! ## Records and spans -/

/-- The record with which a builder starts. -/
def announcement (builder : Builder) : Log.Record where
  source := some source
  level := .info
  message :=
    if builder.needsTemplate then
      "Using " ++ Template.typeName ++ " prompt template for " ++ builder.model
    else "No prompt template for " ++ builder.model ++ ", using raw query/text pairs"

/-- The records of one build: a remark where an instruction is ignored. -/
def remarks (builder : Builder) (instruction : Option String) : List Log.Record :=
  if builder.needsTemplate || instruction.isNone then []
  else [{ source := some source
          level := .debug
          message :=
            "Ignoring instruction, " ++ builder.model ++ " does not use a prompt template" }]

/-- The records of a batch: those of each of its builds. -/
def batchRemarks (builder : Builder) (texts : List String) (instruction : Option String) :
    List Log.Record :=
  texts.flatMap fun _ => builder.remarks instruction

/-- The span of a batch. -/
def span (builder : Builder) (texts : List String) : Span :=
  ⟨texts.length, builder.needsTemplate⟩

theorem needsTemplate_ofModel (model : String) :
    (ofModel model).needsTemplate = Model.needsTemplate model :=
  Model.isSome_template? model

theorem build_ofModel (model query text : String) (instruction : Option String) :
    (ofModel model).build query text instruction
      = if Model.needsTemplate model then .prompt (Template.render {} query text instruction)
        else .pair query text := by
  by_cases h : Model.needsTemplate model = true
  · simp [build, ofModel, Model.template?, h]
  · simp [build, ofModel, Model.template?, h]

end Builder

end RerankPrompt
