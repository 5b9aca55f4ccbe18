import RerankPrompt.Template

/-!
# Kinds of formatter

A kind of formatter has a name and a rule that turns a query, a document and an instruction into
text. The general kind leaves its rule open: no formatter of a kind with an open rule can be made,
and to fall back on an open rule fails as well.
-/

namespace RerankPrompt

/-- The rule of a formatter. -/
abbrev FormatRule := (query document : String) → (instruction : Option String) → String

/-- A kind of formatter; its rule may be left open. -/
structure FormatterKind where
  name : String
  rule? : Option FormatRule := none

/-- What stops a kind from being used. -/
inductive FormatterFault where
  /-- The rule of the named kind is open. -/
  | incomplete (kind : String)
  /-- An open rule was called for. -/
  | unimplemented
deriving DecidableEq

/-- The wording of a fault; a call for an open rule fails without a word. -/
def FormatterFault.message : FormatterFault → String
  | .incomplete kind =>
    "Can\x27t instantiate abstract class " ++ kind ++ " with abstract method format_rerank"
  | .unimplemented => ""

namespace FormatterKind

/-- The kind that all others refine. -/
def general : FormatterKind where
  name := "TemplateFormatter"

/-- The kind of formatter that a template is. -/
def ofTemplate (template : Template) : FormatterKind where
  name := Template.typeName
  rule? := some template.render

/-- A formatter of this kind, given as its rule. -/
def create (kind : FormatterKind) : Except FormatterFault FormatRule :=
  match kind.rule? with
  | some rule => .ok rule
  | none => .error (.incomplete kind.name)

/-- The text that the rule of this kind gives. -/
def render (kind : FormatterKind) (query document : String) (instruction : Option String) :
    Except FormatterFault String :=
  match kind.rule? with
  | some rule => .ok (rule query document instruction)
  | none => .error .unimplemented

theorem create_ofTemplate (template : Template) :
    (ofTemplate template).create = .ok template.render := rfl

theorem render_ofTemplate (template : Template) (query document : String)
    (instruction : Option String) :
    (ofTemplate template).render query document instruction
      = .ok (template.render query document instruction) := rfl

end FormatterKind

end RerankPrompt
