import RerankPrompt.Log.Level

/-!
# Log records

A record carries its level, its message and the name of the module that wrote it. Messages are
taken as they are: nothing in them is a placeholder.
-/

namespace RerankPrompt.Log

/-- The name under which the modules of this library write records. -/
def packageName : String := "text_embeddings_templates"

structure Record where
  /-- The module that wrote the record, if it has a name. -/
  source : Option String
  level : Level
  message : String
deriving DecidableEq

namespace Record

/-- The message as a line of its own. -/
def line (record : Record) : String :=
  record.message ++ "\n"

/-- Whether a record was written by the named package or a module below it. -/
def isFrom (package : String) (record : Record) : Bool :=
  match record.source with
  | some name => (package ++ ".").toList.isPrefixOf (name ++ ".").toList
  | none => false

theorem isFrom_iff {package : String} {record : Record} :
    record.isFrom package = true ↔ ∃ name, record.source = some name ∧
      (package ++ ".").toList <+: (name ++ ".").toList := by
  unfold isFrom
  split <;> simp_all

end Record

end RerankPrompt.Log
