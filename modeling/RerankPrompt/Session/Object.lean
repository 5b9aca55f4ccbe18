import Std.Data.HashSet.Lemmas
import RerankPrompt.Input

/-!
# Objects of a session

An object is a template or a builder, together with its identity. Identity follows provenance: an
object that was made is known by the name it was first bound to and by how often that name had been
bound before, and the formatter of a builder by its builder. Templates are equal when their default
instructions are, builders only to themselves.
-/

namespace RerankPrompt.Session

/-- Where an object comes from. -/
inductive Identity where
  /-- Made for a name that had been bound this many times. -/
  | made (name : String) (generation : Nat)
  /-- The formatter that a builder holds. -/
  | formatterOf (builder : Identity)
deriving DecidableEq, Hashable

inductive Value where
  | template (template : Template)
  | builder (builder : Builder)
deriving DecidableEq

structure Object where
  identity : Identity
  value : Value

namespace Object

/-- The name of the type of an object, as faults give it. -/
def typeName (object : Object) : String :=
  match object.value with
  | .template _ => Template.typeName
  | .builder _ => Builder.typeName

/-- Whether two objects are one and the same. -/
def isSame (a b : Object) : Bool :=
  decide (a.identity = b.identity)

instance : BEq Object where
  beq a b :=
    match a.value, b.value with
    | .template s, .template t => decide (s.defaultInstruction = t.defaultInstruction)
    | .builder _, .builder _ => a.isSame b
    | _, _ => false

instance : Hashable Object where
  hash object :=
    match object.value with
    | .template template => hash template.defaultInstruction
    | .builder _ => hash object.identity

theorem beq_def {a b : Object} : (a == b) =
    match a.value, b.value with
    | .template s, .template t => decide (s.defaultInstruction = t.defaultInstruction)
    | .builder _, .builder _ => a.isSame b
    | _, _ => false := rfl

instance : EquivBEq Object where
  rfl := by
    rintro ⟨i, s | b⟩ <;> simp [beq_def, isSame]
  symm := by
    rintro ⟨i, s | b⟩ ⟨j, t | c⟩ <;> simp [beq_def, isSame, eq_comm]
  trans := by
    rintro ⟨i, s | b⟩ ⟨j, t | c⟩ ⟨k, u | d⟩ <;> simp +contextual [beq_def, isSame]

instance : LawfulHashable Object where
  hash_eq := by
    rintro ⟨i, s | b⟩ ⟨j, t | c⟩ h <;> simp_all [beq_def, isSame, hash]

/-- How many different objects the set of the two has. -/
def distinct (a b : Object) : Nat :=
  (((∅ : Std.HashSet Object).insert a).insert b).size

theorem distinct_eq (a b : Object) : a.distinct b = if a == b then 1 else 2 := by
  simp [distinct, Std.HashSet.size_insert]

end Object

end RerankPrompt.Session
