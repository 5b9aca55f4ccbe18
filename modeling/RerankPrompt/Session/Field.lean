import RerankPrompt.Session.Object

/-!
# Fields of objects

The fields that an object shows, the faults of access to them, and the attempts to change them that an
object is known to refuse. A template is frozen, whatever the field; the properties of a builder are
read-only, and where it keeps nothing there is nothing to delete. What becomes of a builder that is given
another attribute, or that loses one of its own, is left open: no attempt stands for that
(`assignment?_eq_none_iff`, `deletion?_eq_none_iff`).
-/

namespace RerankPrompt.Session

/-- Why a step of a session fails. -/
inductive Fault where
  /-- An object of this type has no such field. -/
  | missingField (typeName field : String)
  | frozenAssignment (field : String)
  | frozenDeletion (field : String)
  | readOnlyAssignment (typeName field : String)
  | readOnlyDeletion (typeName field : String)
  | unknownLevel (level : Log.UnknownLevel)
  /-- The name stands for no object. -/
  | unbound (name : String)
  /-- The name stands for an object of another type than the step needs. -/
  | otherType (name typeName : String)
deriving DecidableEq

/-- The wording of a fault. Only the frozen fields are quoted; the fields that builders show have plain
names, and a missing one is repeated as it is. -/
def Fault.message : Fault → String
  | .missingField typeName field =>
    "\x27" ++ typeName ++ "\x27 object has no attribute \x27" ++ field ++ "\x27"
  | .frozenAssignment field => "cannot assign to field " ++ Text.Quoted.quote field
  | .frozenDeletion field => "cannot delete field " ++ Text.Quoted.quote field
  | .readOnlyAssignment typeName field =>
    "property \x27" ++ field ++ "\x27 of \x27" ++ typeName ++ "\x27 object has no setter"
  | .readOnlyDeletion typeName field =>
    "property \x27" ++ field ++ "\x27 of \x27" ++ typeName ++ "\x27 object has no deleter"
  | .unknownLevel level => level.message
  | .unbound name => "name \x27" ++ name ++ "\x27 is not defined"
  | .otherType name typeName => "\x27" ++ name ++ "\x27 is a \x27" ++ typeName ++ "\x27 object"

/-- What a field holds. -/
inductive FieldValue where
  | text (content : String)
  | flag (value : Bool)
  | template (template : Option Template)
deriving DecidableEq

/-! ## The properties of a builder -/

/-- What a builder shows of itself. -/
inductive Property where
  | model
  | needsTemplate
  | template
deriving DecidableEq

namespace Property

def all : List Property := [.model, .needsTemplate, .template]

def name : Property → String
  | .model => "model_id"
  | .needsTemplate => "requires_template"
  | .template => "formatter"

/-- The property with this name. -/
def ofName? (name : String) : Option Property :=
  all.find? fun property => property.name == name

def value (builder : Builder) : Property → FieldValue
  | .model => .text builder.model
  | .needsTemplate => .flag builder.needsTemplate
  | .template => .template builder.template

end Property

/-- The names that are taken on a builder: its properties, its two parts, and what every object has. -/
def takenNames : List String :=
  Property.all.map Property.name
    ++ ["_model_id", "_formatter", "__class__", "__dict__", "__weakref__"]

/-- A name under which a builder keeps nothing. -/
structure AbsentName where
  name : String
  notMem : name ∉ takenNames
deriving DecidableEq

/-! ## Attempts -/

/-- An attempt to change an object: a field of a template, whatever its name, a property of a builder, or
what a builder does not have. -/
inductive Attempt where
  | assignField (name : String)
  | deleteField (name : String)
  | assignProperty (property : Property)
  | deleteProperty (property : Property)
  | deleteAbsent (name : AbsentName)
deriving DecidableEq

/-- The fault with which an object refuses an attempt. -/
def Attempt.fault : Attempt → Fault
  | .assignField name => .frozenAssignment name
  | .deleteField name => .frozenDeletion name
  | .assignProperty property => .readOnlyAssignment Builder.typeName property.name
  | .deleteProperty property => .readOnlyDeletion Builder.typeName property.name
  | .deleteAbsent absent => .missingField Builder.typeName absent.name

namespace Object

/-- The fields that an object shows, by name. -/
def field? (object : Object) (name : String) : Option FieldValue :=
  match object.value with
  | .template template =>
    if name = "default_instruction" then some (.text template.defaultInstruction) else none
  | .builder builder => (Property.ofName? name).map (Property.value builder)

/-- The fault of access to a field that the object does not show. -/
def missingField (object : Object) (name : String) : Fault :=
  .missingField object.typeName name

/-- The value of a field. -/
def readField (object : Object) (name : String) : Except Fault FieldValue :=
  match object.field? name with
  | some value => .ok value
  | none => .error (object.missingField name)

/-- The attempt to assign a field of an object, by name: for a builder, one of its properties. -/
def assignment? (object : Object) (name : String) : Option Attempt :=
  match object.value with
  | .template _ => some (.assignField name)
  | .builder _ => (Property.ofName? name).map .assignProperty

/-- The attempt to delete a field of an object, by name: for a builder, one of its properties, or what
it does not have. -/
def deletion? (object : Object) (name : String) : Option Attempt :=
  match object.value with
  | .template _ => some (.deleteField name)
  | .builder _ =>
    match Property.ofName? name with
    | some property => some (.deleteProperty property)
    | none => if h : name ∈ takenNames then none else some (.deleteAbsent ⟨name, h⟩)

end Object

end RerankPrompt.Session
