import RerankPrompt.Log.Routing
import RerankPrompt.Session.Field
import RerankPrompt.Session.Scope

/-!
# Steps of a session

A session is a list of steps. Object steps make objects, use them, look at them and try to change
them; logging steps change where log records go, or write one. An object step reads and changes the
scope alone, a logging step the log set-up alone: the effect of either is its result, the records it
writes and the spans it ends, before any handler has seen them.
-/

namespace RerankPrompt.Session

/-- A step on the named objects. -/
inductive ObjectStep where
  /-- Makes a template, with the given default instruction or the general one. -/
  | template (name : String) (defaultInstruction : Option String)
  /-- Makes the template for a model; where the model needs none, the name is left as it was. -/
  | factory (name model : String)
  /-- Makes a builder. -/
  | builder (name model : String)
  /-- Names the template of a builder; where it has none, the name is left as it was. -/
  | formatter (builder name : String)
  /-- Fills a prompt. -/
  | format (template query document : String) (instruction : Option String)
  /-- Builds one input. -/
  | build (builder query text : String) (instruction : Option String)
  /-- Builds the inputs of a batch. -/
  | buildBatch (builder query : String) (texts : List String) (instruction : Option String)
  /-- Reads a field. -/
  | get (object field : String)
  /-- Tries to change an object. -/
  | change (object : String) (attempt : Attempt)
  /-- Describes a template. -/
  | describe (template : String)
  /-- Compares two objects. -/
  | compare (first second : String)
deriving DecidableEq

/-- A step on the log set-up. -/
inductive LoggingStep where
  /-- Adds a capture sink. -/
  | addSink (level : String)
  /-- Removes all handlers and sets the console up. -/
  | setUp (level : String) (structured : Bool)
  /-- Writes a record in the name of a module. -/
  | emit (source : Option String) (level message : String)
deriving DecidableEq

inductive Step where
  | object (step : ObjectStep)
  | logging (step : LoggingStep)
deriving DecidableEq

/-- How two objects compare. -/
structure Comparison where
  equal : Bool
  same : Bool
  /-- The size of the set of the two. -/
  distinct : Nat
deriving DecidableEq

/-- What a step gives when it does not fail. -/
inductive Result where
  | nothing
  | template (template : Option Template)
  | builder (builder : Builder)
  | text (content : String)
  | input (input : Input)
  | inputs (inputs : List Input)
  | field (value : FieldValue)
  | comparison (comparison : Comparison)
deriving DecidableEq

/-- What a step does, apart from what it changes. -/
structure Effect where
  result : Except Fault Result
  records : List Log.Record := []
  spans : List Span := []

namespace Effect

def fault (fault : Fault) : Effect where
  result := .error fault

def value (result : Result) : Effect where
  result := .ok result

/-- An effect that may not come about. -/
def ofExcept : Except Fault Effect → Effect
  | .ok effect => effect
  | .error reason => fault reason

/-- What holds of a fault, and of what is done with each thing that may be found, holds of looking for it
and doing that. -/
theorem ofExcept_bind {α : Type} {x : Except Fault α} {f : α → Except Fault Effect}
    {motive : Effect → Prop} (hfault : ∀ reason, motive (fault reason))
    (h : ∀ a, motive (ofExcept (f a))) : motive (ofExcept (x >>= f)) := by
  cases x with
  | error reason => exact hfault reason
  | ok a => exact h a

end Effect

namespace Scope

/-- The object that a name stands for, which must be bound. -/
def object (scope : Scope) (name : String) : Except Fault Object :=
  match scope.get? name with
  | some object => .ok object
  | none => .error (.unbound name)

/-- The template that a name stands for. -/
def template (scope : Scope) (name : String) : Except Fault Template := do
  let object ← scope.object name
  match object.value with
  | .template template => return template
  | .builder _ => throw (.otherType name object.typeName)

/-- The identity and the builder that a name stands for. -/
def identifiedBuilder (scope : Scope) (name : String) : Except Fault (Identity × Builder) := do
  let object ← scope.object name
  match object.value with
  | .builder builder => return (object.identity, builder)
  | .template _ => throw (.otherType name object.typeName)

/-- The builder that a name stands for. -/
def builder (scope : Scope) (name : String) : Except Fault Builder :=
  (scope.identifiedBuilder name).map Prod.snd

/-- The name stands for an object of the type that an attempt is made on. -/
def expect (scope : Scope) (name : String) : Attempt → Except Fault Unit
  | .assignField _ | .deleteField _ => (scope.template name).map fun _ => ()
  | .assignProperty _ | .deleteProperty _ | .deleteAbsent _ => (scope.builder name).map fun _ => ()

/-- The scope after an attempt to change an object, which every object refuses. -/
def change (scope : Scope) (name : String) (attempt : Attempt) : Except Fault Scope := do
  scope.expect name attempt
  throw attempt.fault

theorem exists_change_eq_error (scope : Scope) (name : String) (attempt : Attempt) :
    ∃ fault, scope.change name attempt = .error fault := by
  unfold change
  cases scope.expect name attempt with
  | error reason => exact ⟨reason, rfl⟩
  | ok => exact ⟨attempt.fault, rfl⟩

theorem builder_make_self (scope : Scope) (name : String) (builder : Builder) :
    (scope.make name (.builder builder)).builder name = .ok builder := by
  unfold Scope.builder identifiedBuilder object make
  rw [get?_bind_self]
  rfl

end Scope

namespace ObjectStep

/-- What an object step does in a scope. -/
def effect (scope : Scope) : ObjectStep → Effect
  | .template _ defaultInstruction =>
    .value (.template (some ⟨defaultInstruction.getD generalInstruction⟩))
  | .factory _ model => .value (.template (Model.template? model))
  | .builder _ model =>
    { result := .ok (.builder (.ofModel model)), records := [(Builder.ofModel model).announcement] }
  | .formatter source _ => .ofExcept do
    let b ← scope.builder source
    return .value (.template b.template)
  | .format source query document instruction => .ofExcept do
    let t ← scope.template source
    return .value (.text (t.render query document instruction))
  | .build source query text instruction => .ofExcept do
    let b ← scope.builder source
    return { result := .ok (.input (b.build query text instruction))
             records := b.remarks instruction }
  | .buildBatch source query texts instruction => .ofExcept do
    let b ← scope.builder source
    return { result := .ok (.inputs (b.buildBatch query texts instruction))
             records := b.batchRemarks texts instruction
             spans := [b.span texts] }
  | .get source name => .ofExcept do
    let object ← scope.object source
    let value ← object.readField name
    return .value (.field value)
  | .change source attempt => .ofExcept do
    let _ ← scope.change source attempt
    return .value .nothing
  | .describe source => .ofExcept do
    let t ← scope.template source
    return .value (.text t.description)
  | .compare first second => .ofExcept do
    let a ← scope.object first
    let b ← scope.object second
    return .value (.comparison ⟨a == b, a.isSame b, a.distinct b⟩)

/-- The scope after an object step. Steps that make or name an object change it, and so would an attempt
that succeeds. -/
def scopeAfter (scope : Scope) : ObjectStep → Scope
  | .template name defaultInstruction =>
    scope.make name (.template ⟨defaultInstruction.getD generalInstruction⟩)
  | .factory name model =>
    match Model.template? model with
    | some t => scope.make name (.template t)
    | none => scope
  | .builder name model => scope.make name (.builder (.ofModel model))
  | .formatter source name =>
    match scope.identifiedBuilder source with
    | .ok (identity, ⟨_, some t⟩) => scope.bind name ⟨.formatterOf identity, .template t⟩
    | _ => scope
  | .change source attempt =>
    match scope.change source attempt with
    | .ok changed => changed
    | .error _ => scope
  | .format _ _ _ _ | .build _ _ _ _ | .buildBatch _ _ _ _ | .get _ _ | .describe _
  | .compare _ _ => scope

@[simp]
theorem scopeAfter_change (scope : Scope) (name : String) (attempt : Attempt) :
    scopeAfter scope (.change name attempt) = scope := by
  obtain ⟨fault, h⟩ := scope.exists_change_eq_error name attempt
  rw [scopeAfter, h]

end ObjectStep

namespace LoggingStep

/-- What a logging step does. The level of a record is looked up only where a handler waits for it, so
that without any handler an unknown level is no fault. -/
def effect (logging : Log.Logging) : LoggingStep → Effect
  | .addSink level | .setUp level _ => .ofExcept do
    let _ ← (Log.Level.parse level).mapError Fault.unknownLevel
    return .value .nothing
  | .emit source level message =>
    match Log.Level.parse level with
    | .ok level => { result := .ok .nothing, records := [⟨source, level, message⟩] }
    | .error unknown =>
      if logging.isSilent then .value .nothing else .fault (.unknownLevel unknown)

/-- The log set-up after a logging step. -/
def loggingAfter (logging : Log.Logging) : LoggingStep → Log.Logging
  | .addSink level => logging.addSink level
  | .setUp level structured => .setUp level structured
  | .emit _ _ _ => logging

end LoggingStep

end RerankPrompt.Session
