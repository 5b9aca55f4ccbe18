import RerankPrompt.Session.Object

/-!
# Names of a session

What the names of a session stand for. A name keeps count of its bindings, so that an object that is
made for it is told apart from every earlier one: `fresh` gives the identity of the next object, and
`bind` counts.
-/

namespace RerankPrompt.Session

/-- What a name stands for, and how often it has been bound. -/
structure Slot where
  object : Option Object := none
  generation : Nat := 0

structure Scope where
  slot : String → Slot := fun _ => {}

namespace Scope

/-- The object that a name stands for. -/
def get? (scope : Scope) (name : String) : Option Object :=
  (scope.slot name).object

/-- The identity of an object that is made for a name. -/
def fresh (scope : Scope) (name : String) : Identity :=
  .made name (scope.slot name).generation

/-- Lets a name stand for an object. -/
def bind (scope : Scope) (name : String) (object : Object) : Scope where
  slot other :=
    if other = name then ⟨some object, (scope.slot name).generation + 1⟩ else scope.slot other

/-- Lets a name stand for a new object. -/
def make (scope : Scope) (name : String) (value : Value) : Scope :=
  scope.bind name ⟨scope.fresh name, value⟩

@[simp]
theorem get?_bind_self (scope : Scope) (name : String) (object : Object) :
    (scope.bind name object).get? name = some object := by
  simp [get?, bind]

theorem get?_bind_of_ne {scope : Scope} {name other : String} {object : Object}
    (h : other ≠ name) : (scope.bind name object).get? other = scope.get? other := by
  simp [get?, bind, h]

end Scope

end RerankPrompt.Session
