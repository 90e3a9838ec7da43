import TypedModules.Module.Basic
import TypedModules.Text.Quoted

/-!
# Programs

What evaluation takes place in: a module with those on which it depends, and native
functions that stand in for the bodies of some of their functions.
-/

namespace TypedModules

/-- Native functions by the function of a module for which they stand in. -/
structure Overrides where
  entries : List (Entity × NativeFunction) := []
deriving Inhabited

namespace Overrides

/-- The native function that stands in for an entity. -/
def get? (overrides : Overrides) (entity : Entity) : Option NativeFunction :=
  overrides.entries.lookup entity

/-- The overrides with one more, which replaces another for its entity. -/
def insert (overrides : Overrides) (entity : Entity) (function : NativeFunction) : Overrides :=
  ⟨(entity, function) :: overrides.entries.filter (·.1 != entity)⟩

/-- The number of entities with an override. -/
def size (overrides : Overrides) : Nat :=
  overrides.entries.length

/-- Whether there is no override. -/
def isEmpty (overrides : Overrides) : Bool :=
  overrides.entries.isEmpty

/-- The texts of the entities with an override, in order. -/
def names (overrides : Overrides) : List String :=
  (overrides.entries.map (·.1.text)).mergeSort fun a b => (compare a b).isLE

/-- The text of a table of overrides, with the names between quotes. -/
def text (overrides : Overrides) : String :=
  "OptimizedFunctions \x7b functions: ["
    ++ Text.commaList (overrides.names.map Text.quote) ++ "] \x7d"

@[simp]
theorem get?_insert_self (overrides : Overrides) (entity : Entity)
    (function : NativeFunction) :
  (overrides.insert entity function).get? entity = some function
  := by
  simp [insert, get?]

end Overrides

/-- What evaluation takes place in. -/
structure Program where
  module : Module
  overrides : Overrides := {}
  useOverrides : Bool := true
deriving Inhabited

namespace Program

/-- The native function that is run in place of the body of a function. -/
def override? (program : Program) (entity : Entity) : Option NativeFunction :=
  if program.useOverrides then program.overrides.get? entity else none

/-- The header and the `requires` block of the struct that an entity is. -/
def struct? (program : Program) (entity : Entity) : Option Struct :=
  if entity.module.isNative then
    (nativeDefinitions.struct? entity.id).map fun header => { header with requires := none }
  else
    (program.module.find? entity.module).bind (·.struct? entity.id)

end Program
end TypedModules
