import TypedModules.Typed.Entity

/-!
# Definitions

The definitions that one module owns, and what they say about an id: the signature of
anything callable, and the parameters of a named type.
-/

namespace TypedModules

/-- What sort of thing an entity is.  A struct, an interface and an adapter are both a type
and the function that builds its values. -/
inductive EntityKind where
  | native
  | function
  | struct
  | interface
  | adapter
  | union
  | option
  | when
  /-- A native type without visible structure. -/
  | opaqueType
deriving DecidableEq, Inhabited

/-- What a use of a named type has to know of its declaration. -/
structure TypeHeader where
  typeParams : List TypeParam
  isReference : Bool
deriving DecidableEq, Inhabited

/-- The definitions that one module owns. -/
structure Definitions where
  structs : List StructHeader := []
  interfaces : List Interface := []
  unions : List Union := []
  opaques : List Opaque := []
  functions : List Signature := []
deriving Inhabited

namespace Definitions

/-- The struct with an id. -/
def struct? (definitions : Definitions) (id : EntityId) : Option StructHeader :=
  definitions.structs.find? (·.id == id)

/-- The interface with an id. -/
def interface? (definitions : Definitions) (id : EntityId) : Option Interface :=
  definitions.interfaces.find? (·.id == id)

/-- The interface whose adapter has an id. -/
def adapterOwner? (definitions : Definitions) (id : EntityId) : Option Interface :=
  definitions.interfaces.find? (·.adapterId == id)

/-- The union with an id. -/
def union? (definitions : Definitions) (id : EntityId) : Option Union :=
  definitions.unions.find? (·.id == id)

/-- The opaque type with an id. -/
def opaque? (definitions : Definitions) (id : EntityId) : Option Opaque :=
  definitions.opaques.find? (·.id == id)

/-- The signature of the plain function with an id. -/
def function? (definitions : Definitions) (id : EntityId) : Option Signature :=
  definitions.functions.find? (·.id == id)

/-- The union to which the id of an option or a case distinction belongs. -/
def unionOf? (definitions : Definitions) (id : EntityId) : Option Union :=
  id.parent?.bind definitions.union?

/-- The signature of the callable entity of a kind with an id. -/
def signature? (definitions : Definitions) (kind : EntityKind) (id : EntityId) :
    Option Signature :=
  match kind with
  | .native | .function => definitions.function? id
  | .struct => (definitions.struct? id).map (·.constructor)
  | .interface => (definitions.interface? id).map (·.instanceConstructor)
  | .adapter => (definitions.adapterOwner? id).map (·.adapterConstructor)
  | .option =>
    (definitions.unionOf? id).bind fun union =>
      (union.option? id.last).map union.optionConstructor
  | .when => (definitions.unionOf? id).map (·.whenSignature)
  | .union | .opaqueType => none

/-- The header of the named type of a kind with an id. -/
def typeHeader? (definitions : Definitions) (kind : EntityKind) (id : EntityId) :
    Option TypeHeader :=
  match kind with
  | .struct => (definitions.struct? id).map fun s => ⟨s.typeParams, false⟩
  | .interface => (definitions.interface? id).map fun i => ⟨i.typeParams, false⟩
  | .adapter => (definitions.adapterOwner? id).map fun i => ⟨i.adapterParams, false⟩
  | .union => (definitions.union? id).map fun u => ⟨u.typeParams, false⟩
  | .opaqueType => (definitions.opaque? id).map fun o => ⟨o.typeParams, o.isReference⟩
  | .native | .function | .option | .when => none

end Definitions
end TypedModules
