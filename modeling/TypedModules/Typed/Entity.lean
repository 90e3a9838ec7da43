import TypedModules.Source.Context
import TypedModules.Typed.Signature

/-!
# Checked declarations

Structs, interfaces, unions, opaque types and functions after checking, and the signatures
that each of them contributes: constructors, the adapter of an interface, the options and
the case distinction of a union.
-/

namespace TypedModules

/-- What is known of a struct before its `requires` block is checked.  When it has one, its
constructor returns a `Try`. -/
structure StructHeader where
  id : EntityId
  module : ModuleId
  typeParams : List TypeParam
  members : List Argument
  isRestricted : Bool
  annotations : List Annotation
deriving Inhabited

namespace StructHeader

/-- The entity that a struct is. -/
def entity (header : StructHeader) : Entity :=
  ⟨header.module, header.id⟩

/-- The type of a struct, applied to its own parameters. -/
def type (header : StructHeader) : Ty :=
  declaredType false header.module header.id header.typeParams

/-- The position of the first member with a name. -/
def memberIndex? (header : StructHeader) (name : String) : Option Nat :=
  header.members.findIdx? (·.name == name)

/-- The signature of the constructor: it takes the members in order. -/
def constructor (header : StructHeader) : Signature :=
  ⟨header.id, header.typeParams, header.members.map (·.type),
    if header.isRestricted then .tryOf header.type else header.type⟩

end StructHeader

/-- A struct with the `requires` block that its values satisfy, if it has one. -/
structure Struct extends StructHeader where
  requires : Option Block
deriving Inhabited

/-- A method of an interface. -/
structure Method where
  name : String
  typeParams : List TypeParam
  args : List Argument
  output : Ty
deriving Inhabited

namespace Method

/-- The type of a method on an instance. -/
def functionType (method : Method) : FunctionType :=
  .ofSignature method.typeParams (method.args.map (·.type)) method.output

/-- The type of a method in an adapter: it takes the data first. -/
def adapterType (method : Method) (data : Ty) : Ty :=
  (FunctionType.ofSignature method.typeParams (data :: method.args.map (·.type))
    method.output).toTy

end Method

/-- An interface.  An instance is built from data and an adapter, a struct whose members
implement the methods with the data as an extra first argument; the type parameters of the
adapter are that of the data and those of the interface. -/
structure Interface where
  id : EntityId
  module : ModuleId
  typeParams : List TypeParam
  methods : List Method
  annotations : List Annotation
deriving Inhabited

namespace Interface

/-- The entity that an interface is. -/
def entity (interface : Interface) : Entity :=
  ⟨interface.module, interface.id⟩

/-- The id of the adapter. -/
def adapterId (interface : Interface) : EntityId :=
  interface.id.adapter

/-- The entity that the adapter is. -/
def adapterEntity (interface : Interface) : Entity :=
  ⟨interface.module, interface.adapterId⟩

/-- The type of an interface, applied to its own parameters. -/
def type (interface : Interface) : Ty :=
  declaredType false interface.module interface.id interface.typeParams

/-- The position of the first method with a name. -/
def methodIndex? (interface : Interface) (name : String) : Option Nat :=
  interface.methods.findIdx? (·.name == name)

/-- The type parameter that stands for the data of an instance. -/
def dataParam (interface : Interface) : TypeParam :=
  ⟨unusedName "A" interface.typeParams, none⟩

/-- The type parameters of the adapter. -/
def adapterParams (interface : Interface) : List TypeParam :=
  interface.dataParam :: interface.typeParams

/-- The adapter of an interface. -/
def adapter (interface : Interface) : StructHeader where
  id := interface.adapterId
  module := interface.module
  typeParams := interface.adapterParams
  members := interface.methods.map fun method =>
    ⟨method.name, method.adapterType (.param interface.dataParam)⟩
  isRestricted := false
  annotations := []

/-- The signature of the function that builds an instance from data and an adapter. -/
def instanceConstructor (interface : Interface) : Signature :=
  ⟨interface.id, interface.adapterParams,
    [.param interface.dataParam, interface.adapter.type], interface.type⟩

/-- The signature of the function that builds an adapter from implementations. -/
def adapterConstructor (interface : Interface) : Signature :=
  interface.adapter.constructor

end Interface

/-- An option of a union, with the type of its value if it has one. -/
structure UnionOption where
  name : String
  type : Option Ty
deriving Inhabited

/-- A union. -/
structure Union where
  id : EntityId
  module : ModuleId
  typeParams : List TypeParam
  options : List UnionOption
  annotations : List Annotation
deriving Inhabited

namespace Union

/-- The entity that a union is. -/
def entity (union : Union) : Entity :=
  ⟨union.module, union.id⟩

/-- The type of a union, applied to its own parameters. -/
def type (union : Union) : Ty :=
  declaredType false union.module union.id union.typeParams

/-- The position of the first option with a name. -/
def optionIndex? (union : Union) (name : String) : Option Nat :=
  union.options.findIdx? (·.name == name)

/-- The first option with a name. -/
def option? (union : Union) (name : String) : Option UnionOption :=
  union.options.find? (·.name == name)

/-- The id of the case distinction. -/
def whenId (union : Union) : EntityId :=
  union.id.whenId

/-- The signature of the constructor of an option: it takes the value, if there is one. -/
def optionConstructor (union : Union) (option : UnionOption) : Signature :=
  ⟨union.id.child option.name, union.typeParams, option.type.toList, union.type⟩

/-- The type parameter that stands for the result of a case distinction. -/
def resultParam (union : Union) : TypeParam :=
  ⟨unusedName "Result" union.typeParams, none⟩

/-- The type of the handler of an option. -/
def handlerType (union : Union) (option : UnionOption) : Ty :=
  .function false [] option.type.toList (.param union.resultParam)

/-- The signature of the case distinction: the union value and a handler for each option,
all with the same result. -/
def whenSignature (union : Union) : Signature :=
  ⟨union.whenId, union.typeParams ++ [union.resultParam],
    union.type :: union.options.map union.handlerType, .param union.resultParam⟩

end Union

/-- A native type without visible structure. -/
structure Opaque where
  id : EntityId
  module : ModuleId
  typeParams : List TypeParam
  isReference : Bool
deriving Inhabited

namespace Opaque

/-- The entity that an opaque type is. -/
def entity (type : Opaque) : Entity :=
  ⟨type.module, type.id⟩

/-- The opaque type, applied to its own parameters. -/
def type (type : Opaque) : Ty :=
  declaredType type.isReference type.module type.id type.typeParams

end Opaque

/-- What is known of a function before its body is checked. -/
structure FunctionHeader where
  id : EntityId
  module : ModuleId
  typeParams : List TypeParam
  args : List Argument
  output : Ty
deriving Inhabited

namespace FunctionHeader

/-- The entity that a function is. -/
def entity (header : FunctionHeader) : Entity :=
  ⟨header.module, header.id⟩

/-- The signature of a function. -/
def signature (header : FunctionHeader) : Signature :=
  ⟨header.id, header.typeParams, header.args.map (·.type), header.output⟩

end FunctionHeader

/-- A function with its body. -/
structure Function extends FunctionHeader where
  body : Block
  annotations : List Annotation
deriving Inhabited

end TypedModules
