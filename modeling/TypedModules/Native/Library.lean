import TypedModules.Definitions
import TypedModules.Native.Function

/-!
# The native library

What the native module declares: the signature of every native function, the struct
`Sequence`, and the opaque types `ListBuilder` and `Unicode.String`.
-/

namespace TypedModules

/-- The id of the native module. -/
def nativeModule : ModuleId :=
  ⟨⟨"semlang", "lang"⟩, "0"⟩

/-- Whether `id` is the native module. -/
def ModuleId.isNative (id : ModuleId) : Bool :=
  id == nativeModule

namespace Native

/-- The type parameter `T`. -/
def t : TypeParam := ⟨"T", none⟩

/-- The type parameter `U`. -/
def u : TypeParam := ⟨"U", none⟩

/-- The type parameter `T` for plain data. -/
def dataT : TypeParam := ⟨"T", some .data⟩

/-- The type that `T` stands for. -/
def tyT : Ty := .param t

/-- The type that `U` stands for. -/
def tyU : Ty := .param u

/-- The type of plain functions between given types. -/
def arrow (args : List Ty) (output : Ty) : Ty :=
  .function false [] args output

/-- The type of lists that are built by appending. -/
def listBuilder : Opaque :=
  ⟨⟨["ListBuilder"]⟩, nativeModule, [t], true⟩

/-- The type of texts. -/
def string : Opaque :=
  ⟨⟨["Unicode", "String"]⟩, nativeModule, [], false⟩

/-- The struct of endless sequences: a first element and the way to the next. -/
def sequence : StructHeader where
  id := ⟨["Sequence"]⟩
  module := nativeModule
  typeParams := [t]
  members := [⟨"base", tyT⟩, ⟨"successor", arrow [tyT] tyT⟩]
  isRestricted := false
  annotations := []

end Native

open Native in
/-- The type parameters, argument types and output type of a native function. -/
def NativeFunction.declaration : NativeFunction → List TypeParam × List Ty × Ty
  | booleanNot => ([], [.boolean], .boolean)
  | booleanAnd | booleanOr => ([], [.boolean, .boolean], .boolean)
  | dataEquals => ([dataT], [tyT, tyT], .boolean)
  | integerPlus | integerMinus | integerTimes => ([], [.integer, .integer], .integer)
  | integerDividedBy | integerModulo => ([], [.integer, .integer], .tryOf .integer)
  | integerEquals | integerLessThan | integerGreaterThan =>
    ([], [.integer, .integer], .boolean)
  | natural => ([], [.integer], .tryOf .natural)
  | naturalToInteger => ([], [.natural], .integer)
  | naturalPlus | naturalTimes => ([], [.natural, .natural], .natural)
  | naturalDividedBy => ([], [.natural, .natural], .tryOf .natural)
  | naturalEquals | naturalLessThan => ([], [.natural, .natural], .boolean)
  | naturalMax => ([], [.list .natural], .tryOf .natural)
  | listAppend | listAppendFront => ([t], [.list tyT, tyT], .list tyT)
  | listConcatenate => ([t], [.list (.list tyT)], .list tyT)
  | listSubList => ([t], [.list tyT, .natural, .natural], .tryOf (.list tyT))
  | listMap => ([t, u], [.list tyT, arrow [tyT] tyU], .list tyU)
  | listFlatMap => ([t, u], [.list tyT, arrow [tyT] (.list tyU)], .list tyU)
  | listFilter => ([t], [.list tyT, arrow [tyT] .boolean], .list tyT)
  | listReduce => ([t, u], [.list tyT, tyU, arrow [tyU, tyT] tyU], tyU)
  | listSize => ([t], [.list tyT], .natural)
  | listGet => ([t], [.list tyT, .natural], .tryOf tyT)
  | listLast => ([t], [.list tyT], .tryOf tyT)
  | trySuccess => ([t], [tyT], .tryOf tyT)
  | tryFailure => ([t], [], .tryOf tyT)
  | tryAssume => ([t], [.tryOf tyT], tyT)
  | tryIsSuccess => ([t], [.tryOf tyT], .boolean)
  | tryMap => ([t, u], [.tryOf tyT, arrow [tyT] tyU], .tryOf tyU)
  | tryFlatMap => ([t, u], [.tryOf tyT, arrow [tyT] (.tryOf tyU)], .tryOf tyU)
  | tryOrElse => ([t], [.tryOf tyT, tyT], tyT)
  | sequenceGet => ([t], [sequence.type, .natural], tyT)
  | sequenceFirst => ([t], [sequence.type, arrow [tyT] .boolean], tyT)
  | builderCreate => ([t], [], listBuilder.type)
  | builderAppend => ([t], [listBuilder.type, tyT], listBuilder.type)
  | builderAppendAll => ([t], [listBuilder.type, .list tyT], listBuilder.type)
  | builderBuild => ([t], [listBuilder.type], .list tyT)
  | stringLength => ([], [string.type], .natural)

/-- The signature of a native function. -/
def NativeFunction.signature (function : NativeFunction) : Signature :=
  ⟨function.id, function.declaration.1, function.declaration.2.1, function.declaration.2.2⟩

/-- The definitions of the native module. -/
def nativeDefinitions : Definitions where
  structs := [Native.sequence]
  opaques := [Native.listBuilder, Native.string]
  functions := NativeFunction.all.map (·.signature)

/-- The entity of a native function. -/
def NativeFunction.entity (function : NativeFunction) : Entity :=
  ⟨nativeModule, function.id⟩

end TypedModules
