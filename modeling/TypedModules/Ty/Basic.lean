import TypedModules.Name.Reference

/-!
# Types

The types of the language.  A named type parameter belongs to the declaration that encloses
the type.  An internal parameter is an index into the parameters of the function types that
enclose it, the innermost first: the index space of a function type is its own parameters
followed by that of the type around it.

`FunctionType` is the same as a type made by `Ty.function`, seen from inside; a function
type is ground when it has no parameters of its own.
-/

namespace TypedModules

/-- A constraint on what may be chosen for a type parameter. -/
inductive TypeClass where
  /-- Plain data: no function, interface or reference type anywhere inside. -/
  | data
deriving DecidableEq, Inhabited

/-- The word for a typeclass. -/
def TypeClass.text : TypeClass → String
  | data => "Data"

/-- A type parameter of a declaration or of a function type. -/
structure TypeParam where
  name : String
  typeClass : Option TypeClass := none
deriving DecidableEq, Inhabited

/-- The name, with the constraint after a colon if there is one. -/
def TypeParam.text (param : TypeParam) : String :=
  match param.typeClass with
  | some typeClass => param.name ++ ": " ++ typeClass.text
  | none => param.name

/-- The types of the language. -/
inductive Ty where
  | integer
  | natural
  | boolean
  | list (element : Ty)
  | tryOf (inner : Ty)
  | function (isReference : Bool) (typeParams : List TypeParam) (args : List Ty) (output : Ty)
  | named (isReference : Bool) (entity : Entity) (written : Reference) (params : List Ty)
  | param (param : TypeParam)
  | internal (index : Nat)
deriving Inhabited

/-- A function type, seen from inside. -/
structure FunctionType where
  isReference : Bool
  typeParams : List TypeParam
  args : List Ty
  output : Ty
deriving Inhabited

/-- A function type as a type. -/
def FunctionType.toTy (function : FunctionType) : Ty :=
  .function function.isReference function.typeParams function.args function.output

/-- Whether a function type has no parameters of its own. -/
def FunctionType.isGround (function : FunctionType) : Bool :=
  function.typeParams.isEmpty

namespace Ty

/-- Whether values of the type may be shared and changed.  A type parameter is never a
reference, because no reference type may be chosen for it. -/
def isReference : Ty → Bool
  | function isReference _ _ _ => isReference
  | named isReference _ _ _ => isReference
  | _ => false

/-- The function type that a type is, if it is one. -/
def function? : Ty → Option FunctionType
  | function isReference typeParams args output => some ⟨isReference, typeParams, args, output⟩
  | _ => none

@[simp]
theorem function?_toTy (function : FunctionType) :
  function.toTy.function? = some function
  := rfl

theorem eq_toTy_of_function? {type : Ty} {function : FunctionType}
    (h : type.function? = some function) :
  type = function.toTy
  := by
  cases type <;> simp [Ty.function?] at h
  subst h
  rfl

end Ty
end TypedModules
