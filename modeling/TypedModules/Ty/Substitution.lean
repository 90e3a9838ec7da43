import TypedModules.Ty.Basic

/-!
# Substitution in types

Replacing named parameters of a declaration, replacing internal parameters of a function
type, and turning named parameters into internal ones.  An internal parameter that stays
open is numbered anew among the open ones, so that the result fits a function type that
keeps only those.
-/

namespace TypedModules

/-- The types chosen for parameters by name; of two entries for a name the later counts. -/
abbrev Choices := List (String × Ty)

namespace Choices

/-- The type chosen for a name. -/
def get? (choices : Choices) (name : String) : Option Ty :=
  (choices.reverse.find? (·.1 == name)).map (·.2)

/-- The parameters of a declaration with the arguments of one use of it. -/
def ofParams (params : List TypeParam) (args : List Ty) : Choices :=
  (params.map (·.name)).zip args

end Choices

namespace Ty

mutual

/-- The type with named parameters replaced. -/
def substitute (choices : Choices) : Ty → Ty
  | .integer => .integer
  | .natural => .natural
  | .boolean => .boolean
  | .list element => .list (element.substitute choices)
  | .tryOf inner => .tryOf (inner.substitute choices)
  | .function isReference typeParams args output =>
    .function isReference typeParams (substituteAll choices args) (output.substitute choices)
  | .named isReference entity written params =>
    .named isReference entity written (substituteAll choices params)
  | .param p => (choices.get? p.name).getD (.param p)
  | .internal index => .internal index

/-- The types with named parameters replaced. -/
def substituteAll (choices : Choices) : List Ty → List Ty
  | [] => []
  | type :: rest => type.substitute choices :: substituteAll choices rest

end

/-- How many entries of a list of choices are open. -/
def openCount (chosen : List (Option Ty)) : Nat :=
  chosen.countP (·.isNone)

/-- What replaces the internal parameter `index`: the type chosen for it, or its number
among the parameters that stay open. -/
def instantiateIndex (chosen : List (Option Ty)) (index : Nat) : Ty :=
  match chosen[index]? with
  | some (some type) => type
  | some none => .internal (openCount (chosen.take index))
  | none => .internal (index - (chosen.length - openCount chosen))

mutual

/-- The type with the internal parameters replaced for which `chosen` holds a type. -/
def instantiate (chosen : List (Option Ty)) : Ty → Ty
  | .integer => .integer
  | .natural => .natural
  | .boolean => .boolean
  | .list element => .list (element.instantiate chosen)
  | .tryOf inner => .tryOf (inner.instantiate chosen)
  | .function isReference typeParams args output =>
    let inner := typeParams.map (fun _ => none) ++ chosen
    .function isReference typeParams (instantiateAll inner args) (output.instantiate inner)
  | .named isReference entity written params =>
    .named isReference entity written (instantiateAll chosen params)
  | .param p => .param p
  | .internal index => instantiateIndex chosen index

/-- The types with internal parameters replaced. -/
def instantiateAll (chosen : List (Option Ty)) : List Ty → List Ty
  | [] => []
  | type :: rest => type.instantiate chosen :: instantiateAll chosen rest

end

mutual

/-- The type in which the parameter `names[i]` has become the internal parameter
`offset + i`. -/
def internalize (names : List String) (offset : Nat) : Ty → Ty
  | .integer => .integer
  | .natural => .natural
  | .boolean => .boolean
  | .list element => .list (element.internalize names offset)
  | .tryOf inner => .tryOf (inner.internalize names offset)
  | .function isReference typeParams args output =>
    let deeper := offset + typeParams.length
    .function isReference typeParams (internalizeAll names deeper args)
      (output.internalize names deeper)
  | .named isReference entity written params =>
    .named isReference entity written (internalizeAll names offset params)
  | .param p =>
    match names.idxOf? p.name with
    | some index => .internal (offset + index)
    | none => .param p
  | .internal index => .internal index

/-- The types in which named parameters have become internal. -/
def internalizeAll (names : List String) (offset : Nat) : List Ty → List Ty
  | [] => []
  | type :: rest => type.internalize names offset :: internalizeAll names offset rest

end

mutual

/-- Whether every internal parameter of the type points to one of its own function types
or to one of the `allowed` parameters around it. -/
def isClosedWithin (allowed : Nat) : Ty → Bool
  | .integer => true
  | .natural => true
  | .boolean => true
  | .list element => element.isClosedWithin allowed
  | .tryOf inner => inner.isClosedWithin allowed
  | .function _ typeParams args output =>
    let inner := allowed + typeParams.length
    areClosedWithin inner args && output.isClosedWithin inner
  | .named _ _ _ params => areClosedWithin allowed params
  | .param _ => true
  | .internal index => index < allowed

/-- Whether every type of a list is closed within `allowed` parameters. -/
def areClosedWithin (allowed : Nat) : List Ty → Bool
  | [] => true
  | type :: rest => type.isClosedWithin allowed && areClosedWithin allowed rest

end

/-- Whether a value of the type can be bound before the parameters of the function type
around it are chosen. -/
def isBindable (type : Ty) : Bool :=
  type.isClosedWithin 0

@[simp]
theorem substituteAll_eq_map (choices : Choices) (types : List Ty) :
  substituteAll choices types = types.map (substitute choices)
  := by
  induction types with
  | nil => rfl
  | cons type rest ih => simp [substituteAll, ih]

@[simp]
theorem instantiateAll_eq_map (chosen : List (Option Ty)) (types : List Ty) :
  instantiateAll chosen types = types.map (instantiate chosen)
  := by
  induction types with
  | nil => rfl
  | cons type rest ih => simp [instantiateAll, ih]

@[simp]
theorem internalizeAll_eq_map (names : List String) (offset : Nat) (types : List Ty) :
  internalizeAll names offset types = types.map (internalize names offset)
  := by
  induction types with
  | nil => rfl
  | cons type rest ih => simp [internalizeAll, ih]

@[simp]
theorem areClosedWithin_eq_all (allowed : Nat) (types : List Ty) :
  areClosedWithin allowed types = types.all (isClosedWithin allowed)
  := by
  induction types with
  | nil => rfl
  | cons type rest ih => simp [areClosedWithin, ih]

end Ty
end TypedModules
