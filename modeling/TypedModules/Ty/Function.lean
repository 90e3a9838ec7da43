import TypedModules.Ty.Substitution

/-!
# Function types

The type of a declared signature, and what remains of a function type once type arguments
or argument values are given to it: `ground` chooses every type parameter, `rebindTypes`
some of them, and `rebindArgs` drops the arguments that are bound.
-/

namespace TypedModules
namespace FunctionType

/-- The type of a signature whose types refer to its type parameters by name. -/
def ofSignature (typeParams : List TypeParam) (args : List Ty) (output : Ty) : FunctionType :=
  let names := typeParams.map (·.name)
  ⟨false, typeParams, args.map (Ty.internalize names 0), output.internalize names 0⟩

/-- The function type with a type chosen for each of its parameters. -/
def ground (function : FunctionType) (chosen : List Ty) : FunctionType :=
  if function.isGround then function
  else
    let chosen := chosen.map some
    ⟨function.isReference, [], function.args.map (Ty.instantiate chosen),
      function.output.instantiate chosen⟩

/-- The function type with each parameter chosen as the named parameter it is. -/
def groundByName (function : FunctionType) : FunctionType :=
  function.ground (function.typeParams.map Ty.param)

/-- Whether a list of optional entries holds something at a position. -/
def isBound {α : Type} (entries : List (Option α)) (position : Nat) : Bool :=
  match entries[position]? with
  | some (some _) => true
  | _ => false

/-- The items at whose positions `entries` holds nothing. -/
def unbound {α β : Type} (entries : List (Option α)) (items : List β) : List β :=
  (items.zipIdx.filter fun item => !isBound entries item.2).map (·.1)

/-- The function type with a type chosen for some of its parameters. -/
def rebindTypes (function : FunctionType) (chosen : List (Option Ty)) : FunctionType :=
  if function.isGround then function
  else
    ⟨function.isReference, unbound chosen function.typeParams,
      function.args.map (Ty.instantiate chosen), function.output.instantiate chosen⟩

/-- The function type without the arguments that are bound.  It is a reference as soon as
something bound is one. -/
def rebindArgs (function : FunctionType) (bound : List (Option Ty)) : FunctionType :=
  ⟨function.isReference || bound.any (·.any Ty.isReference), function.typeParams,
    unbound bound function.args, function.output⟩

/-- The argument types that a bound value can be compared with; none where the type depends
on a parameter that is not chosen. -/
def bindableArgs (function : FunctionType) : List (Option Ty) :=
  if function.isGround then function.args.map some
  else function.args.map fun type => if type.isBindable then some type else none

end FunctionType
end TypedModules
