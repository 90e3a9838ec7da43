import TypedModules.Ty.Function

/-!
# Choosing type arguments

A call need not write the type arguments of the function that it calls.  What stands in the
type of a supplied value where the declared type of the argument mentions a parameter is
chosen for it; arguments are tried in order, and each type from left to right.  A parameter
that no argument reveals takes the next type argument that is written.
-/

namespace TypedModules

/-- Why no type arguments are chosen. -/
inductive InferenceFailure where
  | surplus (expected provided : Nat)
  | undecided (param : String)
  | unconsumed (leftover : Nat)
deriving DecidableEq

mutual

/-- What stands in the second type where the first mentions the internal parameter `index`.
Inside a function type the index is counted past the function type's own parameters. -/
def reveal (index : Nat) : Ty → Ty → Option Ty
  | .internal i, actual => if i = index then some actual else none
  | .list declared, .list actual => reveal index declared actual
  | .tryOf declared, .tryOf actual => reveal index declared actual
  | .named _ entity₁ _ declared, .named _ entity₂ _ actual =>
    if entity₁ = entity₂ then revealAny index declared actual else none
  | .function _ typeParams args output, .function isReference₂ typeParams₂ args₂ output₂ =>
    let index := index + typeParams.length
    let actual := FunctionType.groundByName ⟨isReference₂, typeParams₂, args₂, output₂⟩
    match revealAny index args actual.args with
    | some type => some type
    | none => reveal index output actual.output
  | _, _ => none

/-- The first that is revealed, position by position. -/
def revealAny (index : Nat) : List Ty → List Ty → Option Ty
  | declared :: rest, actual :: others =>
    match reveal index declared actual with
    | some type => some type
    | none => revealAny index rest others
  | _, _ => none

end

/-- What the supplied values reveal of a parameter; an absent value reveals nothing. -/
def revealBySupplied (index : Nat) : List Ty → List (Option Ty) → Option Ty
  | declared :: rest, actual :: others =>
    match actual.bind (reveal index declared) with
    | some type => some type
    | none => revealBySupplied index rest others
  | _, _ => none

/-- A type for each parameter from position `index` on, and the written type arguments that
are left over. -/
def chooseEach (args : List Ty) (supplied : List (Option Ty)) :
    (index : Nat) → List TypeParam → (written : List (Option Ty)) →
      Except InferenceFailure (List (Option Ty))
  | _, [], written =>
    if written.isEmpty then .ok [] else .error (.unconsumed written.length)
  | index, param :: rest, written =>
    match revealBySupplied index args supplied with
    | some type => (chooseEach args supplied (index + 1) rest written).map (some type :: ·)
    | none =>
      match written with
      | some type :: others =>
        (chooseEach args supplied (index + 1) rest others).map (some type :: ·)
      | _ => .error (.undecided param.name)

/-- The types chosen for the parameters of a function type.  Type arguments that are written
for all parameters are taken as they are, and may leave some of them open. -/
def inferTypeArgs (function : FunctionType) (written supplied : List (Option Ty)) :
    Except InferenceFailure (List (Option Ty)) :=
  let expected := function.typeParams.length
  if written.length = expected then .ok written
  else if expected < written.length then .error (.surplus expected written.length)
  else chooseEach function.args supplied 0 function.typeParams written

end TypedModules
