import TypedModules.Ty.Function
import TypedModules.Typed.Tree

/-!
# Signatures

What a callable entity takes and returns, with types that refer to its type parameters by
name, and the type that a declaration gives to its own name.
-/

namespace TypedModules

/-- What a callable entity takes and returns. -/
structure Signature where
  id : EntityId
  typeParams : List TypeParam
  args : List Ty
  output : Ty
deriving Inhabited

/-- The type of the function that a signature describes. -/
def Signature.functionType (signature : Signature) : FunctionType :=
  .ofSignature signature.typeParams signature.args signature.output

/-- The named type of a declaration, applied to its own type parameters. -/
def declaredType (isReference : Bool) (module : ModuleId) (id : EntityId)
    (typeParams : List TypeParam) : Ty :=
  .named isReference ⟨module, id⟩ (.ofId id) (typeParams.map .param)

/-- The candidate names `base`, `base2`, `base3` and so on, the first `n + 1` of them. -/
def candidateNames (base : String) (n : Nat) : List String :=
  base :: (List.range n).map fun i => base ++ toString (i + 2)

/-- The first of `base`, `base2`, `base3`, ... that no parameter has.  Among one more name
than there are parameters one is unused. -/
def unusedName (base : String) (taken : List TypeParam) : String :=
  ((candidateNames base taken.length).find? fun name => taken.all (·.name != name)).getD base

end TypedModules
