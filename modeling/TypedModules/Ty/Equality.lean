import TypedModules.Ty.Basic

/-!
# Sameness of types

Two types are the same when they differ at most in the references that their modules wrote
and in the names of the parameters of function types.
-/

namespace TypedModules

/-- Whether two lists of parameters have the same constraints in the same order. -/
def sameTypeClasses (a b : List TypeParam) : Bool :=
  a.map (·.typeClass) == b.map (·.typeClass)

mutual

/-- Whether two types are the same. -/
def Ty.same : Ty → Ty → Bool
  | .integer, .integer => true
  | .natural, .natural => true
  | .boolean, .boolean => true
  | .list a, .list b => a.same b
  | .tryOf a, .tryOf b => a.same b
  | .function r₁ p₁ a₁ o₁, .function r₂ p₂ a₂ o₂ =>
    r₁ == r₂ && sameTypeClasses p₁ p₂ && sameAll a₁ a₂ && o₁.same o₂
  | .named r₁ e₁ _ p₁, .named r₂ e₂ _ p₂ => r₁ == r₂ && e₁ == e₂ && sameAll p₁ p₂
  | .param a, .param b => a == b
  | .internal a, .internal b => a == b
  | _, _ => false

/-- Whether two lists of types are the same, position by position. -/
def Ty.sameAll : List Ty → List Ty → Bool
  | [], [] => true
  | a :: as, b :: bs => a.same b && sameAll as bs
  | _, _ => false

end

/-- Whether two optional types are both absent or both the same. -/
def Ty.sameOption : Option Ty → Option Ty → Bool
  | none, none => true
  | some a, some b => a.same b
  | _, _ => false

/-- Whether two lists of optional types are the same, position by position. -/
def Ty.sameOptions : List (Option Ty) → List (Option Ty) → Bool
  | [], [] => true
  | a :: as, b :: bs => sameOption a b && sameOptions as bs
  | _, _ => false

end TypedModules
