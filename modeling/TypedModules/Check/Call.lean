import TypedModules.Check.Data
import TypedModules.Check.Inference
import TypedModules.Ty.Equality
import TypedModules.Typed.Tree

/-!
# Calls and bindings

A call chooses a type for every type parameter of the function and gives to each argument a
value of exactly its type.  A binding may leave type parameters and arguments open; what
it binds has exactly the type of its slot, which may not depend on an open type parameter.
-/

namespace TypedModules

/-- Reports what is wrong with the type chosen for a parameter, and tells whether something
is. -/
def checkChoice (setting : Setting) (callee : String) (location : Option Location)
    (param : TypeParam) (type : Ty) : Check Bool := do
  if type.isReference then
    .report .referenceTypeArgument location
      ("reference type " ++ type.text ++ " cannot be chosen for type parameter "
        ++ param.name ++ " of " ++ callee)
    return false
  else if param.typeClass == some .data && !setting.isData type then
    .report .typeclassViolation location
      (type.text ++ " is not a Data type, as type parameter " ++ param.name ++ " of "
        ++ callee ++ " requires")
    return false
  else
    return true

/-- Whether every chosen type fits its parameter; what does not fit is reported. -/
def checkChoices (setting : Setting) (callee : String) (location : Option Location) :
    List TypeParam → List (Option Ty) → Check Bool
  | param :: params, some type :: chosen => do
    let first ← checkChoice setting callee location param type
    let others ← checkChoices setting callee location params chosen
    return first && others
  | _ :: params, none :: chosen => checkChoices setting callee location params chosen
  | _, _ => pure true

/-- The types chosen for the type parameters of a function, if each fits. -/
def chooseTypeArgs (setting : Setting) (function : FunctionType)
    (written supplied : List (Option Ty)) (callee : String) (location : Option Location) :
    Check (List (Option Ty)) := do
  match inferTypeArgs function written supplied with
  | .error (.surplus expected provided) =>
    .fail .surplusTypeArguments location
      (callee ++ " takes " ++ toString expected ++ " type parameter(s) but "
        ++ toString provided ++ " were given")
  | .error (.undecided param) =>
    .fail .undecidedTypeArgument location
      ("could not infer type parameter " ++ param ++ " of " ++ callee
        ++ "; give it explicitly")
  | .error (.unconsumed leftover) =>
    .fail .surplusTypeArguments location
      (toString leftover ++ " explicit type parameter(s) of " ++ callee ++ " were not needed")
  | .ok chosen =>
    let fits ← checkChoices setting callee location function.typeParams chosen
    unless fits do .abort
    return chosen

/-- Fails at the first argument whose type is not the expected one; `position` numbers the
first argument. -/
def checkArgTypes (callee : String) (location : Option Location) :
    (position : Nat) → List Expr → List Ty → Check Unit
  | position, arg :: args, expected :: rest => do
    unless arg.type.same expected do
      .fail .typeMismatch location
        ("argument " ++ toString position ++ " of " ++ callee ++ " has type " ++ arg.type.text
          ++ " but " ++ expected.text ++ " is expected")
    checkArgTypes callee location (position + 1) args rest
  | _, _, _ => pure ()

/-- The type arguments of a call, and the function type that they make of the callee's. -/
def groundCall (setting : Setting) (function : FunctionType) (written : List (Option Ty))
    (args : List Expr) (callee : String) (location : Option Location) :
    Check (List Ty × FunctionType) := do
  if args.length != function.args.length then
    .fail .argumentCount location
      (callee ++ " expects " ++ toString function.args.length ++ " argument(s) but "
        ++ toString args.length ++ " were given")
  let chosen ← chooseTypeArgs setting function written (args.map fun a => some a.type)
    callee location
  match chosen.mapM id with
  | none =>
    .fail .undecidedTypeArgument location
      ("every type parameter of " ++ callee ++ " must be chosen for a call")
  | some chosen =>
    let ground := function.ground chosen
    checkArgTypes callee location 1 args ground.args
    return (chosen, ground)

/-- Fails at the first bound value whose type is not that of its slot; `position` numbers the
first slot. -/
def checkSlotTypes (callee : String) (location : Option Location) :
    (position : Nat) → List (Option Expr) → List (Option Ty) → Check Unit
  | position, some value :: slots, some expected :: rest => do
    unless value.type.same expected do
      .fail .typeMismatch location
        ("binding " ++ toString position ++ " of " ++ callee ++ " has type "
          ++ value.type.text ++ " but " ++ expected.text ++ " is expected")
    checkSlotTypes callee location (position + 1) slots rest
  | position, some _ :: _, none :: _ =>
    .fail .openBoundArgument location
      ("argument " ++ toString position ++ " of " ++ callee
        ++ " depends on a type parameter that is not chosen")
  | position, none :: slots, _ :: rest =>
    checkSlotTypes callee location (position + 1) slots rest
  | _, _, _ => pure ()

/-- The type arguments of a binding, and the type of the function that it makes. -/
def bindFunction (setting : Setting) (function : FunctionType) (written : List (Option Ty))
    (slots : List (Option Expr)) (callee : String) (location : Option Location) :
    Check (List (Option Ty) × FunctionType) := do
  if slots.length != function.args.length then
    .fail .argumentCount location
      (callee ++ " takes " ++ toString function.args.length ++ " argument(s) but "
        ++ toString slots.length ++ " binding slot(s) were given")
  let supplied := slots.map fun slot => slot.map (·.type)
  let chosen ← chooseTypeArgs setting function written supplied callee location
  let rebound := function.rebindTypes chosen
  checkSlotTypes callee location 1 slots rebound.bindableArgs
  return (chosen, rebound.rebindArgs supplied)

/-- The entity that a named callee stands for, and its type. -/
def Setting.callee (setting : Setting) (function : Reference) (location : Option Location) :
    Check (Entity × FunctionType) := do
  let entry ← setting.resolve .function function location
  match setting.signature? entry with
  | some signature => return (entry.entity, signature.functionType)
  | none => .failBehind ("'" ++ function.text ++ "' has no valid declaration")

/-- The type of an expression that is called or bound. -/
def calleeType (function : Expr) (location : Option Location) : Check FunctionType :=
  match function.type.function? with
  | some type => pure type
  | none =>
    .fail .notAFunction location
      ("an expression of type " ++ function.type.text ++ " cannot be called or bound")

end TypedModules
