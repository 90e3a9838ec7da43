import TypedModules.Check.Basic

/-!
# Checking written types

A written type is checked where the type parameters of a declaration are in scope.  A name
is looked up first among the parameters of the function types around it, the innermost
first, then among those of the declaration, and then among the types that the module sees.
A reference type is marked where it is written, and stands neither in a list, in a `Try`
nor among the arguments of a named type.
-/

namespace TypedModules

/-- Fails if a type is a reference, where `role` says what stands in its place. -/
def requireValueType (type : Ty) (location : Option Location) (role : String) : Check Unit := do
  if type.isReference then
    .fail .misplacedReferenceType location
      ("reference type " ++ type.text ++ " cannot be used as " ++ role)

/-- The type parameter for which a reference stands, given the parameters `internal` of the
function types around it: only an unqualified name without type arguments stands for one. -/
def Setting.typeParam? (setting : Setting) (internal : List String) (reference : Reference)
    (hasArgs : Bool) : Option Ty :=
  if hasArgs || reference.qualifier.isSome then none
  else
    reference.id.single?.bind fun name =>
      match internal.idxOf? name with
      | some index => some (.internal index)
      | none => (setting.typeParams.find? (·.name == name)).map .param

/-- Fails unless the marker is written exactly where the type is a reference. -/
def checkMarker (reference : Reference) (isMarked isReference : Bool)
    (location : Option Location) : Check Unit := do
  if isMarked && !isReference then
    .fail .markerMismatch location
      ("'" ++ reference.text ++ "' is not a reference type; remove the '&'")
  if !isMarked && isReference then
    .fail .markerMismatch location
      ("'" ++ reference.text ++ "' is a reference type and must be written '&"
        ++ reference.text ++ "'")

/-- The header of the type that a reference stands for, with its entity, if the reference
is marked as it has to be and has as many type arguments as there are parameters. -/
def Setting.namedHeader (setting : Setting) (reference : Reference) (isMarked : Bool)
    (argCount : Nat) (location : Option Location) : Check (Entity × TypeHeader) := do
  let entry ← setting.resolve .type reference location
  match setting.typeHeader? entry with
  | none => .failBehind ("type '" ++ reference.text ++ "' has no valid declaration")
  | some header =>
    checkMarker reference isMarked header.isReference location
    if argCount != header.typeParams.length then
      .fail .typeArgumentCount location
        ("'" ++ reference.text ++ "' takes " ++ toString header.typeParams.length
          ++ " type argument(s) but " ++ toString argCount ++ " were given")
    return (entry.entity, header)

mutual

/-- The type that a written type stands for; `internal` names the parameters of the function
types around it. -/
def checkTyWithin (setting : Setting) (internal : List String) : SourceTy → Check Ty
  | .integer => pure .integer
  | .natural => pure .natural
  | .boolean => pure .boolean
  | .list element => do
    let element ← checkTyWithin setting internal element
    requireValueType element none "a list element"
    return .list element
  | .tryOf inner => do
    let inner ← checkTyWithin setting internal inner
    requireValueType inner none "a Try value"
    return .tryOf inner
  | .function isReference typeParams args output location => do
    let names := typeParams.map (·.name)
    match repeated names with
    | name :: _ =>
      .fail .duplicateName location
        ("duplicate type parameter '" ++ name ++ "' in function type")
    | [] =>
      let args ← checkTysWithin setting (names ++ internal) args
      let output ← checkTyWithin setting (names ++ internal) output
      return .function isReference typeParams args output
  | .named isReference reference params location =>
    match setting.typeParam? internal reference (!params.isEmpty) with
    | some type => pure type
    | none => do
      let (entity, header) ←
        setting.namedHeader reference isReference params.length location
      let params ← checkTyArgsWithin setting internal location params
      return .named header.isReference entity reference params

/-- The types that written types stand for. -/
def checkTysWithin (setting : Setting) (internal : List String) :
    List SourceTy → Check (List Ty)
  | [] => pure []
  | type :: rest => do
    let type ← checkTyWithin setting internal type
    return type :: (← checkTysWithin setting internal rest)

/-- The types that the arguments of a named type stand for. -/
def checkTyArgsWithin (setting : Setting) (internal : List String)
    (location : Option Location) : List SourceTy → Check (List Ty)
  | [] => pure []
  | type :: rest => do
    let type ← checkTyWithin setting internal type
    requireValueType type location "a type argument"
    return type :: (← checkTyArgsWithin setting internal location rest)

end

/-- The type that a written type stands for. -/
def checkTy (setting : Setting) (type : SourceTy) : Check Ty :=
  checkTyWithin setting [] type

/-- The types that written types stand for, where some may be absent. -/
def checkOpenTys (setting : Setting) : List (Option SourceTy) → Check (List (Option Ty))
  | [] => pure []
  | none :: rest => return none :: (← checkOpenTys setting rest)
  | some type :: rest => do
    let type ← checkTy setting type
    return some type :: (← checkOpenTys setting rest)

/-- The arguments that written arguments stand for, if their names are distinct. -/
def checkArgs (setting : Setting) (args : List SourceArg) (owner : EntityId)
    (location : Option Location) : Check (List Argument) := do
  checkDistinct (args.map (·.name)) "argument" owner location
  args.mapM fun arg => return ⟨arg.name, ← checkTy setting arg.type⟩

end TypedModules
