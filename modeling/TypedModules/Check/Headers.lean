import TypedModules.Check.Ty

/-!
# Checking headers

What each declaration shows to the rest of its module, without any block: the members of a
struct, the methods of an interface, the options of a union, and the signature of a
function.
-/

namespace TypedModules

/-- The headers of a module's declarations that passed. -/
structure Headers where
  structs : List StructHeader := []
  interfaces : List Interface := []
  unions : List Union := []
  functions : List FunctionHeader := []
deriving Inhabited

/-- The headers as definitions. -/
def Headers.definitions (headers : Headers) : Definitions where
  structs := headers.structs
  interfaces := headers.interfaces
  unions := headers.unions
  functions := headers.functions.map (·.signature)

/-- Fails unless the type parameters of a declaration have distinct names. -/
def checkTypeParams (typeParams : List TypeParam) (owner : EntityId)
    (location : Option Location) : Check Unit :=
  checkDistinct (typeParams.map (·.name)) "type parameter" owner location

/-- The header of a struct: its members have distinct names and are no references. -/
def checkStructHeader (setting : Setting) (declared : SourceStruct) : Check StructHeader := do
  checkTypeParams declared.typeParams declared.id declared.location
  checkDistinct (declared.members.map (·.name)) "member" declared.id declared.location
  let setting := setting.within declared.typeParams
  let members ← declared.members.mapM fun member => do
    let type ← checkTy setting member.type
    if type.isReference then
      .fail .misplacedReferenceType declared.location
        ("member '" ++ member.name ++ "' of struct " ++ declared.id.text
          ++ " has reference type " ++ type.text)
    return Argument.mk member.name type
  return {
    id := declared.id
    module := setting.module
    typeParams := declared.typeParams
    members := members
    isRestricted := declared.requires.isSome
    annotations := declared.annotations }

/-- A method of an interface: no type parameter of its own has the name of another or of one
of the interface. -/
def checkMethod (setting : Setting) (declared : SourceInterface) (method : SourceMethod) :
    Check Method := do
  let typeParams := declared.typeParams ++ method.typeParams
  checkTypeParams typeParams declared.id declared.location
  let setting := setting.within typeParams
  let args ← checkArgs setting method.args declared.id declared.location
  let output ← checkTy setting method.output
  return ⟨method.name, method.typeParams, args, output⟩

/-- An interface: its methods have distinct names. -/
def checkInterface (setting : Setting) (declared : SourceInterface) : Check Interface := do
  checkTypeParams declared.typeParams declared.id declared.location
  checkDistinct (declared.methods.map (·.name)) "method" declared.id declared.location
  let methods ← declared.methods.mapM (checkMethod setting declared)
  return ⟨declared.id, setting.module, declared.typeParams, methods, declared.annotations⟩

/-- An option of a union: it is not called `when`, and its value is no reference. -/
def checkOption (setting : Setting) (declared : SourceUnion) (option : SourceOption) :
    Check UnionOption := do
  let location := option.location.or declared.location
  if option.name == "when" then
    .fail .malformedUnion location
      ("union " ++ declared.id.text ++ " cannot have an option named 'when'")
  match option.type with
  | none => return ⟨option.name, none⟩
  | some type =>
    let type ← checkTy setting type
    requireValueType type location "a union option"
    return ⟨option.name, some type⟩

/-- A union: it has options, and their names are distinct. -/
def checkUnion (setting : Setting) (declared : SourceUnion) : Check Union := do
  checkTypeParams declared.typeParams declared.id declared.location
  if declared.options.isEmpty then
    .fail .malformedUnion declared.location ("union " ++ declared.id.text ++ " has no options")
  checkDistinct (declared.options.map (·.name)) "option" declared.id declared.location
  let setting := setting.within declared.typeParams
  let options ← declared.options.mapM (checkOption setting declared)
  return ⟨declared.id, setting.module, declared.typeParams, options, declared.annotations⟩

/-- The header of a function. -/
def checkFunctionHeader (setting : Setting) (declared : SourceFunction) :
    Check FunctionHeader := do
  checkTypeParams declared.typeParams declared.id declared.location
  let setting := setting.within declared.typeParams
  let args ← checkArgs setting declared.args declared.id declared.location
  let output ← checkTy setting declared.output
  return ⟨declared.id, setting.module, declared.typeParams, args, output⟩

/-- The headers that pass, of a context without duplicated ids. -/
def checkHeaders (setting : Setting) (context : Context) : Check Headers := do
  let structs ← Check.collect (checkStructHeader setting) context.structs
  let interfaces ← Check.collect (checkInterface setting) context.interfaces
  let unions ← Check.collect (checkUnion setting) context.unions
  let functions ← Check.collect (checkFunctionHeader setting) context.functions
  return ⟨structs, interfaces, unions, functions⟩

end TypedModules
