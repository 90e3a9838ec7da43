import TypedModules.Check.Expr
import TypedModules.Check.Headers

/-!
# Checking bodies and annotations

The `requires` block of a struct is of type `Boolean`, and the body of a function has the
type that the function declares to return.  A test case stands on a function without type
parameters and gives a literal for each argument and one for the result.
-/

namespace TypedModules

/-- The texts of the arguments and of the result of a test case, if its values are a list of
literals and a literal. -/
def Annotation.case? (mark : Annotation) : Option (List String × String) :=
  match mark.values with
  | [.list args, .literal expected] =>
    (args.mapM AnnotationValue.literal?).map (·, expected)
  | _ => none

/-- Reports what is wrong with a test case on the declaration `owner`, which is a function if
there is a header. -/
def checkTest (owner : EntityId) (location : Option Location)
    (function : Option FunctionHeader) (mark : Annotation) : Check Unit :=
  match function with
  | none =>
    .report .malformedTest location
      ("@Test can only annotate functions, not " ++ owner.text)
  | some function =>
    if !function.typeParams.isEmpty then
      .report .malformedTest location
        ("@Test cannot annotate " ++ owner.text ++ ", which has type parameters")
    else
      match mark.values with
      | [.list args, .literal _] => do
        if args.length != function.args.length then
          .report .malformedTest location
            ("@Test on " ++ owner.text ++ " gives " ++ toString args.length
              ++ " argument(s) but the function takes " ++ toString function.args.length)
        else if mark.case?.isNone then
          .report .malformedTest location
            ("@Test arguments of " ++ owner.text ++ " must be literals")
      | _ =>
        .report .malformedTest location
          ("@Test on " ++ owner.text ++ " must have the form @Test([arguments...], expected)")

/-- Reports what is wrong with the annotations of a declaration. -/
def checkAnnotations (owner : EntityId) (location : Option Location)
    (function : Option FunctionHeader) (annotations : List Annotation) : Check Unit :=
  annotations.forM fun mark => do
    if mark.isTest then checkTest owner location function mark
    else unless mark.isExport do
      .warn .annotationUnknown location
        ("unknown annotation @" ++ mark.name.text ++ " on " ++ owner.text)

/-- The `requires` block of a struct. -/
def checkRequires (setting : Setting) (header : StructHeader) (location : Option Location)
    (requires : SourceBlock) : Check Block := do
  let setting := setting.within header.typeParams
  let block ← checkBlock setting ⟨setting.number, header.entity, []⟩ header.members requires
  unless block.type.same .boolean do
    .fail .requiresNotBoolean (requires.location?.or location)
      ("the requires block of " ++ header.id.text ++ " must be Boolean, found "
        ++ block.type.text)
  return block

/-- A struct with its `requires` block, given its header. -/
def checkStructBody (setting : Setting) (headers : Headers) (declared : SourceStruct) :
    Check Struct := do
  checkAnnotations declared.id declared.location none declared.annotations
  match headers.structs.find? (·.id == declared.id) with
  | none => .abort
  | some header =>
    match declared.requires with
    | none => return { header with requires := none }
    | some requires =>
      let block ← checkRequires setting header declared.location requires
      return { header with requires := some block }

/-- A function with its body, given its header. -/
def checkFunctionBody (setting : Setting) (headers : Headers) (declared : SourceFunction) :
    Check Function := do
  match headers.functions.find? (·.id == declared.id) with
  | none => .abort
  | some header =>
    checkAnnotations declared.id declared.location (some header) declared.annotations
    let setting := setting.within header.typeParams
    let body ← checkBlock setting ⟨setting.number, header.entity, []⟩ header.args declared.body
    unless body.type.same header.output do
      .fail .returnTypeMismatch declared.location
        (declared.id.text ++ " declares return type " ++ header.output.text
          ++ " but its body has type " ++ body.type.text)
    return { header with body := body, annotations := declared.annotations }

/-- The structs and functions whose bodies pass, of a context without duplicated ids. -/
def checkBodies (setting : Setting) (headers : Headers) (context : Context) :
    Check (List Struct × List Function) := do
  let structs ← Check.collect (checkStructBody setting headers) context.structs
  context.interfaces.forM fun interface =>
    checkAnnotations interface.id interface.location none interface.annotations
  context.unions.forM fun union =>
    checkAnnotations union.id union.location none union.annotations
  let functions ← Check.collect (checkFunctionBody setting headers) context.functions
  return (structs, functions)

end TypedModules
