import TypedModules.Diagnostic.Sink
import TypedModules.Module.Resolution
import TypedModules.Ty.Display

/-!
# Checking

A check may fail, and in either case it emits diagnostics; a check that fails has emitted an
error, or stands behind one that was emitted before.  What is checked stands in a setting:
the module under check, what it sees, the modules on which it depends, and the headers of its
own declarations.
-/

namespace TypedModules

/-- A computation that emits diagnostics and may fail; what it emits is kept if it fails.  It
is told whether an error was emitted before it. -/
def Check (α : Type) : Type :=
  (behind : Bool) → Option α × List Diagnostic

namespace Check

/-- Whether a log holds an error. -/
def hasError (log : List Diagnostic) : Bool :=
  log.any Diagnostic.isError

/-- The check that emits nothing and has the given result. -/
def ofResult {α : Type} (result : Option α) : Check α :=
  fun _ => (result, [])

/-- A check and what follows it, which stands behind the errors of the first. -/
def andThen {α β : Type} (check : Check α) (next : α → Check β) : Check β :=
  fun behind =>
    match check behind with
    | (none, log) => (none, log)
    | (some a, log) =>
      let (result, more) := next a (behind || hasError log)
      (result, log ++ more)

instance : Monad Check where
  pure a := ofResult (some a)
  bind := andThen

/-- Emits a diagnostic. -/
def emit (diagnostic : Diagnostic) : Check Unit :=
  fun _ => (some (), [diagnostic])

/-- Emits an error with a label at its location, and goes on. -/
def report (code : Code) (location : Option Location) (message : String) : Check Unit :=
  emit ((Diagnostic.error code message).labelled location "here")

/-- Emits a warning with a label at its location. -/
def warn (code : Code) (location : Option Location) (message : String) : Check Unit :=
  emit ((Diagnostic.warning code message).labelled location "here")

/-- Fails without emitting anything. -/
def abort {α : Type} : Check α :=
  ofResult none

/-- Whether an error was emitted before. -/
def isBehind : Check Bool :=
  fun behind => (some behind, [])

/-- Emits an error and fails. -/
def fail {α : Type} (code : Code) (location : Option Location) (message : String) : Check α := do
  report code location message
  abort

/-- Fails because of a declaration whose own check has failed; emits an error only if none
was emitted so far. -/
def failBehind {α : Type} (message : String) : Check α := do
  unless ← isBehind do
    report .unknownEntity none message
  abort

/-- Goes on after a check, whether it failed or not. -/
def attempt {α : Type} (check : Check α) : Check (Option α) :=
  fun behind =>
    let (result, log) := check behind
    (some result, log)

/-- The items for which a check succeeds, each checked whatever became of those before. -/
def collect {α β : Type} (check : α → Check β) : List α → Check (List β)
  | [] => pure []
  | item :: rest => do
    let first ← attempt (check item)
    return first.toList ++ (← collect check rest)

/-- What a check emits from the start, and its result. -/
def runFromStart {α : Type} (check : Check α) : Option α × List Diagnostic :=
  check false

end Check

/-- Where a check takes place. -/
structure Setting where
  /-- The number of this check. -/
  number : Nat
  module : ModuleId
  scope : Scope
  reachable : List Module
  /-- The headers of the module's own named types, known before any declaration is checked. -/
  typeHeaders : List (EntityId × TypeHeader)
  /-- The module's own declarations whose headers passed. -/
  own : Definitions
  /-- The type parameters of the declaration under check. -/
  typeParams : List TypeParam
deriving Inhabited

namespace Setting

/-- The definitions of a module, which may be the one under check. -/
def definitions? (setting : Setting) (module : ModuleId) : Option Definitions :=
  if module.isNative then some nativeDefinitions
  else if module = setting.module then some setting.own
  else (setting.reachable.find? (·.id == module)).map (·.definitions)

/-- The signature of something that the module sees. -/
def signature? (setting : Setting) (entry : Visible) : Option Signature :=
  (setting.definitions? entry.entity.module).bind fun definitions =>
    definitions.signature? entry.kind entry.entity.id

/-- The header of a type that the module sees. -/
def typeHeader? (setting : Setting) (entry : Visible) : Option TypeHeader :=
  if entry.entity.module = setting.module then
    (setting.typeHeaders.find? (·.1 == entry.entity.id)).map (·.2)
  else
    (setting.definitions? entry.entity.module).bind fun definitions =>
      definitions.typeHeader? entry.kind entry.entity.id

/-- What a reference stands for in a namespace. -/
def resolve (setting : Setting) (space : Namespace) (reference : Reference)
    (location : Option Location) : Check Visible :=
  match setting.scope.resolve space reference with
  | .ok entry => pure entry
  | .error error => .fail error.code location error.message

/-- The setting inside a declaration with the given type parameters. -/
def within (setting : Setting) (typeParams : List TypeParam) : Setting :=
  { setting with typeParams := typeParams }

/-- The number of structs and unions that the module can reach. -/
def shapeCount (setting : Setting) : Nat :=
  let count := fun (definitions : Definitions) =>
    definitions.structs.length + definitions.unions.length
  setting.reachable.foldl (fun n m => n + count m.definitions)
    (count nativeDefinitions + count setting.own)

end Setting

/-- The names that occur again after their first occurrence, once for each time. -/
def repeated (names : List String) : List String :=
  go [] names
where
  /-- The names that occur in `seen` or earlier in the list. -/
  go (seen : List String) : List String → List String
    | [] => []
    | name :: rest =>
      if seen.contains name then name :: go seen rest else go (name :: seen) rest

/-- Fails, with an error for each repetition, unless the names are distinct; `what` says
what they name. -/
def checkDistinct (names : List String) (what : String) (owner : EntityId)
    (location : Option Location) : Check Unit := do
  let again := repeated names
  again.forM fun name =>
    .report .duplicateName location
      ("duplicate " ++ what ++ " name '" ++ name ++ "' in " ++ owner.text)
  unless again.isEmpty do .abort

end TypedModules
