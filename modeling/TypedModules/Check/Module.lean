import TypedModules.Check.Bodies
import TypedModules.Check.Declarations
import TypedModules.Source.Fingerprint

/-!
# Checking a module

A module is checked in three rounds: what it declares, the headers of its declarations, and
their bodies, so that each declaration may refer to every other.  The outcome is the module,
or the errors that prevent it, with the warnings in either case.
-/

namespace TypedModules

/-- The outcome of checking a module. -/
inductive Verdict where
  | success (module : Module) (warnings : List Diagnostic)
  | failure (errors warnings : List Diagnostic)

/-- The id of a module: its name with the version of its content. -/
def Context.moduleId (context : Context) (name : ModuleName) (dependencies : List Module) :
    ModuleId :=
  ⟨name, context.version (dependencies.map (·.id))⟩

/-- The module that check number `number` makes of a context with its direct
dependencies. -/
def checkModule (number : Nat) (context : Context) (name : ModuleName)
    (dependencies : List Module) : Check Module := do
  checkDeclarations context
  let module := context.moduleId name dependencies
  let setting := Setting.ofModule number module context dependencies
  let context := Scope.unique context context.duplicateIds
  let headers ← checkHeaders setting context
  let setting := { setting with own := headers.definitions }
  let (structs, functions) ← checkBodies setting headers context
  return ⟨module, functions, structs, headers.interfaces, headers.unions, setting.reachable⟩

/-- The outcome of checking a module, as far as a sink records it.  Closures of modules
that are checked under different numbers differ, even if the modules are the same. -/
def validate (number : Nat) (context : Context) (name : ModuleName)
    (dependencies : List Module) (config : SinkConfig) : Verdict :=
  let (module, log) := (checkModule number context name dependencies).runFromStart
  let sink := (Sink.empty config).emitAll log
  match module, sink.hasErrors with
  | some module, false => .success module sink.warnings
  | _, _ => .failure sink.errors sink.warnings

end TypedModules
