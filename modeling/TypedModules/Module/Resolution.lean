import TypedModules.Diagnostic.Code
import TypedModules.Module.Basic

/-!
# Resolution

The entities that a module sees: those of the native library, its own declarations less the
ids declared more than once, and what its direct dependencies export.  Types and functions
have separate namespaces; a struct is in both.  A reference is resolved when exactly one
visible entity of its namespace has its id and is admitted by its qualifier.
-/

namespace TypedModules

/-- An entity that a module sees. -/
structure Visible where
  entity : Entity
  kind : EntityKind
  isReference : Bool
deriving DecidableEq, Inhabited

/-- The two namespaces. -/
inductive Namespace where
  | type
  | function
deriving DecidableEq, Inhabited

/-- The word for what a namespace holds. -/
def Namespace.text : Namespace → String
  | type => "type"
  | function => "function"

/-- Why a reference has no answer. -/
inductive ResolutionError where
  | notFound (reference : Reference) (space : Namespace)
  | ambiguous (reference : Reference) (candidates : List Entity)
  | duplicate (reference : Reference)

namespace ResolutionError

/-- The code of each cause. -/
def code : ResolutionError → Code
  | notFound _ _ => .unknownEntity
  | ambiguous _ _ => .ambiguousReference
  | duplicate _ => .duplicateReference

/-- The wording of each cause. -/
def message : ResolutionError → String
  | notFound reference space => "unknown " ++ space.text ++ " '" ++ reference.text ++ "'"
  | ambiguous reference candidates =>
    "'" ++ reference.text ++ "' is ambiguous; it could be any of: "
      ++ Text.commaList (candidates.map Entity.text)
  | duplicate reference =>
    "'" ++ reference.text ++ "' refers to an id declared more than once in this module"

end ResolutionError

/-- What a module sees in each namespace, the ids that it declares more than once, and its
own id. -/
structure Scope where
  types : List Visible := []
  functions : List Visible := []
  duplicates : List EntityId := []
  home : ModuleId
deriving Inhabited

namespace Scope

/-- The entity of a module that is seen under an id. -/
def visible (module : ModuleId) (kind : EntityKind) (id : EntityId) : Visible :=
  ⟨⟨module, id⟩, kind, false⟩

/-- What an interface brings into either namespace: itself and its adapter. -/
def ofInterface (module : ModuleId) (id : EntityId) : List Visible :=
  [visible module .interface id, visible module .adapter id.adapter]

/-- The functions that a union brings along: its options and its case distinction. -/
def ofUnion (module : ModuleId) (id : EntityId) (options : List String) : List Visible :=
  options.map (fun option => visible module .option (id.child option))
    ++ [visible module .when id.whenId]

/-- The types of the native library. -/
def nativeTypes : List Visible :=
  nativeDefinitions.structs.map (fun s => visible nativeModule .struct s.id)
    ++ nativeDefinitions.opaques.map fun o => ⟨o.entity, .opaqueType, o.isReference⟩

/-- The functions of the native library. -/
def nativeFunctions : List Visible :=
  nativeDefinitions.functions.map (fun f => visible nativeModule .native f.id)
    ++ nativeDefinitions.structs.map fun s => visible nativeModule .struct s.id

/-- The types that a module exports. -/
def exportedTypes (module : Module) : List Visible :=
  ((module.structs.filter (·.annotations.any Annotation.isExport)).map
      fun s => visible module.id .struct s.id)
    ++ ((module.interfaces.filter (·.annotations.any Annotation.isExport)).flatMap
      fun i => ofInterface module.id i.id)
    ++ ((module.unions.filter (·.annotations.any Annotation.isExport)).map
      fun u => visible module.id .union u.id)

/-- The functions that a module exports. -/
def exportedFunctions (module : Module) : List Visible :=
  ((module.functions.filter (·.annotations.any Annotation.isExport)).map
      fun f => visible module.id .function f.id)
    ++ ((module.structs.filter (·.annotations.any Annotation.isExport)).map
      fun s => visible module.id .struct s.id)
    ++ ((module.interfaces.filter (·.annotations.any Annotation.isExport)).flatMap
      fun i => ofInterface module.id i.id)
    ++ ((module.unions.filter (·.annotations.any Annotation.isExport)).flatMap
      fun u => ofUnion module.id u.id (u.options.map (·.name)))

/-- The context without the declarations whose ids are duplicated. -/
def unique (context : Context) (duplicates : List EntityId) : Context where
  functions := context.functions.filter fun f => !duplicates.contains f.id
  structs := context.structs.filter fun s => !duplicates.contains s.id
  interfaces := context.interfaces.filter fun i => !duplicates.contains i.id
  unions := context.unions.filter fun u => !duplicates.contains u.id

/-- The types that a context declares. -/
def declaredTypes (module : ModuleId) (context : Context) : List Visible :=
  context.structs.map (fun s => visible module .struct s.id)
    ++ context.interfaces.flatMap (fun i => ofInterface module i.id)
    ++ context.unions.map fun u => visible module .union u.id

/-- The functions that a context declares. -/
def declaredFunctions (module : ModuleId) (context : Context) : List Visible :=
  context.functions.map (fun f => visible module .function f.id)
    ++ context.structs.map (fun s => visible module .struct s.id)
    ++ context.interfaces.flatMap (fun i => ofInterface module i.id)
    ++ context.unions.flatMap fun u => ofUnion module u.id (u.options.map (·.name))

/-- What a module with a context and direct dependencies sees. -/
def ofModule (module : ModuleId) (context : Context) (duplicates : List EntityId)
    (dependencies : List Module) : Scope :=
  let own := unique context duplicates
  { types := nativeTypes ++ dependencies.flatMap exportedTypes ++ declaredTypes module own
    functions :=
      nativeFunctions ++ dependencies.flatMap exportedFunctions ++ declaredFunctions module own
    duplicates := duplicates
    home := module }

/-- What is seen in a namespace. -/
def entries (scope : Scope) : Namespace → List Visible
  | .type => scope.types
  | .function => scope.functions

/-- Whether an id is duplicated, or that of something seen in a namespace. -/
def hasName (scope : Scope) (space : Namespace) (id : EntityId) : Bool :=
  (scope.entries space).any (·.entity.id == id) || scope.duplicates.contains id

/-- Whether a reference means an id that the module declares more than once.  A qualifier
that rules out the module itself rules this out. -/
def meansDuplicate (scope : Scope) (reference : Reference) : Bool :=
  scope.duplicates.contains reference.id && reference.admits scope.home

/-- What a reference may stand for in a namespace. -/
def candidates (scope : Scope) (space : Namespace) (reference : Reference) : List Visible :=
  (scope.entries space).filter fun entry =>
    entry.entity.id == reference.id && reference.admits entry.entity.module

/-- What a reference stands for in a namespace. -/
def resolve (scope : Scope) (space : Namespace) (reference : Reference) :
    Except ResolutionError Visible :=
  if scope.meansDuplicate reference then .error (.duplicate reference)
  else
    match scope.candidates space reference with
    | [only] => .ok only
    | [] => .error (.notFound reference space)
    | many => .error (.ambiguous reference ((many.map (·.entity)).mergeSort Entity.le))

end Scope
end TypedModules
