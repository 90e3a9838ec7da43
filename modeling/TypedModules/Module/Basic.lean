import TypedModules.Native.Library

/-!
# Modules

A checked module: its declarations in the order in which they are written, and every module
on which it depends, directly or not.  Its exports, adapters and tests are read off its
declarations.
-/

namespace TypedModules

/-- A checked module. -/
structure Module where
  id : ModuleId
  functions : List Function
  structs : List Struct
  interfaces : List Interface
  unions : List Union
  /-- Every module on which this one depends, directly or not, in the order of ids. -/
  reachable : List Module
deriving Inhabited

namespace Module

/-- The function with an id. -/
def function? (module : Module) (id : EntityId) : Option Function :=
  module.functions.find? (·.id == id)

/-- The struct with an id. -/
def struct? (module : Module) (id : EntityId) : Option Struct :=
  module.structs.find? (·.id == id)

/-- The interface with an id. -/
def interface? (module : Module) (id : EntityId) : Option Interface :=
  module.interfaces.find? (·.id == id)

/-- The interface whose adapter has an id. -/
def adapterOwner? (module : Module) (id : EntityId) : Option Interface :=
  module.interfaces.find? (·.adapterId == id)

/-- The union with an id. -/
def union? (module : Module) (id : EntityId) : Option Union :=
  module.unions.find? (·.id == id)

/-- The definitions that the module owns. -/
def definitions (module : Module) : Definitions where
  structs := module.structs.map (·.toStructHeader)
  interfaces := module.interfaces
  unions := module.unions
  functions := module.functions.map (·.signature)

/-- The module with an id, among this one and those on which it depends. -/
def find? (module : Module) (id : ModuleId) : Option Module :=
  if id = module.id then some module else module.reachable.find? (·.id == id)

/-- The definitions of the module with an id, the native one included. -/
def definitionsOf? (module : Module) (id : ModuleId) : Option Definitions :=
  if id.isNative then some nativeDefinitions else (module.find? id).map definitions

/-- The ids of the declarations that other modules may use. -/
def exports (module : Module) : List EntityId :=
  (module.functions.filter (·.annotations.any Annotation.isExport)).map (·.id)
    ++ (module.structs.filter (·.annotations.any Annotation.isExport)).map (·.id)
    ++ (module.interfaces.filter (·.annotations.any Annotation.isExport)).map (·.id)
    ++ (module.unions.filter (·.annotations.any Annotation.isExport)).map (·.id)

/-- The functions that carry a test case, in the order of ids. -/
def testFunctions (module : Module) : List Function :=
  (module.functions.filter (·.annotations.any Annotation.isTest)).mergeSort
    fun a b => a.id.le b.id

/-- The module with its declarations in the order of their ids. -/
def inIdOrder (module : Module) : Module :=
  { module with
    functions := module.functions.mergeSort fun a b => a.id.le b.id
    structs := module.structs.mergeSort fun a b => a.id.le b.id
    interfaces := module.interfaces.mergeSort fun a b => a.id.le b.id
    unions := module.unions.mergeSort fun a b => a.id.le b.id }

/-- The interfaces in the order of their adapters' ids. -/
def byAdapter (module : Module) : List Interface :=
  module.interfaces.mergeSort fun a b => a.adapterId.le b.adapterId

end Module

/-- The modules with one more, in the order of ids and each id once. -/
def insertModule (module : Module) : List Module → List Module
  | [] => [module]
  | first :: rest =>
    match compare module.id first.id with
    | .lt => module :: first :: rest
    | .eq => module :: rest
    | .gt => first :: insertModule module rest

/-- The modules with a dependency and those on which it depends. -/
def insertDependency (found : List Module) (dependency : Module) : List Module :=
  insertModule dependency
    (dependency.reachable.foldl (fun found module => insertModule module found) found)

/-- The modules on which a module with the given direct dependencies depends. -/
def reachableFrom (dependencies : List Module) : List Module :=
  dependencies.foldl insertDependency []

end TypedModules
