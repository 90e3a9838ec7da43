import TypedModules.Name.EntityId
import TypedModules.Name.ModuleId

/-!
# References to entities

A reference as a module writes it may name a module, with or without its group and version.
An entity is what a reference stands for once it is resolved: an id in one defining module.
-/

namespace TypedModules

/-- The part of a reference that says which module is meant. -/
structure Qualifier where
  group : Option String
  module : String
  version : Option String
deriving DecidableEq, Inhabited

namespace Qualifier

/-- Whether the module `id` has every part that the qualifier names. -/
def admits (qualifier : Qualifier) (id : ModuleId) : Bool :=
  qualifier.module == id.name.module
    && qualifier.group.all (· == id.name.group)
    && qualifier.version.all (· == id.version)

/-- The parts that the qualifier names, with colons between them. -/
def text (qualifier : Qualifier) : String :=
  Text.join ":" (qualifier.group.toList ++ [qualifier.module] ++ qualifier.version.toList)

instance : ToString Qualifier := ⟨text⟩

end Qualifier

/-- A reference to an entity as a module writes it. -/
structure Reference where
  qualifier : Option Qualifier
  id : EntityId
deriving DecidableEq, Inhabited

namespace Reference

/-- The reference that names an id and no module. -/
def ofId (id : EntityId) : Reference :=
  ⟨none, id⟩

/-- The reference that dotted text writes, without a module. -/
def ofText (dotted : String) : Reference :=
  ofId (EntityId.ofText dotted)

/-- The text of a reference: its qualifier and a colon, if it has one, then its id. -/
def text (reference : Reference) : String :=
  match reference.qualifier with
  | some qualifier => qualifier.text ++ ":" ++ reference.id.text
  | none => reference.id.text

instance : ToString Reference := ⟨text⟩

/-- Whether the reference leaves open that its entity is in the module `id`. -/
def admits (reference : Reference) (id : ModuleId) : Bool :=
  reference.qualifier.all (·.admits id)

end Reference

/-- A declaration of one module, or what is derived from it. -/
structure Entity where
  module : ModuleId
  id : EntityId
deriving DecidableEq, Ord, Inhabited

namespace Entity

/-- The text of an entity: its module, a colon, its id. -/
def text (entity : Entity) : String :=
  entity.module.text ++ ":" ++ entity.id.text

instance : ToString Entity := ⟨text⟩

/-- Whether `a` comes before or with `b` by module and id. -/
def le (a b : Entity) : Bool :=
  (compare a b).isLE

end Entity

/-- What makes a name that comes from outside unusable. -/
inductive NameError where
  | invalidEntityId (text : String)
  | invalidModuleName (part name : String)
  | versionWithoutGroup (module : String)
deriving DecidableEq

namespace NameError

/-- The wording of each cause. -/
def message : NameError → String
  | invalidEntityId text =>
    "an entity id needs at least one non-empty segment, got '" ++ text ++ "'"
  | invalidModuleName part name => "invalid " ++ part ++ " '" ++ name ++ "' in module name"
  | versionWithoutGroup module =>
    "module reference '" ++ module ++ "' has a version but no group"

end NameError

/-- The id with the given segments, or why there is none. -/
def EntityId.ofSegments (segments : List String) : Except NameError EntityId :=
  match EntityId.ofSegments? segments with
  | some id => .ok id
  | none => .error (.invalidEntityId (Text.join "." segments))

/-- The id that dotted text writes, or why it writes none. -/
def EntityId.parse (dotted : String) : Except NameError EntityId :=
  EntityId.ofSegments (Text.split '.' dotted)

/-- The name made of a group and a module; of two bad parts the group is blamed. -/
def ModuleName.ofParts (group module : String) : Except NameError ModuleName :=
  if !isNamePart group then .error (.invalidModuleName "group" group)
  else if !isNamePart module then .error (.invalidModuleName "module" module)
  else .ok ⟨group, module⟩

/-- The qualifier with the given parts; a version needs a group. -/
def Qualifier.ofParts (group : Option String) (module : String) (version : Option String) :
    Except NameError Qualifier :=
  if group.isNone && version.isSome then .error (.versionWithoutGroup module)
  else .ok ⟨group, module, version⟩

end TypedModules
