import TypedModules.Check.Basic

/-!
# Plain data

Whether a type may be chosen for a type parameter of plain data: nothing inside it, through
the members of structs and the options of unions, is a function, an interface or a
reference.  A struct or union that is met again while it is being unfolded is taken to add
nothing new.
-/

namespace TypedModules
namespace Setting

/-- What the values of a struct or union hold, for given type arguments. -/
def parts? (setting : Setting) (entity : Entity) (args : List Ty) : Option (List Ty) :=
  (setting.definitions? entity.module).bind fun definitions =>
    match definitions.struct? entity.id with
    | some s =>
      some (s.members.map fun m => m.type.substitute (.ofParams s.typeParams args))
    | none =>
      (definitions.union? entity.id).map fun u =>
        u.options.filterMap fun o => o.type.map (·.substitute (.ofParams u.typeParams args))

/-- The opaque type that an entity is. -/
def opaque? (setting : Setting) (entity : Entity) : Option Opaque :=
  (setting.definitions? entity.module).bind (·.opaque? entity.id)

mutual

/-- Whether a type is plain data, where `unfold` tells it of structs and unions. -/
def isDataBy (setting : Setting) (unfold : Entity → List Ty → Bool) : Ty → Bool
  | .integer => true
  | .natural => true
  | .boolean => true
  | .list element => isDataBy setting unfold element
  | .tryOf inner => isDataBy setting unfold inner
  | .function _ _ _ _ => false
  | .named isReference entity _ params =>
    !isReference &&
      match setting.opaque? entity with
      | some type => !type.isReference && areDataBy setting unfold params
      | none => unfold entity params
  | .param p => p.typeClass == some .data
  | .internal _ => false

/-- Whether all types of a list are plain data. -/
def areDataBy (setting : Setting) (unfold : Entity → List Ty → Bool) : List Ty → Bool
  | [] => true
  | type :: rest => isDataBy setting unfold type && areDataBy setting unfold rest

end

/-- Whether a type is plain data, while the entities in `visiting` are being unfolded; `depth`
bounds how many more may be. -/
def isDataWithin (setting : Setting) : (depth : Nat) → (visiting : List Entity) → Ty → Bool
  | 0, _ => fun _ => false
  | depth + 1, visiting =>
    isDataBy setting fun entity args =>
      visiting.contains entity ||
        match setting.parts? entity args with
        | some parts => parts.all (isDataWithin setting depth (entity :: visiting))
        | none => false

/-- Whether a type is plain data.  Along any path each struct or union is unfolded at most
once, so the number of those that the module can reach bounds the depth. -/
def isData (setting : Setting) (type : Ty) : Bool :=
  isDataWithin setting (setting.shapeCount + 1) [] type

end Setting
end TypedModules
