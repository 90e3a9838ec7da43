import TypedModules.Check.Basic

/-!
# Members

What stands under a name in the values of a named type: a member of a struct or an adapter,
or a method of an interface.
-/

namespace TypedModules

/-- What looking up a name in a type comes to. -/
inductive MemberLookup where
  | found (type : Ty)
  | unknown
  | notFollowable

namespace MemberLookup

/-- The answer for a type that has members, of which one may have the name. -/
def ofMember? : Option Ty → MemberLookup
  | some type => found type
  | none => unknown

end MemberLookup

/-- The type of the member of a struct with a name, for given type arguments. -/
def StructHeader.memberType? (header : StructHeader) (args : List Ty) (name : String) :
    Option Ty :=
  (header.members.find? (·.name == name)).map fun m =>
    m.type.substitute (.ofParams header.typeParams args)

/-- The type of the method of an interface with a name, for given type arguments. -/
def Interface.methodType? (interface : Interface) (args : List Ty) (name : String) :
    Option Ty :=
  (interface.methods.find? (·.name == name)).map fun m =>
    m.functionType.toTy.substitute (.ofParams interface.typeParams args)

/-- What stands under a name in the values that an id names, for given type arguments. -/
def Definitions.memberType (definitions : Definitions) (id : EntityId) (args : List Ty)
    (name : String) : MemberLookup :=
  match definitions.struct? id with
  | some header => .ofMember? (header.memberType? args name)
  | none =>
    match definitions.adapterOwner? id with
    | some interface => .ofMember? (interface.adapter.memberType? args name)
    | none =>
      match definitions.interface? id with
      | some interface => .ofMember? (interface.methodType? args name)
      | none => .notFollowable

/-- What stands under a name in the values of a type. -/
def Setting.memberType (setting : Setting) (type : Ty) (name : String) : MemberLookup :=
  match type with
  | .named _ entity _ args =>
    match setting.definitions? entity.module with
    | some definitions => definitions.memberType entity.id args name
    | none => .notFollowable
  | _ => .notFollowable

end TypedModules
