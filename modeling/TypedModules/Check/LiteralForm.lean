import TypedModules.Check.Basic
import TypedModules.Literal.Form

/-!
# The literal form of a type

The primitive types and the type of texts have literals of their own; a struct with exactly
one member takes over those of the member's type.
-/

namespace TypedModules

/-- The type of texts has this entity. -/
def stringEntity : Entity :=
  Native.string.entity

/-- Why a type has no literals. -/
inductive LiteralFault where
  | noForm
  | cycle (entity : Entity)
deriving DecidableEq

namespace Setting

/-- The type of the only member of a struct with one member, for given type arguments. -/
def onlyMember? (setting : Setting) (entity : Entity) (args : List Ty) : Option Ty :=
  ((setting.definitions? entity.module).bind (·.struct? entity.id)).bind fun s =>
    match s.members with
    | [member] => some (member.type.substitute (.ofParams s.typeParams args))
    | _ => none

/-- The literal form of a type, when the structs in `seen` led to it; `depth` bounds how many
more may follow. -/
def literalFormWithin (setting : Setting) :
    (depth : Nat) → (seen : List Entity) → Ty → Except LiteralFault LiteralForm
  | 0, _, _ => .error .noForm
  | _, _, .integer => .ok .integer
  | _, _, .natural => .ok .natural
  | _, _, .boolean => .ok .boolean
  | depth + 1, seen, .named _ entity _ args =>
    if entity = stringEntity then .ok .string
    else
      match setting.onlyMember? entity args with
      | none => .error .noForm
      | some member =>
        if seen.contains entity then .error (.cycle entity)
        else literalFormWithin setting depth (entity :: seen) member
  | _, _, _ => .error .noForm

/-- The literal form of a type.  No struct is passed twice, so the number of structs that the
module can reach bounds the depth. -/
def literalForm (setting : Setting) (type : Ty) : Except LiteralFault LiteralForm :=
  literalFormWithin setting (setting.shapeCount + 2) [] type

end Setting
end TypedModules
