import TypedModules.Location
import TypedModules.Ty.Display

/-!
# Written types

Types as a module writes them, before their references are resolved.  A named type without
parameters may also stand for a type parameter.
-/

namespace TypedModules

/-- A type as a module writes it. -/
inductive SourceTy where
  | integer
  | natural
  | boolean
  | list (element : SourceTy)
  | tryOf (inner : SourceTy)
  | function (isReference : Bool) (typeParams : List TypeParam) (args : List SourceTy)
      (output : SourceTy) (location : Option Location)
  | named (isReference : Bool) (reference : Reference) (params : List SourceTy)
      (location : Option Location)
deriving Inhabited

namespace SourceTy

mutual

/-- The text of a written type. -/
def text : SourceTy → String
  | .integer => "Integer"
  | .natural => "Natural"
  | .boolean => "Boolean"
  | .list element => "List<" ++ element.text ++ ">"
  | .tryOf inner => "Try<" ++ inner.text ++ ">"
  | .function isReference typeParams args output _ =>
    marker isReference ++ angled (typeParams.map TypeParam.text)
      ++ "(" ++ Text.commaList (textAll args) ++ ") -> " ++ output.text
  | .named isReference reference params _ =>
    marker isReference ++ reference.text ++ angled (textAll params)

/-- The texts of written types. -/
def textAll : List SourceTy → List String
  | [] => []
  | type :: rest => type.text :: textAll rest

end

/-- Where the type stands, as far as its outermost part tells. -/
def location? : SourceTy → Option Location
  | .function _ _ _ _ location => location
  | .named _ _ _ location => location
  | _ => none

end SourceTy
end TypedModules
