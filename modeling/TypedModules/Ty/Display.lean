import TypedModules.Ty.Basic

/-!
# The text of types

A type is shown with the references that its module wrote; an internal parameter shows its
index after an underscore.
-/

namespace TypedModules

/-- The texts between angle brackets, or nothing if there are none. -/
def angled (texts : List String) : String :=
  if texts.isEmpty then "" else "<" ++ Text.commaList texts ++ ">"

/-- The sign before the text of a reference type. -/
def marker (isReference : Bool) : String :=
  if isReference then "&" else ""

mutual

/-- The text of a type. -/
def Ty.text : Ty → String
  | .integer => "Integer"
  | .natural => "Natural"
  | .boolean => "Boolean"
  | .list element => "List<" ++ element.text ++ ">"
  | .tryOf inner => "Try<" ++ inner.text ++ ">"
  | .function isReference typeParams args output =>
    marker isReference ++ angled (typeParams.map TypeParam.text)
      ++ "(" ++ Text.commaList (textAll args) ++ ") -> " ++ output.text
  | .named isReference _ written params =>
    marker isReference ++ written.text ++ angled (textAll params)
  | .param p => p.name
  | .internal index => "_" ++ toString index

/-- The texts of types. -/
def Ty.textAll : List Ty → List String
  | [] => []
  | type :: rest => type.text :: textAll rest

end

instance : ToString Ty := ⟨Ty.text⟩

theorem Ty.textAll_eq_map (types : List Ty) :
  Ty.textAll types = types.map Ty.text
  := by
  induction types with
  | nil => rfl
  | cons type rest ih => simp [Ty.textAll, ih]

/-- The text of a function type. -/
def FunctionType.text (function : FunctionType) : String :=
  function.toTy.text

end TypedModules
