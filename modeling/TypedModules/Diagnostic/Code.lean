/-!
# Diagnostic codes

Each kind of problem has a code.  Codes that start with `E1` concern the resolution of
references, `E2` declarations and types, `E3` expressions and blocks, `E4` the choice of
type arguments; a code that starts with `W` is for a warning.
-/

namespace TypedModules

/-- The kinds of problem that checking a module reports. -/
inductive Code where
  | unknownEntity
  | ambiguousReference
  | duplicateReference
  | duplicateId
  | duplicateName
  | misplacedReferenceType
  | markerMismatch
  | typeArgumentCount
  | requiresNotBoolean
  | returnTypeMismatch
  | malformedUnion
  | malformedTest
  | unknownVariable
  | unusableVariableName
  | typeMismatch
  | aliasedReference
  | referentialActions
  | blockEnd
  | argumentCount
  | notAFunction
  | notFollowable
  | unknownMember
  | armTypes
  | rejectedLiteral
  | noLiteralForm
  | literalCycle
  | openBoundArgument
  | surplusTypeArguments
  | undecidedTypeArgument
  | typeclassViolation
  | referenceTypeArgument
  | annotationUnknown
deriving DecidableEq, Inhabited

namespace Code

/-- The letter and digits of a code. -/
def text : Code → String
  | unknownEntity => "E1001"
  | ambiguousReference => "E1002"
  | duplicateReference => "E1003"
  | duplicateId => "E2001"
  | duplicateName => "E2002"
  | misplacedReferenceType => "E2003"
  | markerMismatch => "E2004"
  | typeArgumentCount => "E2005"
  | requiresNotBoolean => "E2006"
  | returnTypeMismatch => "E2007"
  | malformedUnion => "E2008"
  | malformedTest => "E2009"
  | unknownVariable => "E3001"
  | unusableVariableName => "E3002"
  | typeMismatch => "E3003"
  | aliasedReference => "E3004"
  | referentialActions => "E3005"
  | blockEnd => "E3006"
  | argumentCount => "E3007"
  | notAFunction => "E3008"
  | notFollowable => "E3009"
  | unknownMember => "E3010"
  | armTypes => "E3011"
  | rejectedLiteral => "E3012"
  | noLiteralForm => "E3013"
  | literalCycle => "E3014"
  | openBoundArgument => "E3015"
  | surplusTypeArguments => "E4001"
  | undecidedTypeArgument => "E4002"
  | typeclassViolation => "E4003"
  | referenceTypeArgument => "E4004"
  | annotationUnknown => "W1001"

instance : ToString Code := ⟨text⟩

/-- Every code, in the order of their texts. -/
def all : List Code :=
  [unknownEntity, ambiguousReference, duplicateReference, duplicateId, duplicateName,
    misplacedReferenceType, markerMismatch, typeArgumentCount, requiresNotBoolean,
    returnTypeMismatch, malformedUnion, malformedTest, unknownVariable, unusableVariableName,
    typeMismatch, aliasedReference, referentialActions, blockEnd, argumentCount, notAFunction,
    notFollowable, unknownMember, armTypes, rejectedLiteral, noLiteralForm, literalCycle,
    openBoundArgument, surplusTypeArguments, undecidedTypeArgument, typeclassViolation,
    referenceTypeArgument, annotationUnknown]

/-- The code that a text writes. -/
def ofText? (text : String) : Option Code :=
  all.find? (·.text == text)

/-- Whether the code is for a warning. -/
def isWarning : Code → Bool
  | annotationUnknown => true
  | _ => false

/-- Whether the code concerns the resolution of a reference. -/
def isResolution : Code → Bool
  | unknownEntity | ambiguousReference | duplicateReference => true
  | _ => false

/-- A code is read back from its text. -/
theorem ofText?_text (code : Code) :
  ofText? code.text = some code
  := by
  cases code <;> rfl

/-- Codes with the same text are the same. -/
theorem text_injective {a b : Code} (h : a.text = b.text) :
  a = b
  := by
  apply Option.some.inj
  rw [← ofText?_text a, h, ofText?_text]

theorem mem_all (code : Code) :
  code ∈ all
  := by
  cases code <;> decide

end Code
end TypedModules
