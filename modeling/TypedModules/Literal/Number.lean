import TypedModules.Literal.Form

/-!
# Numbers in literals

The number that decimal digits write, with a minus sign before those of a negative one.
-/

namespace TypedModules

/-- The value of a decimal digit. -/
def digitValue (c : Char) : Nat :=
  c.toNat - '0'.toNat

/-- The number that digits write, the most significant first. -/
def ofDigits (digits : List Char) : Nat :=
  digits.foldl (fun n c => 10 * n + digitValue c) 0

/-- The natural number that a text writes without leading zeros. -/
def parseNatural? (text : List Char) : Option Nat :=
  if isDecimal text then some (ofDigits text) else none

/-- The integer that a text writes without leading zeros, and zero without a sign. -/
def parseInteger? (text : List Char) : Option Int :=
  if isSignedDecimal text then
    match text with
    | '-' :: digits => some (-(ofDigits digits : Int))
    | digits => some (ofDigits digits : Int)
  else
    none

end TypedModules
