import TypedModules.Text.Quoted
import TypedModules.Value.Store

/-!
# The text of values

A struct and an option show their ids and what they hold; functions, instances and builders
show what they are.
-/

namespace TypedModules

/-- The name of the option of a union at a position. -/
def Union.optionName (union : Union) (option : Nat) : String :=
  match union.options[option]? with
  | some o => o.name
  | none => "?"

/-- The text of what a binding calls. -/
def Target.text : Target → String
  | .entity e => "<function " ++ e.id.text ++ ">"
  | .closure _ => "<inline function>"

mutual

/-- The text of a value. -/
def Value.text (store : Store) : Value → String
  | .integer n => toString n
  | .natural n => toString n
  | .boolean b => toString b
  | .list items => "[" ++ Text.commaList (valueTexts store items) ++ "]"
  | .success value => "success(" ++ value.text store ++ ")"
  | .failure => "failure"
  | .string text => Text.quote text
  | .struct header members =>
    header.id.text ++ "(" ++ Text.commaList (valueTexts store members) ++ ")"
  | .object interface _ => "<" ++ interface.id.text ++ " instance>"
  | .union union option none => union.id.text ++ "." ++ union.optionName option
  | .union union option (some payload) =>
    union.id.text ++ "." ++ union.optionName option ++ "(" ++ payload.text store ++ ")"
  | .function binding => binding.target.text
  | .builder number => "<ListBuilder of " ++ toString (store.size number) ++ ">"

/-- The texts of values. -/
def valueTexts (store : Store) : List Value → List String
  | [] => []
  | value :: rest => value.text store :: valueTexts store rest

end

end TypedModules
