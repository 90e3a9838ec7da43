import TypedModules.Eval.Error
import TypedModules.Value.Store

/-!
# Evaluation

Evaluation reads and changes the store of list builders, and ends with a value, with an
error, or because its fuel has run out.  What builders hold is kept when it ends with an
error.
-/

namespace TypedModules

/-- Why evaluation ends without a value. -/
inductive Halt where
  | error (error : EvalError)
  | outOfFuel

/-- A computation on the store that may end without a value. -/
abbrev Eval := ExceptT Halt (StateM Store)

/-- What is asked for in the course of evaluation. -/
inductive Request where
  /-- The value of a function-like entity for given arguments. -/
  | call (entity : Entity) (args : List Value)
  /-- The value of a binding for the arguments in its open slots. -/
  | apply (binding : Binding) (args : List Value)
  /-- The value of a type that a literal text denotes. -/
  | literal (type : Ty) (text : String)

namespace Eval

/-- Ends with an error. -/
def fail {α : Type} (cause : EvalCause) : Eval α :=
  throw (.error { cause := cause })

/-- Records that an error leaves the evaluation of an entity. -/
def inFrame {α : Type} (entity : Entity) (run : Eval α) : Eval α :=
  fun store =>
    match run store with
    | (.error (.error error), after) => (.error (.error (error.leaving entity)), after)
    | outcome => outcome

/-- Ends with an error unless a count is as expected. -/
def checkArity (name : String) (expected got : Nat) : Eval Unit :=
  if expected = got then pure () else fail (.arityMismatch name expected got)

end Eval

namespace Value

/-- Ends with an error that names the kind of value that was expected. -/
def mismatch {α : Type} (expected : String) (got : Value) : Eval α :=
  .fail (.typeMismatch expected got.kindName)

/-- The integer that a value is. -/
def asInteger : Value → Eval Int
  | integer n => pure n
  | other => mismatch "Integer" other

/-- The natural number that a value is. -/
def asNatural : Value → Eval Nat
  | natural n => pure n
  | other => mismatch "Natural" other

/-- The truth value that a value is. -/
def asBoolean : Value → Eval Bool
  | boolean b => pure b
  | other => mismatch "Boolean" other

/-- The items of the list that a value is. -/
def asList : Value → Eval (List Value)
  | list items => pure items
  | other => mismatch "List" other

/-- What a success holds, or nothing for a failure. -/
def asTry : Value → Eval (Option Value)
  | success value => pure (some value)
  | failure => pure none
  | other => mismatch "Try" other

/-- The binding that a value is. -/
def asBinding : Value → Eval Binding
  | function binding => pure binding
  | other => mismatch "function binding" other

/-- The number of the list builder that a value is. -/
def asBuilder : Value → Eval Nat
  | builder number => pure number
  | other => mismatch "ListBuilder" other

end Value
end TypedModules
