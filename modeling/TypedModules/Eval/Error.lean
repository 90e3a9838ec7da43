import TypedModules.Name.Reference

/-!
# Errors of evaluation

Why evaluation stops without a value, and the entities that were being evaluated.  What a
program is expected to deal with is a `Try` value and no error.
-/

namespace TypedModules

/-- What went wrong. -/
inductive EvalCause where
  | typeMismatch (expected got : String)
  | undefinedVariable (name : String)
  | undefinedEntity (name : String)
  | undefinedMember (member kind : String)
  | arityMismatch (name : String) (expected got : Nat)
  | notCallable (kind : String)
  /-- A failure was assumed to be a success. -/
  | assumedFailure
  /-- A literal of a struct did not satisfy the struct's `requires` block. -/
  | requiresFailed (type literal : String)
  | invalidLiteral (literal type reason : String)
  | missingNative (name : String)
deriving DecidableEq

/-- The wording of each cause. -/
def EvalCause.message : EvalCause → String
  | typeMismatch expected got => "type mismatch: expected " ++ expected ++ ", got " ++ got
  | undefinedVariable name => "undefined variable: " ++ name
  | undefinedEntity name => "undefined entity: " ++ name
  | undefinedMember member kind => "no member '" ++ member ++ "' on " ++ kind
  | arityMismatch name expected got =>
    name ++ " expects " ++ toString expected ++ " argument(s), got " ++ toString got
  | notCallable kind => kind ++ " is not callable"
  | assumedFailure => "Try.assume was called on a failure"
  | requiresFailed type literal =>
    "literal \"" ++ literal ++ "\" does not satisfy the requires block of " ++ type
  | invalidLiteral literal type reason =>
    "invalid " ++ type ++ " literal \"" ++ literal ++ "\": " ++ reason
  | missingNative name => "no native implementation for " ++ name

/-- An error with the entities whose evaluation it ended, the outermost first. -/
structure EvalError where
  cause : EvalCause
  callers : List Entity := []
deriving DecidableEq

namespace EvalError

/-- The wording of an error. -/
def message (error : EvalError) : String :=
  error.cause.message

/-- The entities whose evaluation the error ended, the innermost first. -/
def frames (error : EvalError) : List Entity :=
  error.callers.reverse

/-- The error as it leaves the evaluation of an entity. -/
def leaving (error : EvalError) (entity : Entity) : EvalError :=
  { error with callers := entity :: error.callers }

/-- The lines that list the frames. -/
def backtrace (error : EvalError) : String :=
  "stack backtrace:\n" ++ String.join (error.frames.zipIdx.map fun (frame, i) =>
    "  " ++ toString i ++ ": " ++ frame.text ++ "\n")

/-- The message, followed by the frames if there are any. -/
def text (error : EvalError) : String :=
  if error.callers.isEmpty then error.message
  else error.message ++ "\n" ++ error.backtrace

theorem frames_leaving (error : EvalError) (entity : Entity) :
  (error.leaving entity).frames = error.frames ++ [entity]
  := by
  simp [frames, leaving]

end EvalError
end TypedModules
