import TypedModules.Proofs.Eval.Closures
import TypedModules.Proofs.Native.Contained

/-!
# Native functions count their arguments

A native function that is given as many arguments as it is declared with never reports their
number: `NativeFunction.takes_of_length`.
-/

namespace TypedModules

open Eval

namespace NativeFunction

variable {function : NativeFunction} {args : List Value}

/-- Whether what is asked for is answered as watched if the closures in what is asked for have
the watched property. -/
def Answers (watch : Watch) (ask : Request → Eval Value) : Prop :=
  ∀ request, request.Holds watch.closures → (ask request).Holds watch fun v => v.Holds watch.closures

/-- What is answered as watched is answered with the property. -/
theorem Answers.containment {watch : Watch} {ask : Request → Eval Value} (h : Answers watch ask) :
  watch.containment.Answers ask
  := by
  rintro world (⟨entity, args⟩ | ⟨binding, args⟩ | ⟨type, text⟩) hasked
  · exact h (.call entity args) hasked
  · exact h (.apply binding args) hasked
  · exact h (.literal type text) hasked

/-- Every cause is allowed but a wrong number of arguments. -/
def uncounted : Watch where
  closures _ := True
  allows cause := ∀ name expected got, cause ≠ .arityMismatch name expected got
  mismatch _ _ := nofun
  member _ _ := nofun
  assumed := nofun

/-- Whether a native function takes arguments: it never reports their number, unless an answer
to what it asks for is such a report. -/
def Takes (function : NativeFunction) (args : List Value) : Prop :=
  ∀ ask fuel, Answers uncounted ask → (function.run ask fuel args).Holds uncounted fun _ => True

/-- A native function takes as many arguments as it is declared with. -/
theorem takes_of_length (h : args.length = function.arity) :
  function.Takes args
  := by
  intro ask fuel hask
  have hany : ∀ a ∈ args, uncounted.containment.holds () a := fun a _ =>
    (holds_of_forall fun _ => trivial).1 a
  have hrun := keeps_run hask.containment fuel (fun hne => absurd h hne) hany
  exact hrun.imp fun _ _ _ _ => trivial

end NativeFunction
end TypedModules
