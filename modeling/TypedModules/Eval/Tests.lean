import TypedModules.Check.Bodies
import TypedModules.Eval.Interpreter
import TypedModules.Value.Display

/-!
# Test cases

Each test annotation on a function of a module is a case: its literals are decoded with the
types of the function's arguments and result, and the function is evaluated and compared with
what is expected.  A case starts with no list builder, so that cases do not depend on one
another.
-/

namespace TypedModules

/-- What becomes of a test case. -/
inductive CaseOutcome where
  | passed
  | failed (expected actual : String)
  | error (message : String)
  /-- The fuel did not suffice. -/
  | unfinished

namespace CaseOutcome

/-- Whether the case passed. -/
def isPassed : CaseOutcome → Bool
  | passed => true
  | _ => false

/-- The text of an outcome. -/
def text : CaseOutcome → String
  | passed => "passed"
  | failed expected actual => "failed: expected " ++ expected ++ ", got " ++ actual
  | error message => "error: " ++ message
  | unfinished => "unfinished"

end CaseOutcome

/-- A case of a function: the number of its annotation among those that hold cases, and the
literals. -/
structure TestCase where
  function : Function
  number : Nat
  args : List String
  expected : String

/-- The result of a case. -/
structure CaseResult where
  function : EntityId
  number : Nat
  outcome : CaseOutcome

/-- The cases of a function, in the order of its annotations. -/
def Function.cases (function : Function) : List TestCase :=
  (function.annotations.filter Annotation.isTest).zipIdx.filterMap fun (mark, number) =>
    mark.case?.map fun (args, expected) => ⟨function, number, args, expected⟩

/-- The cases of a module, in the order of the functions' ids. -/
def Module.cases (module : Module) : List TestCase :=
  module.testFunctions.flatMap Function.cases

namespace Program

/-- What a computation comes to when it starts with no list builder, and the store after
it. -/
def isolated {α : Type} (run : Eval α) : Except Halt α × Store :=
  run.run {}

/-- The outcome of a computation that ended early, with an error that `shown` words. -/
def haltOutcome (shown : EvalError → String) : Halt → CaseOutcome
  | .error error => .error (shown error)
  | .outOfFuel => .unfinished

/-- The outcome of a case. -/
def runCase (program : Program) (fuel : Nat) (case : TestCase) : CaseOutcome :=
  let literals := (case.function.args.map (·.type)).zip case.args
  let args := (isolated (literals.mapM fun (type, text) => program.decode fuel type text)).1
  let expected := (isolated (program.decode fuel case.function.output case.expected)).1
  match args, expected with
  | .error halt, _ => haltOutcome EvalError.message halt
  | .ok _, .error halt => haltOutcome EvalError.message halt
  | .ok args, .ok expected =>
    match isolated (program.interpret fuel case.function.id args) with
    | (.error halt, _) => haltOutcome EvalError.text halt
    | (.ok actual, store) =>
      if actual.same expected then .passed
      else .failed (expected.text store) (actual.text store)

/-- The results of all cases of the program's own module. -/
def runTests (program : Program) (fuel : Nat) : List CaseResult :=
  program.module.cases.map fun case =>
    ⟨case.function.id, case.number, program.runCase fuel case⟩

end Program

/-- The number of results that passed. -/
def passedCount (results : List CaseResult) : Nat :=
  results.countP (·.outcome.isPassed)

/-- The number of results that did not pass. -/
def failedCount (results : List CaseResult) : Nat :=
  results.length - passedCount results

end TypedModules
