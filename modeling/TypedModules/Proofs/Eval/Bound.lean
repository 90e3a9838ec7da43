import TypedModules.Proofs.Eval.Contained
import TypedModules.Proofs.Native.Closures
import TypedModules.Proofs.Typing.Module
import TypedModules.Proofs.Typing.Restrict

/-!
# No variable is undefined

Evaluation never reads a variable that is not bound.  The invariant is that every closure in a
value is sealed: its body is well typed where nothing is visible but its arguments and what it
captures.  A closure of a well typed tree is sealed, a sealed closure finds what it captures in
its slots, and the bodies of accepted modules are well typed where their arguments are visible.
-/

namespace TypedModules

open Eval

/-- Whether the body of a closure needs no variable but its arguments and what it captures. -/
def Closure.Sealed (closure : Closure) : Prop :=
  ∃ around, closure.body.Typed around (closure.args ++ closure.captures)

theorem sealed_of_typed {around : Surroundings} {vars : Variables} {type : Ty}
    {closure : Closure} (h : (Node.closure closure).Typed around vars type) :
  closure.Sealed
  := by
  obtain ⟨site, args, captures, output, body⟩ := closure
  obtain ⟨-, hnew, hcaptures, hbody, -⟩ := h
  exact ⟨around, hcaptures.typed_body hnew hbody⟩

/-- All closures are sealed, and no variable is undefined. -/
def sealedWatch : Watch where
  closures := Closure.Sealed
  allows cause := ∀ name, cause ≠ .undefinedVariable name
  mismatch _ _ := nofun
  member _ _ := nofun
  assumed := nofun

/-- The body of a well typed tree needs no variables but its arguments, and its closures are
sealed. -/
theorem runs_of_typed {around : Surroundings} {args : List Argument} {body : Block}
    (h : body.Typed around args) :
  sealedWatch.containment.Runs args body
  := by
  constructor
  case bound =>
    intro name hname hnot
    exact absurd (visible_free.2 body args h name hname) (by simpa [Variables.has] using hnot)
  case writes =>
    refine fun part hpart => ⟨fun closure hnode => ?_, fun _ _ => trivial⟩
    obtain ⟨visible, htyped⟩ := typed_parts.2 body args h part hpart
    cases part
    obtain rfl : _ = Node.closure closure := hnode
    exact sealed_of_typed htyped.2

/-- Whether all bodies of a module are well typed, wherever that is. -/
def Module.BodiesTyped (module : Module) : Prop :=
  (∀ function ∈ module.functions, ∃ around, function.body.Typed around function.args)
    ∧ ∀ struct ∈ module.structs, ∀ block, struct.requires = some block →
      ∃ around, block.Typed around struct.members

theorem Accepted.bodiesTyped {module : Module} (h : Accepted module) :
  module.BodiesTyped
  := by
  obtain ⟨number, context, name, dependencies, -, hchecked⟩ := h.checked
  have htyped := hchecked.typed h
  exact ⟨fun function hfunction => ⟨_, (htyped.functions function hfunction).1⟩,
    fun struct hstruct block hblock => ⟨_, (htyped.requires struct hstruct block hblock).1⟩⟩

theorem hosts_sealed {program : Program} (haccepted : Accepted program.module) :
  sealedWatch.containment.Hosts program
  := by
  refine Containment.RunsAll.lenient ?_ ⟨fun _ _ => trivial, fun _ _ _ _ => nofun⟩
    fun _ _ => trivial
  constructor
  case tolerant =>
    rintro cause h name rfl
    cases h
  case closures => exact fun _ ⟨_, hbody⟩ => runs_of_typed hbody
  case functions =>
    intro id module hmodule function hfunction
    obtain ⟨_, hbody⟩ := (haccepted.find? hmodule).bodiesTyped.1 function hfunction
    exact runs_of_typed hbody
  case requires =>
    intro id module hmodule struct hstruct block hblock
    obtain ⟨_, hbody⟩ := (haccepted.find? hmodule).bodiesTyped.2 struct hstruct block hblock
    exact runs_of_typed hbody

/-- Every request in which all closures are sealed is answered with sealed closures, or with an
error that is not about an undefined variable. -/
theorem answers_sealed {program : Program} (haccepted : Accepted program.module) (fuel : Nat) :
  NativeFunction.Answers sealedWatch (program.answer fuel)
  := by
  have hanswers := Containment.answers_program (hosts_sealed haccepted) fuel
  rintro (⟨entity, args⟩ | ⟨binding, args⟩ | ⟨type, text⟩) hrequest
  · exact hanswers () (.call entity args) hrequest
  · exact hanswers () (.apply binding args) hrequest
  · exact hanswers () (.literal type text) hrequest

/-- Whether a closure stands in a body of an accepted module. -/
def Closure.Written (closure : Closure) : Prop :=
  ∃ module, Accepted module ∧ ∃ part ∈ module.parts, part.node = .closure closure

theorem Closure.Written.sealed {closure : Closure} (h : closure.Written) :
  closure.Sealed
  := by
  obtain ⟨module, haccepted, part, hpart, hnode⟩ := h
  obtain ⟨number, context, name, dependencies, -, hchecked⟩ := haccepted.checked
  obtain ⟨visible, htyped⟩ := (hchecked.typed haccepted).parts hpart
  cases part with
  | mk type aliasing node =>
    obtain rfl : node = .closure closure := hnode
    exact sealed_of_typed htyped.2

/-- In an accepted module with any overrides, no evaluation ends with the error about an
undefined variable, whatever is asked for: an entity for arguments, a binding for arguments, or
the value of a literal.  Neither the arguments nor what builders hold need to have the right
types, as long as their closures stand in accepted modules. -/
theorem no_undefinedVariable {program : Program} (haccepted : Accepted program.module)
    {request : Request} (hrequest : request.Holds Closure.Written) {store : Store}
    (hstore : store.Holds Closure.Written) {fuel : Nat} {error : EvalError}
    (herror : ((program.answer fuel request).outcome store).1 = .error (.error error))
    (name : String) :
  error.cause ≠ .undefinedVariable name
  := by
  have hsealed : ∀ c : Closure, c.Written → c.Sealed := fun _ h => h.sealed
  obtain ⟨_, -, -, hends⟩ := answers_sealed haccepted fuel request (hrequest.imp hsealed) store
    (hstore.imp hsealed)
  rw [herror] at hends
  exact hends name

/-- The interpreter finds the functions of its own module there. -/
theorem answer_own {program : Program} (haccepted : Accepted program.module) (fuel : Nat)
    (id : EntityId) (args : List Value) :
  program.answer (fuel + 1) (.call ⟨program.module.id, id⟩ args)
    = .inFrame ⟨program.module.id, id⟩ (evalDeclared program (program.answer fuel) fuel
        program.module ⟨program.module.id, id⟩ args)
  := by
  show Eval.inFrame _ (evalEntity _ _ _ _ _) = _
  rw [evalEntity, haccepted.not_native, if_neg Bool.false_ne_true, Module.find?_self]

theorem error_inFrame {α : Type} {run : Eval α} {store : Store} {error : EvalError}
    (h : (run.outcome store).1 = .error (.error error)) (entity : Entity) :
  ((Eval.inFrame entity run).outcome store).1 = .error (.error (error.leaving entity))
  := by
  unfold Eval.outcome Eval.inFrame at *
  rcases e : run store with ⟨halt | a, left⟩ <;> rw [e] at h <;> cases h
  rfl

/-- Whether evaluation ended with an error. -/
def failed : Except Halt Value → Bool
  | .error (.error _) => true
  | _ => false

theorem exists_error_of_failed {result : Except Halt Value} (h : failed result = true) :
  ∃ error, result = .error (.error error)
  := by
  unfold failed at h
  split at h
  next error => exact ⟨error, rfl⟩
  next => cases h

/-- `pick` is given an integer for a truth value: it ends with an error, about a type. -/
theorem no_undefinedVariable_pick :
  ∃ (module : Module) (error : EvalError), Accepted module
    ∧ ((Program.answer { module := module } 4
        (.call ⟨module.id, ⟨["pick"]⟩⟩ [.integer 1, .integer 2])).outcome {}).1
      = .error (.error error)
    ∧ ∀ name, error.cause ≠ .undefinedVariable name
  := by
  have hfails : (validate 0 pickContext ⟨"example", "pick"⟩ [] {}).module?.any
      (fun module =>
        failed ((evalDeclared { module := module } (Program.answer { module := module } 3) 3
          module ⟨module.id, ⟨["pick"]⟩⟩ [.integer 1, .integer 2]).outcome {}).1) = true := by
    decide +kernel
  obtain ⟨module, warnings, h, hfailed⟩ := Verdict.exists_success hfails
  have haccepted := Accepted.alone h
  have hargs : Request.Holds Closure.Written
      (.call ⟨module.id, ⟨["pick"]⟩⟩ [.integer 1, .integer 2]) := by
    simp [Request.Holds, Value.Holds]
  have hstore : Store.Holds Closure.Written {} := by
    simp [Store.Holds, Store.items]
  obtain ⟨error, hinside⟩ := exists_error_of_failed hfailed
  have herror := error_inFrame hinside ⟨module.id, ⟨["pick"]⟩⟩
  have hown := @answer_own { module := module } haccepted 3 ⟨["pick"]⟩ [.integer 1, .integer 2]
  rw [← hown] at herror
  exact ⟨module, _, haccepted, herror, no_undefinedVariable haccepted hargs hstore herror⟩

end TypedModules
