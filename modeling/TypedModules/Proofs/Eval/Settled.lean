import TypedModules.Proofs.Eval.Mirrors

/-!
# More fuel

An evaluation that ends does so in the same way with more fuel: what follows a script ends as it did
if its answers do, and nothing but a search without end is bounded by the fuel otherwise.  So what
ends with some fuel settles: `settles_of_answer` for the answers to requests, and
`settles_of_runNative` for native functions that are called directly.
-/

namespace TypedModules

section Settles

variable {α β : Type} {store left : Store}

theorem Settles.unique {run : Nat → Eval α} {outcome outcome' : Except Halt α × Store}
    (h : Settles run store outcome) (h' : Settles run store outcome') :
  outcome = outcome'
  := by
  obtain ⟨enough, h⟩ := h
  obtain ⟨enough', h'⟩ := h'
  rw [← h _ (Nat.le_max_left enough enough'), h' _ (Nat.le_max_right enough enough')]

/-- What evaluations settle on one after the other, they settle on together. -/
theorem Settles.bind {run : Nat → Eval α} {next : Nat → α → Eval β} {a : α}
    {outcome : Except Halt β × Store} (h : Settles run store (.ok a, left))
    (hnext : Settles (fun fuel => next fuel a) left outcome) :
  Settles (fun fuel => run fuel >>= next fuel) store outcome
  := by
  obtain ⟨enough, h⟩ := h
  obtain ⟨enough', hnext⟩ := hnext
  use max enough enough'
  intro fuel hfuel
  rw [Discipline.outcome_bind, h fuel (by omega)]
  apply hnext fuel (by omega)

/-- What ends early is not followed by anything. -/
theorem Settles.bind_error {run : Nat → Eval α} {halt : Halt}
    (h : Settles run store (.error halt, left)) (next : Nat → α → Eval β) :
  Settles (fun fuel => run fuel >>= next fuel) store (.error halt, left)
  := by
  obtain ⟨enough, h⟩ := h
  use enough
  intro fuel hfuel
  rw [Discipline.outcome_bind, h fuel hfuel]

theorem settles_pure (a : α) (store : Store) :
  Settles (fun _ => pure a) store (.ok a, store)
  := ⟨0, fun _ _ => rfl⟩

end Settles

/-! ### Evaluations that end as others do -/

/-- Whether an evaluation ends as another does, wherever that one does not run out of fuel. -/
def Eval.Extends {α : Type} (longer run : Eval α) : Prop :=
  ∀ store, (run.outcome store).1 ≠ .error .outOfFuel → longer.outcome store = run.outcome store

section Extends

variable {α β : Type} {run longer : Eval α}

theorem Eval.Extends.refl (run : Eval α) :
  run.Extends run
  := fun _ _ => rfl

theorem Eval.Extends.trans {longest : Eval α} (h : longest.Extends longer)
    (h' : longer.Extends run) :
  longest.Extends run
  := by
  intro store hends
  have hlonger := h' store hends
  rw [h store (hlonger ▸ hends), hlonger]

theorem Eval.Extends.bind {next next' : α → Eval β} (h : longer.Extends run)
    (hnext : ∀ a, (next' a).Extends (next a)) :
  (longer >>= next').Extends (run >>= next)
  := by
  intro store hends
  rw [Discipline.outcome_bind] at hends
  have hfirst : (run.outcome store).1 ≠ .error .outOfFuel := by
    rcases e : run.outcome store with ⟨halt | a, after⟩
    · intro hfuel
      obtain rfl : halt = .outOfFuel := Except.error.inj hfuel
      rw [e] at hends
      exact hends rfl
    · exact nofun
  rw [Discipline.outcome_bind, Discipline.outcome_bind, h store hfirst]
  rcases e : run.outcome store with ⟨halt | a, after⟩
  · rfl
  · rw [e] at hends
    apply hnext a after hends

theorem Eval.Extends.frame (h : longer.Extends run) (framing : Request) :
  (framing.frame longer).Extends (framing.frame run)
  := by
  intro store hends
  cases framing with
  | call entity args =>
    have hframe : ∀ run : Eval α, ((Request.call entity args).frame run).outcome store
        = (Eval.inFrame entity run).outcome store := fun _ => rfl
    rw [hframe, outcome_inFrame] at hends
    rw [hframe, hframe, outcome_inFrame, outcome_inFrame, h store]
    rintro e
    rcases hrun : run.outcome store with ⟨result, after⟩
    rw [hrun] at hends e
    obtain rfl : result = .error .outOfFuel := e
    exact hends rfl
  | apply binding args => exact h store hends
  | literal type text => exact h store hends

/-- Where the answers end as others do, so does what follows a script. -/
theorem Script.run_extends {ask other : Request → Eval Value}
    (h : ∀ request, (other request).Extends (ask request)) (script : Script α) :
  (script.run other).Extends (script.run ask)
  := by
  induction script with
  | done result => exact .refl _
  | ask request next ih => exact (h request).bind ih

end Extends

namespace NativeFunction

/-- A search with more fuel. -/
theorem search_extends (next holds : List Value → Eval Value) {fuel more : Nat}
    (hle : fuel ≤ more) (value : Value) :
  (search next holds more value).Extends (search next holds fuel value)
  := by
  induction fuel generalizing more value with
  | zero => exact fun store hends => absurd rfl hends
  | succ fuel ih =>
    obtain ⟨more, rfl⟩ : ∃ n, more = n + 1 := ⟨more - 1, by omega⟩
    refine (Eval.Extends.refl _).bind fun found => (Eval.Extends.refl _).bind fun stop => ?_
    cases stop with
    | true => exact .refl _
    | false => exact (Eval.Extends.refl _).bind fun value => ih (by omega) value

variable {ask other : Request → Eval Value} {fuel more : Nat}

theorem run_extends_fuel (ask : Request → Eval Value) (hle : fuel ≤ more)
    (function : NativeFunction) (args : List Value) :
  (function.run ask more args).Extends (function.run ask fuel args)
  := by
  cases function
  case sequenceFirst =>
    refine (Eval.Extends.refl _).bind fun (sequence, holds) => ?_
    refine (Eval.Extends.refl _).bind fun (base, next) => ?_
    exact (Eval.Extends.refl _).bind fun holds => search_extends _ _ hle base
  all_goals exact .refl _

/-- The value of a native function with more fuel, and with answers that end as others do. -/
theorem run_extends (hle : fuel ≤ more) (h : ∀ request, (other request).Extends (ask request))
    (function : NativeFunction) (args : List Value) :
  (function.run other more args).Extends (function.run ask fuel args)
  := by
  apply (function.run_extends_fuel other hle args).trans
  rcases hbuilder : function.isBuilder with _ | _
  · obtain ⟨script, hscript⟩ := scripted_run fuel hbuilder args
    have hanswers := script.run_extends h
    rwa [← hscript, ← hscript] at hanswers
  · rw [run_congr (not_isHigherOrder hbuilder) other ask fuel fuel]
    exact .refl _

end NativeFunction

/-! ### Programs -/

section Programs

variable {program : Program} {ask other : Request → Eval Value} {fuel more : Nat}

theorem evalEntity_extends_fuel (hle : fuel ≤ more) (entity : Entity) (args : List Value) :
  (evalEntity program ask more entity args).Extends (evalEntity program ask fuel entity args)
  := by
  unfold evalEntity evalNative evalDeclared
  by_cases hnative : entity.module.isNative = true
  · simp only [if_pos hnative]
    cases nativeDefinitions.struct? entity.id with
    | some header => exact .refl _
    | none =>
      cases NativeFunction.ofId? entity.id with
      | none => exact .refl _
      | some function => exact NativeFunction.run_extends_fuel ask hle function args
  · simp only [if_neg hnative]
    cases program.module.find? entity.module with
    | none => exact .refl _
    | some module =>
      dsimp only
      cases module.function? entity.id with
      | none => exact .refl _
      | some function =>
        dsimp only
        cases program.override? entity with
        | none => exact .refl _
        | some native => exact NativeFunction.run_extends_fuel ask hle native args

/-- Answering a request with more fuel, and with answers that end as others do. -/
theorem body_extends (hle : fuel ≤ more) (h : ∀ request, (other request).Extends (ask request))
    (request : Request) :
  (program.body more other request).Extends (program.body fuel ask request)
  := by
  rcases hcall : program.builderCall? request with _ | ⟨function, args⟩
  · obtain ⟨script, hscript⟩ := scripted_body fuel hcall
    have hanswers := script.run_extends h
    rw [← hscript, ← hscript] at hanswers
    refine .trans ?_ hanswers
    cases request with
    | call entity args => exact evalEntity_extends_fuel hle entity args
    | apply binding args => exact .refl _
    | literal type text => exact .refl _
  · rw [Program.body_of_builderCall? hcall more other ask fuel,
      Program.body_of_builderCall? hcall fuel ask ask fuel]
    exact .refl _

/-- The answer to a request with more fuel. -/
theorem answer_extends (hle : fuel ≤ more) (request : Request) :
  (program.answer more request).Extends (program.answer fuel request)
  := by
  induction fuel generalizing more request with
  | zero => exact fun store hends => absurd rfl hends
  | succ fuel ih =>
    obtain ⟨more, rfl⟩ : ∃ n, more = n + 1 := ⟨more - 1, by omega⟩
    rw [Program.answer, Program.answer, Program.step_eq, Program.step_eq]
    exact (body_extends (by omega) (ih (by omega)) request).frame request

/-- The value of a native function with more fuel. -/
theorem runNative_extends (hle : fuel ≤ more) (function : NativeFunction) (args : List Value) :
  (program.runNative more function args).Extends (program.runNative fuel function args)
  := function.run_extends hle (answer_extends hle) args

/-- What ends with some fuel settles. -/
theorem settles_of_extends {α : Type} {run : Nat → Eval α}
    (h : ∀ more, fuel ≤ more → (run more).Extends (run fuel)) {store after : Store}
    {result : Except Halt α} (hends : result ≠ .error .outOfFuel)
    (hrun : (run fuel).outcome store = (result, after)) :
  Settles run store (result, after)
  := by
  use fuel
  intro more hle
  rw [h more hle store (by rwa [hrun]), hrun]

/-- The answer to a request settles once it ends. -/
theorem settles_of_answer {request : Request} {store after : Store} {result : Except Halt Value}
    (hends : result ≠ .error .outOfFuel)
    (h : (program.answer fuel request).outcome store = (result, after)) :
  Settles (fun fuel => program.answer fuel request) store (result, after)
  := settles_of_extends (fun _ hle => answer_extends hle request) hends h

/-- The value of a native function that is called directly settles once it ends. -/
theorem settles_of_runNative {function : NativeFunction} {args : List Value} {store after : Store}
    {result : Except Halt Value} (hends : result ≠ .error .outOfFuel)
    (h : (program.runNative fuel function args).outcome store = (result, after)) :
  Settles (fun fuel => program.runNative fuel function args) store (result, after)
  := settles_of_extends (fun _ hle => runNative_extends hle function args) hends h

end Programs

end TypedModules
