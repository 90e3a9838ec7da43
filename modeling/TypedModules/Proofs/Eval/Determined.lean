import TypedModules.Proofs.Eval.Executes
import TypedModules.Proofs.Eval.Script

/-!
# Evaluation is determined by what it asks for

An evaluation that starts with a store asks for some requests, each with the store that it has
left by then, and nothing else about the answers matters to it: with other answers that agree on
these requests and stores it ends in the same way, with the same store.  This holds of what follows
a script, and so of one step of a program: `determined_step`.
-/

namespace TypedModules

/-- Whether an evaluation that starts with a store asks for something when a store is left: it
breaks off with what is left there as soon as the answer there breaks off. -/
def Demands {α : Type} (run : (Request → Eval Value) → Eval α) (ask : Request → Eval Value)
    (start : Store) (request : Request) (store : Store) : Prop :=
  ∀ (other : Request → Eval Value) (left : Store),
    (∀ r s, r ≠ request ∨ s ≠ store → (other r).outcome s = (ask r).outcome s) →
    (other request).outcome store = (.error .outOfFuel, left) →
    (run other).outcome start = (.error .outOfFuel, left)

/-- What an evaluation of a value demands it asks for. -/
theorem demands_iff_asks {run : (Request → Eval Value) → Eval Value} {ask : Request → Eval Value}
    {start : Store} {request : Request} {store : Store} :
  Demands run ask start request store ↔ Asks run ask start request store
  := Iff.rfl

/-- Whether the outcome of an evaluation depends on no answers but those that it demands. -/
def Determined {α : Type} (run : (Request → Eval Value) → Eval α) : Prop :=
  ∀ (ask other : Request → Eval Value) (start : Store),
    (∀ request store, Demands run ask start request store →
      (other request).outcome store = (ask request).outcome store) →
    (run other).outcome start = (run ask).outcome start

section Determined

variable {α : Type}

/-- What a script asks for is demanded. -/
theorem Script.demands_of_mem_asked {ask : Request → Eval Value} {script : Script α}
    {start store : Store} {request : Request} (h : (request, store) ∈ script.asked ask start) :
  Demands (fun ask => script.run ask) ask start request store
  := by
  intro other left hsame hbreaks
  induction script generalizing start with
  | done result => cases h
  | ask first next ih =>
    rw [outcome_run_ask]
    by_cases e : first = request ∧ start = store
    · rw [e.1, e.2, hbreaks]
    · rw [hsame first start (not_and_or.mp e)]
      have hne : (request, store) ≠ (first, start) :=
        fun hp => e ⟨(Prod.mk.inj hp).1.symm, (Prod.mk.inj hp).2.symm⟩
      rw [asked, List.mem_cons] at h
      have h := h.resolve_left hne
      rcases hfirst : (ask first).outcome start with ⟨_ | answer, after⟩
      · rw [hfirst] at h
        cases h
      · rw [hfirst] at h
        exact ih answer h

/-- What follows a script is determined. -/
theorem Scripted.determined {run : (Request → Eval Value) → Eval α} (h : Scripted run) :
  Determined run
  := by
  obtain ⟨script, hscript⟩ := h
  obtain rfl : run = fun ask => script.run ask := funext hscript
  intro ask other start hagree
  apply Script.outcome_run_congr
  exact fun p hp => hagree p.1 p.2 (Script.demands_of_mem_asked hp)

theorem determined_const (run : Eval α) :
  Determined fun _ => run
  := fun _ _ _ _ => rfl

theorem determined_ask (request : Request) :
  Determined fun ask => ask request
  := (scripted_ask request).determined

theorem outcome_inFrame (entity : Entity) (run : Eval α) (store : Store) :
  (Eval.inFrame entity run).outcome store = match run.outcome store with
    | (.error (.error error), after) => (.error (.error (error.leaving entity)), after)
    | outcome => outcome
  := rfl

/-- Recording that an error leaves an entity demands nothing, and hides no demand. -/
theorem Demands.frame {run : (Request → Eval Value) → Eval α} {ask : Request → Eval Value}
    {start store : Store} {request : Request} (h : Demands run ask start request store)
    (framing : Request) :
  Demands (fun ask => framing.frame (run ask)) ask start request store
  := by
  intro other left hsame hbreaks
  cases framing with
  | call entity args =>
    show (Eval.inFrame entity (run other)).outcome start = _
    rw [outcome_inFrame, h other left hsame hbreaks]
  | apply binding args => exact h other left hsame hbreaks
  | literal type text => exact h other left hsame hbreaks

theorem Determined.frame {run : (Request → Eval Value) → Eval α} (h : Determined run)
    (framing : Request) :
  Determined fun ask => framing.frame (run ask)
  := by
  intro ask other start hagree
  have hrun := h ask other start fun request store hdemands =>
    hagree request store (hdemands.frame framing)
  cases framing with
  | call entity args =>
    show (Eval.inFrame entity (run other)).outcome start
      = (Eval.inFrame entity (run ask)).outcome start
    rw [outcome_inFrame, outcome_inFrame, hrun]
  | apply binding args => exact hrun
  | literal type text => exact hrun

/-- Answers that break off more often, and agree otherwise, lead to no other success. -/
theorem Determined.of_breaks {run : (Request → Eval Value) → Eval α} (h : Determined run)
    {ask other : Request → Eval Value}
    (hother : ∀ request store, (other request).outcome store = (ask request).outcome store
      ∨ ∃ left, (other request).outcome store = (.error .outOfFuel, left))
    {start after : Store} {a : α} (hok : (run other).outcome start = (.ok a, after)) :
  (run ask).outcome start = (.ok a, after)
  := by
  rw [← hok]
  refine h other ask start fun request store hdemands => ?_
  obtain hsame | ⟨left, hbreaks⟩ := hother request store
  · exact hsame.symm
  · rw [hdemands other left (fun _ _ _ => rfl) hbreaks] at hok
    cases hok

end Determined

/-! ### Programs -/

theorem determined_callBody (args : List Argument) (body : Block) (values : List Value) :
  Determined fun ask => callBody ask args body values
  := (scripted_callBody args body values).determined

/-- What answering a request asks for in order, it asks for. -/
theorem AsksFor.asks {program : Program} {fuel : Nat} {request : Request}
    {ask : Request → Eval Value} {store : Store} {asked : List (Request × Store)}
    (h : AsksFor (program.body fuel · request) ask store asked) {p : Request × Store}
    (hp : p ∈ asked) :
  Asks (program.step fuel · request) ask store p.1 p.2
  := by
  obtain ⟨script, hscript, rfl⟩ := h
  have hdemands := (Script.demands_of_mem_asked hp).frame request
  simp only [← hscript, ← Program.step_eq] at hdemands
  exact hdemands

/-- One step of a program is determined by the answers that it asks for. -/
theorem determined_step (program : Program) (fuel : Nat) (request : Request) :
  Determined fun ask => program.step fuel ask request
  := by
  simp only [Program.step_eq]
  apply Determined.frame
  rcases h : program.builderCall? request with _ | ⟨function, args⟩
  · exact (scripted_body fuel h).determined
  · simp only [Program.body_of_builderCall? h fuel _ (fun _ => throw .outOfFuel) fuel]
    exact determined_const _

end TypedModules
