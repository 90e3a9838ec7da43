import Mathlib.Data.List.Forall2
import TypedModules.Eval.Basic

/-!
# What evaluation keeps

Evaluation is judged in a world that tells what the store may hold, and that grows while
evaluation creates list builders.  `Discipline.Keeps` says that an evaluation which starts
with a store that fits the world ends with one that fits a larger world, and with a value as
wanted, with an error that is allowed, or without fuel.  It is read along everything of which
evaluations are made.
-/

namespace TypedModules

/-- How an evaluation ends from a store, and the store that it leaves. -/
def Eval.outcome {α : Type} (run : Eval α) (store : Store) : Except Halt α × Store :=
  run store

/-- What stores may hold and with which errors evaluation may end. -/
structure Discipline where
  World : Type
  grows : World → World → Prop
  refl : ∀ world, grows world world
  trans : ∀ {first second third}, grows first second → grows second third → grows first third
  fits : World → Store → Prop
  allows : EvalCause → Prop

namespace Discipline

variable (discipline : Discipline)

/-- Whether an evaluation may end like this in a world, where `wanted` says which values are
wanted. -/
def Ends {α : Type} (wanted : α → Prop) : Except Halt α → Prop
  | .ok a => wanted a
  | .error (.error error) => discipline.allows error.cause
  | .error .outOfFuel => True

/-- Whether an evaluation keeps to the discipline from a world on, where `wanted` says which
values are wanted in which world. -/
def Keeps {α : Type} (world : discipline.World) (run : Eval α)
    (wanted : discipline.World → α → Prop) : Prop :=
  ∀ store, discipline.fits world store → ∃ after, discipline.grows world after
    ∧ discipline.fits after (run.outcome store).2
    ∧ discipline.Ends (wanted after) (run.outcome store).1

/-- Whether an evaluation that starts with one store keeps to the discipline. -/
def KeepsAt {α : Type} (world : discipline.World) (store : Store) (run : Eval α)
    (wanted : discipline.World → α → Prop) : Prop :=
  ∃ after, discipline.grows world after ∧ discipline.fits after (run.outcome store).2
    ∧ discipline.Ends (wanted after) (run.outcome store).1

variable {discipline : Discipline} {α β : Type} {world : discipline.World}

theorem Keeps.at {run : Eval α} {wanted : discipline.World → α → Prop}
    (h : discipline.Keeps world run wanted) {store : Store} (hfits : discipline.fits world store) :
  discipline.KeepsAt world store run wanted
  := h store hfits

theorem keeps_pure {a : α} {wanted : discipline.World → α → Prop} (h : wanted world a) :
  discipline.Keeps world (pure a) wanted
  := fun _ hfits => ⟨world, discipline.refl world, hfits, h⟩

theorem keeps_fail {cause : EvalCause} {wanted : discipline.World → α → Prop}
    (h : discipline.allows cause) :
  discipline.Keeps world (.fail cause) wanted
  := fun _ hfits => ⟨world, discipline.refl world, hfits, h⟩

theorem keeps_outOfFuel {wanted : discipline.World → α → Prop} :
  discipline.Keeps world (throw .outOfFuel) wanted
  := fun _ hfits => ⟨world, discipline.refl world, hfits, trivial⟩

theorem outcome_bind (run : Eval α) (next : α → Eval β) (store : Store) :
  (run >>= next).outcome store = match run.outcome store with
    | (.ok a, after) => (next a).outcome after
    | (.error halt, after) => (.error halt, after)
  := by
  show (match run store with | (x, s) => ExceptT.bindCont next x s) = _
  unfold Eval.outcome
  rcases run store with ⟨_ | _, _⟩ <;> rfl

/-- An evaluation that starts with one store and is followed by others keeps to the discipline if
both do, the second with the store that the first leaves. -/
theorem KeepsAt.bind {run : Eval α} {next : α → Eval β} {store : Store}
    {between : discipline.World → α → Prop} {wanted : discipline.World → β → Prop}
    (h : discipline.KeepsAt world store run between)
    (hnext : ∀ a left, run.outcome store = (.ok a, left) → ∀ after, discipline.grows world after →
      discipline.fits after left → between after a →
      discipline.KeepsAt after left (next a) wanted) :
  discipline.KeepsAt world store (run >>= next) wanted
  := by
  obtain ⟨after, hgrows, hafter, hends⟩ := h
  rw [KeepsAt, outcome_bind]
  rcases e : run.outcome store with ⟨halt | a, left⟩
  · rw [e] at hafter hends
    refine ⟨after, hgrows, hafter, ?_⟩
    cases halt with
    | error error => exact hends
    | outOfFuel => trivial
  · rw [e] at hafter hends
    obtain ⟨last, hgrows', hlast, hends'⟩ := hnext a left e after hgrows hafter hends
    exact ⟨last, discipline.trans hgrows hgrows', hlast, hends'⟩

/-- An evaluation followed by others keeps to the discipline if both do, the second in every
world that the first may leave. -/
theorem Keeps.bind {run : Eval α} {next : α → Eval β} {between : discipline.World → α → Prop}
    {wanted : discipline.World → β → Prop} (h : discipline.Keeps world run between)
    (hnext : ∀ after, discipline.grows world after → ∀ a, between after a →
      discipline.Keeps after (next a) wanted) :
  discipline.Keeps world (run >>= next) wanted
  := fun _ hfits => (h.at hfits).bind fun a _ _ after hgrows hafter ha =>
    (hnext after hgrows a ha).at hafter

theorem Keeps.imp {run : Eval α} {wanted wanted' : discipline.World → α → Prop}
    (h : discipline.Keeps world run wanted)
    (himp : ∀ after, discipline.grows world after → ∀ a, wanted after a → wanted' after a) :
  discipline.Keeps world run wanted'
  := by
  intro store hfits
  obtain ⟨after, hgrows, hafter, hends⟩ := h store hfits
  refine ⟨after, hgrows, hafter, ?_⟩
  rcases e : (run.outcome store).1 with halt | a <;> rw [e] at hends
  · cases halt <;> exact hends
  · exact himp after hgrows a hends

/-- What leaves the evaluation of an entity has the cause that it had inside. -/
theorem KeepsAt.inFrame {entity : Entity} {run : Eval α} {store : Store}
    {wanted : discipline.World → α → Prop} (h : discipline.KeepsAt world store run wanted) :
  discipline.KeepsAt world store (.inFrame entity run) wanted
  := by
  obtain ⟨after, hgrows, hafter, hends⟩ := h
  refine ⟨after, hgrows, ?_⟩
  unfold Eval.outcome Eval.inFrame at *
  rcases e : run store with ⟨halt | a, left⟩ <;> rw [e] at hafter hends
  · cases halt <;> exact ⟨hafter, hends⟩
  · exact ⟨hafter, hends⟩

theorem Keeps.inFrame {entity : Entity} {run : Eval α} {wanted : discipline.World → α → Prop}
    (h : discipline.Keeps world run wanted) :
  discipline.Keeps world (.inFrame entity run) wanted
  := fun _ hfits => (h.at hfits).inFrame

/-- A change of the store keeps to the discipline if the new store fits a larger world. -/
theorem keeps_modify {change : Store → Store} {wanted : discipline.World → PUnit → Prop}
    (h : ∀ store, discipline.fits world store → ∃ after, discipline.grows world after
      ∧ discipline.fits after (change store) ∧ wanted after ⟨⟩) :
  discipline.Keeps world (modify change) wanted
  := h

theorem keeps_ite {c : Prop} [Decidable c] {yes no : Eval α}
    {wanted : discipline.World → α → Prop} (hyes : c → discipline.Keeps world yes wanted)
    (hno : ¬c → discipline.Keeps world no wanted) :
  discipline.Keeps world (if c then yes else no) wanted
  := by
  split
  · exact hyes ‹_›
  · exact hno ‹_›

/-- What is evaluated for the items of a list, one after another. -/
theorem keeps_mapM {run : α → Eval β} {items : List α} {wanted : discipline.World → α → β → Prop}
    (hgrows : ∀ {first second}, discipline.grows first second → ∀ a b, wanted first a b →
      wanted second a b)
    (h : ∀ after, discipline.grows world after → ∀ item ∈ items,
      discipline.Keeps after (run item) fun last => wanted last item) :
  discipline.Keeps world (items.mapM run) fun after => List.Forall₂ (wanted after) items
  := by
  induction items generalizing world with
  | nil => exact keeps_pure .nil
  | cons item rest ih =>
    rw [List.mapM_cons]
    apply (h world (discipline.refl world) item List.mem_cons_self).bind
    intro after hafter b hb
    have hrest := ih fun last hlast other hother =>
      h last (discipline.trans hafter hlast) other (List.mem_cons_of_mem _ hother)
    apply hrest.bind
    intro last hlast bs hbs
    exact keeps_pure (.cons (hgrows hlast _ _ hb) hbs)

end Discipline
end TypedModules
