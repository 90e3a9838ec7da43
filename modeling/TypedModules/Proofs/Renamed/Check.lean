import TypedModules.Proofs.Check.Outcome
import TypedModules.Proofs.Renamed.Tree

/-!
# Checks that mirror each other

Two checks mirror each other if the second has the result of the first, in the other's words, and
emits diagnostics of the same kinds in the same order.  A check is told whether an error was emitted
before it; the two are compared where both are told the same, or whatever they are told where it is
settled that neither stands behind a declaration that failed.  Where no module is renamed the texts
of the diagnostics are the same too.
-/

namespace TypedModules

/-- Whether two diagnostics are of one kind, and equal if no module is renamed. -/
structure Diagnostic.Mirrors (σ : Renaming) (diagnostic other : Diagnostic) : Prop where
  severity : other.severity = diagnostic.severity
  code : other.code = diagnostic.code
  same : σ = .refl → other = diagnostic

namespace Diagnostic

theorem Mirrors.refl (σ : Renaming) (diagnostic : Diagnostic) :
  diagnostic.Mirrors σ diagnostic
  := ⟨rfl, rfl, fun _ => rfl⟩

theorem Mirrors.isError_eq {σ : Renaming} {diagnostic other : Diagnostic}
    (h : diagnostic.Mirrors σ other) :
  other.isError = diagnostic.isError
  := by
  rw [isError, isError, h.severity]

/-- What is emitted in one place in mirroring checks: errors of one code. -/
theorem mirrors_error {σ : Renaming} (code : Code) (location : Option Location)
    {message other : String} (h : σ = .refl → other = message) :
  ((error code message).labelled location "here").Mirrors σ
    ((error code other).labelled location "here")
  := ⟨rfl, rfl, fun hσ => by rw [h hσ]⟩

end Diagnostic

namespace Check

variable {α β γ δ : Type} {σ : Renaming} {settled : Prop}

/-- Whether two logs hold diagnostics of the same kinds in the same order. -/
def LogsMirror (σ : Renaming) (log other : List Diagnostic) : Prop :=
  List.Forall₂ (Diagnostic.Mirrors σ) log other

theorem LogsMirror.refl (σ : Renaming) (log : List Diagnostic) :
  LogsMirror σ log log
  := List.forall₂_same.mpr fun diagnostic _ => .refl σ diagnostic

theorem LogsMirror.hasError_eq {log other : List Diagnostic} (h : LogsMirror σ log other) :
  hasError other = hasError log
  := hasError_of_forall₂ (h.imp fun _ _ hd => hd.isError_eq)

/-- Whether the second check has the result of the first, as `f` renames it, and emits what the
first emits. -/
def Mirrors (σ : Renaming) (settled : Prop) (f : α → β) (check : Check α) (other : Check β) :
    Prop :=
  ∀ behind behind', behind = behind' ∨ settled →
    (other behind').1 = (check behind).1.map f ∧ LogsMirror σ (check behind).2 (other behind').2

theorem mirrors_pure {f : α → β} {a : α} {b : β} (h : b = f a) :
  Mirrors σ settled f (pure a) (pure b)
  := fun _ _ _ => ⟨congrArg some h, .nil⟩

/-- What follows mirroring checks mirrors each other if it does for every result of the first. -/
theorem Mirrors.bind_of {f : α → β} {g : γ → δ} {check : Check α} {other : Check β}
    {next : α → Check γ} {next' : β → Check δ} (h : Mirrors σ settled f check other)
    (hnext : ∀ behind a, (check behind).1 = some a → Mirrors σ settled g (next a) (next' (f a))) :
  Mirrors σ settled g (check >>= next) (other >>= next')
  := by
  intro behind behind' hbehind
  obtain ⟨hresult, hlog⟩ := h behind behind' hbehind
  have hnext := hnext behind
  rw [run_bind, run_bind]
  generalize check behind = run at hresult hlog hnext ⊢
  generalize other behind' = run' at hresult hlog ⊢
  obtain ⟨result, log⟩ := run
  obtain ⟨result', log'⟩ := run'
  dsimp only at hresult hlog
  subst hresult
  cases result with
  | none => exact ⟨rfl, hlog⟩
  | some a =>
    have hafter : (behind || hasError log) = (behind' || hasError log') ∨ settled := by
      rw [hlog.hasError_eq]
      exact hbehind.imp_left fun e => by rw [e]
    obtain ⟨hnextResult, hnextLog⟩ := hnext a rfl _ _ hafter
    exact ⟨hnextResult, List.rel_append hlog hnextLog⟩

theorem Mirrors.bind {f : α → β} {g : γ → δ} {check : Check α} {other : Check β}
    {next : α → Check γ} {next' : β → Check δ} (h : Mirrors σ settled f check other)
    (hnext : ∀ a, Mirrors σ settled g (next a) (next' (f a))) :
  Mirrors σ settled g (check >>= next) (other >>= next')
  := h.bind_of fun _ a _ => hnext a

theorem mirrors_abort {f : α → β} :
  Mirrors σ settled f abort abort
  := fun _ _ _ => ⟨rfl, .nil⟩

theorem mirrors_emit {diagnostic other : Diagnostic} (h : diagnostic.Mirrors σ other) :
  Mirrors σ settled id (emit diagnostic) (emit other)
  := fun _ _ _ => ⟨rfl, .cons h .nil⟩

/-- A check that does not depend on what it is told mirrors itself. -/
theorem mirrors_report (code : Code) (location : Option Location) {message other : String}
    (h : σ = .refl → other = message) :
  Mirrors σ settled id (report code location message) (report code location other)
  := mirrors_emit (Diagnostic.mirrors_error code location h)

theorem mirrors_fail {f : α → β} (code : Code) (location : Option Location)
    {message other : String} (h : σ = .refl → other = message) :
  Mirrors σ settled f (fail code location message) (fail code location other)
  := (mirrors_report code location h).bind fun _ => mirrors_abort

theorem mirrors_warn (code : Code) (location : Option Location) (message : String) :
  Mirrors σ settled id (warn code location message) (warn code location message)
  := mirrors_emit (.refl σ _)

/-- Where nothing is settled, two checks stand behind the same error or neither does. -/
theorem mirrors_failBehind {f : α → β} (h : ¬settled) (message : String) :
  Mirrors σ settled f (failBehind message) (failBehind message)
  := by
  intro behind behind' hbehind
  obtain rfl := hbehind.resolve_right h
  cases behind
  · exact ⟨rfl, .refl σ _⟩
  · exact ⟨rfl, .refl σ _⟩

theorem mirrors_ite {f : α → β} {c c' : Prop} [Decidable c] [Decidable c'] {yes no : Check α}
    {yes' no' : Check β} (hc : c' ↔ c) (hyes : Mirrors σ settled f yes yes')
    (hno : Mirrors σ settled f no no') :
  Mirrors σ settled f (if c then yes else no) (if c' then yes' else no')
  := by
  by_cases h : c
  · rwa [if_pos h, if_pos (hc.mpr h)]
  · rwa [if_neg h, if_neg (mt hc.mp h)]

/-- Checks after a test that fails if a condition holds. -/
theorem mirrors_guard {f : α → β} {c c' : Prop} [Decidable c] [Decidable c'] {code : Code}
    {location : Option Location} {message message' : String} {check : Check α} {other : Check β}
    (hc : c' ↔ c) (hmessage : σ = .refl → message' = message)
    (h : Mirrors σ settled f check other) :
  Mirrors σ settled f
    (if c then (fail code location message : Check γ) >>= fun _ => check else check)
    (if c' then (fail code location message' : Check γ) >>= fun _ => other else other)
  := mirrors_ite hc
    ((mirrors_fail code location hmessage : Mirrors σ settled id _ _).bind fun _ => h) h

/-- Checks after a test that fails unless a condition holds. -/
theorem mirrors_unless {f : α → β} {c c' : Prop} [Decidable c] [Decidable c'] {code : Code}
    {location : Option Location} {message message' : String} {check : Check α} {other : Check β}
    (hc : c' ↔ c) (hmessage : σ = .refl → message' = message)
    (h : Mirrors σ settled f check other) :
  Mirrors σ settled f
    (if c then check else (fail code location message : Check γ) >>= fun _ => check)
    (if c' then other else (fail code location message' : Check γ) >>= fun _ => other)
  := mirrors_ite hc h
    ((mirrors_fail code location hmessage : Mirrors σ settled id _ _).bind fun _ => h)

/-- Checks after a test that reports a problem and goes on. -/
theorem mirrors_warn_then {f : α → β} {c c' : Prop} [Decidable c] [Decidable c']
    {test test' : Check Unit} {check : Check α} {other : Check β} (hc : c' ↔ c)
    (htest : Mirrors σ settled id test test') (h : Mirrors σ settled f check other) :
  Mirrors σ settled f (if c then test >>= fun _ => check else check)
    (if c' then test' >>= fun _ => other else other)
  := mirrors_ite hc (htest.bind fun _ => h) h

theorem Mirrors.mapM {f : α → β} {check : γ → Check α} {other : γ → Check β} {items : List γ}
    (h : ∀ item ∈ items, Mirrors σ settled f (check item) (other item)) :
  Mirrors σ settled (List.map f) (items.mapM check) (items.mapM other)
  := by
  induction items with
  | nil => exact mirrors_pure rfl
  | cons item rest ih =>
    rw [List.forall_mem_cons] at h
    rw [List.mapM_cons, List.mapM_cons]
    apply h.1.bind
    intro a
    apply (ih h.2).bind
    intro as
    exact mirrors_pure rfl

theorem Mirrors.forM {check other : γ → Check Unit} {items : List γ}
    (h : ∀ item ∈ items, Mirrors σ settled id (check item) (other item)) :
  Mirrors σ settled id (items.forM check) (items.forM other)
  := by
  induction items with
  | nil => exact mirrors_pure rfl
  | cons item rest ih =>
    rw [List.forall_mem_cons] at h
    exact h.1.bind fun _ => ih h.2

theorem Mirrors.attempt {f : α → β} {check : Check α} {other : Check β}
    (h : Mirrors σ settled f check other) :
  Mirrors σ settled (Option.map f) (attempt check) (attempt other)
  := by
  intro behind behind' hbehind
  obtain ⟨hresult, hlog⟩ := h behind behind' hbehind
  exact ⟨congrArg some hresult, hlog⟩

theorem Mirrors.collect {f : α → β} {check : γ → Check α} {other : γ → Check β} {items : List γ}
    (h : ∀ item ∈ items, Mirrors σ settled f (check item) (other item)) :
  Mirrors σ settled (List.map f) (collect check items) (collect other items)
  := by
  induction items with
  | nil => exact mirrors_pure rfl
  | cons item rest ih =>
    rw [List.forall_mem_cons] at h
    apply h.1.attempt.bind
    intro first
    apply (ih h.2).bind
    intro others
    apply mirrors_pure
    cases first <;> rfl

end Check
end TypedModules
