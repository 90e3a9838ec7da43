import Mathlib.Data.List.Forall2
import TypedModules.Check.Module

/-!
# Outcomes of checks

A check is run for its result and for its errors, and the result counts only when no error
was emitted.  `Check.Passes` says that a check emits no error and has a given result, and
`Check.Loud` that it has a result unless it emits an error.  Both are read along everything
of which checks are made, so that what `validate` accepts passed each of its parts.
-/

namespace TypedModules
namespace Check

theorem hasError_append (a b : List Diagnostic) :
  hasError (a ++ b) = (hasError a || hasError b)
  := by
  simp [hasError]

/-- Logs whose diagnostics are errors at the same places both hold an error, or neither does. -/
theorem hasError_of_forall₂ {log other : List Diagnostic}
    (h : List.Forall₂ (fun diagnostic other => other.isError = diagnostic.isError) log other) :
  hasError other = hasError log
  := by
  induction h with
  | nil => rfl
  | cons hd _ ih =>
    rw [hasError] at ih
    simp only [hasError, List.any_cons, hd, ih]

/-! ### The laws of the monad -/

theorem run_pure {α : Type} (a : α) (behind : Bool) :
  (pure a : Check α) behind = (some a, [])
  := rfl

theorem run_bind {α β : Type} (check : Check α) (next : α → Check β) (behind : Bool) :
  (check >>= next) behind = match check behind with
    | (none, log) => (none, log)
    | (some a, log) =>
      ((next a (behind || hasError log)).1, log ++ (next a (behind || hasError log)).2)
  := rfl

theorem id_map_check {α : Type} (check : Check α) :
  id <$> check = check
  := by
  funext behind
  show (check >>= fun a => pure a) behind = check behind
  rw [run_bind]
  rcases check behind with ⟨_ | a, log⟩ <;> simp [run_pure]

theorem pure_bind_check {α β : Type} (a : α) (next : α → Check β) :
  pure a >>= next = next a
  := by
  funext behind
  rw [run_bind, run_pure]
  simp [hasError]

/-- Whatever is behind the first two of three checks is behind the third. -/
theorem bind_assoc_check {α β γ : Type} (check : Check α) (next : α → Check β)
    (after : β → Check γ) :
  check >>= next >>= after = check >>= fun a => next a >>= after
  := by
  funext behind
  simp only [run_bind]
  rcases check behind with ⟨_ | a, log⟩
  · rfl
  · dsimp only
    rcases next a (behind || hasError log) with ⟨_ | b, more⟩
    · rfl
    · simp [hasError_append, Bool.or_assoc]

instance : LawfulMonad Check :=
  LawfulMonad.mk' Check id_map_check pure_bind_check bind_assoc_check

/-! ### Passing checks -/

/-- Whether a check passes with a result: nothing stands before it and it emits no error. -/
def Passes {α : Type} (check : Check α) (a : α) : Prop :=
  hasError (check false).2 = false ∧ (check false).1 = some a

section Passes

variable {α β : Type}

@[simp]
theorem passes_pure {a b : α} :
  (pure a : Check α).Passes b ↔ a = b
  := by
  simp [Passes, run_pure, hasError]

/-- A check followed by another passes if both pass. -/
@[simp]
theorem passes_bind {check : Check α} {next : α → Check β} {b : β} :
  (check >>= next).Passes b ↔ ∃ a, check.Passes a ∧ (next a).Passes b
  := by
  unfold Passes
  rw [run_bind]
  rcases check false with ⟨_ | a, log⟩
  · simp
  · cases he : hasError log <;> simp [hasError_append, he]

@[simp]
theorem passes_map {check : Check α} {f : α → β} {b : β} :
  (f <$> check).Passes b ↔ ∃ a, check.Passes a ∧ f a = b
  := by
  rw [map_eq_pure_bind, passes_bind]
  simp only [passes_pure]

@[simp]
theorem passes_ite {c : Prop} [Decidable c] {yes no : Check α} {a : α} :
  (if c then yes else no).Passes a ↔ (c → yes.Passes a) ∧ (¬c → no.Passes a)
  := by
  split <;> simp_all

@[simp]
theorem passes_emit {diagnostic : Diagnostic} {a : Unit} :
  (emit diagnostic).Passes a ↔ diagnostic.isError = false
  := by
  simp [Passes, emit, hasError]

@[simp]
theorem not_passes_abort (a : α) :
  ¬(abort : Check α).Passes a
  := by
  simp [Passes, abort, ofResult]

@[simp]
theorem not_passes_report (code : Code) (location : Option Location) (message : String)
    (a : Unit) :
  ¬(report code location message).Passes a
  := by
  cases location <;> simp [report] <;> rfl

@[simp]
theorem not_passes_fail (code : Code) (location : Option Location) (message : String) (a : α) :
  ¬(fail code location message : Check α).Passes a
  := by
  simp [fail]

/-- A check after a test that fails if a condition holds. -/
theorem passes_guard {c : Prop} [Decidable c] {code : Code} {location : Option Location}
    {message : String} {check : Check β} {b : β} :
  (if c then (fail code location message : Check α) >>= fun _ => check else check).Passes b
    ↔ ¬c ∧ check.Passes b
  := by
  split <;> simp_all

/-- A check after a test that fails unless a condition holds. -/
theorem passes_unless {c : Prop} [Decidable c] {code : Code} {location : Option Location}
    {message : String} {check : Check β} {b : β} :
  (if c then check else (fail code location message : Check α) >>= fun _ => check).Passes b
    ↔ c ∧ check.Passes b
  := by
  split <;> simp_all

@[simp]
theorem not_passes_failBehind (message : String) (a : α) :
  ¬(failBehind message : Check α).Passes a
  := by
  simp [failBehind]

theorem passes_mapM {check : α → Check β} {items : List α} {results : List β} :
  (items.mapM check).Passes results
    ↔ List.Forall₂ (fun item result => (check item).Passes result) items results
  := by
  induction items generalizing results with
  | nil => cases results <;> simp
  | cons item rest ih =>
    cases results with
    | nil => simp [List.mapM_cons]
    | cons result results =>
      simp only [List.mapM_cons, passes_bind, passes_pure, List.forall₂_cons, ← ih]
      constructor
      · rintro ⟨a, ha, as, has, e⟩
        cases e
        exact ⟨ha, has⟩
      · rintro ⟨ha, has⟩
        exact ⟨result, ha, results, has, rfl⟩

theorem passes_forM {check : α → Check Unit} {items : List α} {a : Unit} :
  (items.forM check).Passes a ↔ ∀ item ∈ items, (check item).Passes ()
  := by
  induction items with
  | nil => simp
  | cons item rest ih =>
    show (check item >>= fun _ => rest.forM check).Passes a ↔ _
    rw [passes_bind, List.forall_mem_cons, ← ih]
    exact ⟨fun ⟨_, h⟩ => h, fun h => ⟨(), h⟩⟩

end Passes

/-! ### Loud checks -/

/-- Whether a check with no error before it either emits an error or passes. -/
def Loud {α : Type} (check : Check α) : Prop :=
  hasError (check false).2 = true ∨ ∃ a, check.Passes a

section Loud

variable {α β : Type}

/-- What passes if it does not emit an error is loud. -/
theorem loud_of_passes {check : Check α}
    (h : hasError (check false).2 = false → ∃ a, check.Passes a) :
  check.Loud
  := by
  cases he : hasError (check false).2 with
  | true => exact .inl he
  | false => exact .inr (h he)

@[simp]
theorem loud_pure (a : α) :
  (pure a : Check α).Loud
  := .inr ⟨a, passes_pure.mpr rfl⟩

/-- A loud check may be followed by one that is loud if the first passes. -/
theorem Loud.bind {check : Check α} {next : α → Check β} (h : check.Loud)
    (hnext : ∀ a, check.Passes a → (next a).Loud) :
  (check >>= next).Loud
  := by
  obtain he | ⟨a, ha⟩ := h
  · apply Or.inl
    rw [run_bind]
    rcases e : check false with ⟨_ | a, log⟩ <;> simp_all [hasError_append]
  · obtain hn | ⟨b, hb⟩ := hnext a ha
    · apply Or.inl
      rw [run_bind, show check false = (some a, (check false).2) from Prod.ext ha.2 rfl]
      simp [hasError_append, ha.1, hn]
    · exact .inr ⟨b, passes_bind.mpr ⟨a, ha, hb⟩⟩

@[simp]
theorem loud_emit (diagnostic : Diagnostic) :
  (emit diagnostic).Loud
  := by
  apply loud_of_passes
  intro h
  exact ⟨(), h, rfl⟩

@[simp]
theorem loud_report (code : Code) (location : Option Location) (message : String) :
  (report code location message).Loud
  := loud_emit _

@[simp]
theorem loud_fail (code : Code) (location : Option Location) (message : String) :
  (fail code location message : Check α).Loud
  := (loud_report code location message).bind fun _ h =>
    absurd h (not_passes_report _ _ _ _)

@[simp]
theorem loud_failBehind (message : String) :
  (failBehind message : Check α).Loud
  := by
  have h : isBehind.Loud := .inr ⟨false, rfl, rfl⟩
  apply h.bind
  rintro _ ⟨-, h⟩
  cases h
  exact (loud_report _ _ _).bind fun _ h => absurd h (not_passes_report _ _ _ _)

theorem loud_ite {c : Prop} [Decidable c] {yes no : Check α} (hyes : c → yes.Loud)
    (hno : ¬c → no.Loud) :
  (if c then yes else no).Loud
  := by
  split
  · exact hyes ‹_›
  · exact hno ‹_›

/-- A check after a test that fails if a condition holds. -/
theorem loud_guard {c : Prop} [Decidable c] {code : Code} {location : Option Location}
    {message : String} {check : Check β} (h : ¬c → check.Loud) :
  (if c then (fail code location message : Check α) >>= fun _ => check else check).Loud
  := loud_ite (fun _ => (loud_fail _ _ _).bind fun _ h => absurd h (not_passes_fail _ _ _ _)) h

/-- A check after a test that fails unless a condition holds. -/
theorem loud_unless {c : Prop} [Decidable c] {code : Code}
    {location : Option Location} {message : String} {check : Check β} (h : c → check.Loud) :
  (if c then check else (fail code location message : Check α) >>= fun _ => check).Loud
  := loud_ite h fun _ => (loud_fail _ _ _).bind fun _ h => absurd h (not_passes_fail _ _ _ _)

/-- A check after a test that reports a problem and goes on. -/
theorem loud_warn_then {c : Prop} [Decidable c] {test : Check α} {check : Check β}
    (htest : test.Loud) (h : check.Loud) :
  (if c then test >>= fun _ => check else check).Loud
  := loud_ite (fun _ => htest.bind fun _ _ => h) fun _ => h

theorem loud_mapM {check : α → Check β} {items : List α} (h : ∀ item ∈ items, (check item).Loud) :
  (items.mapM check).Loud
  := by
  induction items with
  | nil => exact loud_pure []
  | cons item rest ih =>
    simp only [List.forall_mem_cons] at h
    rw [List.mapM_cons]
    apply h.1.bind
    intro b _
    apply (ih h.2).bind
    intro bs _
    exact loud_pure (b :: bs)

theorem loud_forM {check : α → Check Unit} {items : List α}
    (h : ∀ item ∈ items, (check item).Loud) :
  (items.forM check).Loud
  := by
  induction items with
  | nil => exact loud_pure ()
  | cons item rest ih =>
    simp only [List.forall_mem_cons] at h
    exact h.1.bind fun _ _ => ih h.2

/-- Of what loud checks collect without an error none is lost. -/
theorem passes_collect {check : α → Check β} {items : List α} {results : List β}
    (hloud : ∀ item ∈ items, (check item).Loud) (h : (collect check items).Passes results) :
  List.Forall₂ (fun item result => (check item).Passes result) items results
  := by
  induction items generalizing results with
  | nil =>
    obtain rfl := passes_pure.mp h
    exact .nil
  | cons item rest ih =>
    simp only [List.forall_mem_cons] at hloud
    simp only [collect, passes_bind, passes_pure] at h
    obtain ⟨first, ⟨hlog, hfirst⟩, others, hothers, rfl⟩ := h
    obtain he | ⟨b, hb⟩ := hloud.1
    · exact absurd he (by simpa [attempt] using hlog)
    · obtain rfl : some b = first := by simpa [attempt, hb.2] using hfirst
      exact .cons hb (ih hloud.2 hothers)

theorem loud_collect {check : α → Check β} {items : List α}
    (h : ∀ item ∈ items, (check item).Loud) :
  (collect check items).Loud
  := by
  induction items with
  | nil => exact loud_pure []
  | cons item rest ih =>
    simp only [List.forall_mem_cons] at h
    have hfirst : (attempt (check item)).Loud := by
      apply loud_of_passes
      intro he
      exact ⟨_, he, rfl⟩
    apply hfirst.bind
    intro first _
    apply (ih h.2).bind
    intro others _
    exact loud_pure _

end Loud

end Check

namespace Sink

theorem errorCount_emit (sink : Sink) (diagnostic : Diagnostic) :
  (sink.emit diagnostic).errorCount
    = sink.errorCount + if diagnostic.isError then 1 else 0
  := by
  unfold emit
  split
  · exact errorCount_emitError sink diagnostic
  · unfold emitWarning remember
    split
    · split <;> rfl
    · rfl

/-- A sink counts every error of a run, whatever it records. -/
theorem errorCount_emitAll (sink : Sink) (run : List Diagnostic) :
  (sink.emitAll run).errorCount = sink.errorCount + run.countP Diagnostic.isError
  := by
  induction run generalizing sink with
  | nil => rfl
  | cons diagnostic rest ih =>
    show ((sink.emit diagnostic).emitAll rest).errorCount = _
    rw [ih, errorCount_emit, List.countP_cons]
    omega

/-- A sink has errors exactly when the run holds one. -/
theorem hasErrors_emitAll (config : SinkConfig) (run : List Diagnostic) :
  ((Sink.empty config).emitAll run).hasErrors = Check.hasError run
  := by
  have h : ((Sink.empty config).emitAll run).errorCount = run.countP Diagnostic.isError := by
    rw [errorCount_emitAll]
    exact Nat.zero_add _
  rw [hasErrors, h, Check.hasError, Bool.eq_iff_iff]
  simp [List.countP_pos_iff]

end Sink

/-- What is accepted passed its check. -/
theorem passes_of_validate {number : Nat} {context : Context} {name : ModuleName}
    {dependencies : List Module} {config : SinkConfig} {module : Module}
    {warnings : List Diagnostic}
    (h : validate number context name dependencies config = .success module warnings) :
  (checkModule number context name dependencies).Passes module
  := by
  unfold validate Check.runFromStart at h
  rcases e : checkModule number context name dependencies false with ⟨result, log⟩
  rw [e] at h
  dsimp only at h
  rw [Sink.hasErrors_emitAll] at h
  split at h
  next found herror =>
    cases h
    exact ⟨by rw [e]; exact herror, by rw [e]⟩
  next => cases h

end TypedModules
