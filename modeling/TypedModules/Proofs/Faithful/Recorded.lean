import TypedModules.Proofs.Check.Outcome

/-!
# The first error is recorded

A sink may drop an error because it has recorded an equal one, or because it has recorded as many
as its limit allows.  Both need a recorded error, so the first error of a run is recorded under
every configuration, ahead of all others.
-/

namespace TypedModules
namespace Sink

/-- Whether a sink has recorded no error, and so remembers none. -/
structure Silent (sink : Sink) : Prop where
  errors : sink.errors = []
  seen : ∀ diagnostic ∈ sink.seen, diagnostic.isError = false

theorem silent_empty (config : SinkConfig) :
  (empty config).Silent
  := ⟨rfl, fun _ h => absurd h List.not_mem_nil⟩

@[simp]
theorem errors_remember (sink : Sink) (diagnostic : Diagnostic) :
  (sink.remember diagnostic).errors = sink.errors
  := by
  unfold remember
  split <;> rfl

@[simp]
theorem errors_emitWarning (sink : Sink) (diagnostic : Diagnostic) :
  (sink.emitWarning diagnostic).errors = sink.errors
  := by
  unfold emitWarning
  split
  · exact sink.errors_remember diagnostic
  · rfl

theorem mem_seen_emitWarning {sink : Sink} {diagnostic other : Diagnostic}
    (h : other ∈ (sink.emitWarning diagnostic).seen) :
  other = diagnostic ∨ other ∈ sink.seen
  := by
  unfold emitWarning remember at h
  split at h
  · split at h
    · exact List.mem_cons.mp h
    · exact .inr h
  · exact .inr h

namespace Silent

variable {sink : Sink} (h : sink.Silent)
include h

/-- A warning leaves a sink silent. -/
theorem emitWarning {diagnostic : Diagnostic} (hwarning : diagnostic.isError = false) :
  (sink.emitWarning diagnostic).Silent
  := by
  constructor
  · rw [errors_emitWarning, h.errors]
  · intro other hother
    obtain rfl | hother := mem_seen_emitWarning hother
    · exact hwarning
    · exact h.seen other hother

/-- A silent sink records an error, whatever its limit. -/
theorem errors_emitError {diagnostic : Diagnostic} (herror : diagnostic.isError = true) :
  (sink.emitError diagnostic).errors = [diagnostic]
  := by
  have hseen : diagnostic ∉ sink.seen := fun hmem => by simp [h.seen _ hmem] at herror
  have hrecords : (!Sink.limitReached { sink with errorCount := sink.errorCount + 1 }
      && Sink.isNew { sink with errorCount := sink.errorCount + 1 } diagnostic) = true := by
    simp [limitReached, isNew, h.errors, hseen, Nat.pos_iff_ne_zero]
  unfold emitError
  dsimp only
  rw [if_pos hrecords, h.errors, List.nil_append]

end Silent

/-- What is recorded first stays first. -/
theorem head?_errors_emit {sink : Sink} {first : Diagnostic}
    (h : sink.errors.head? = some first) (diagnostic : Diagnostic) :
  (sink.emit diagnostic).errors.head? = some first
  := by
  unfold emit
  split
  · unfold emitError
    dsimp only
    split
    · simp [List.head?_append, h]
    · exact h
  · rwa [errors_emitWarning]

theorem head?_errors_foldl {sink : Sink} {first : Diagnostic} (h : sink.errors.head? = some first)
    (run : List Diagnostic) :
  (sink.emitAll run).errors.head? = some first
  := by
  induction run generalizing sink with
  | nil => exact h
  | cons diagnostic rest ih => exact ih (head?_errors_emit h diagnostic)

theorem Silent.head?_errors_emitAll {sink : Sink} (h : sink.Silent) (run : List Diagnostic) :
  (sink.emitAll run).errors.head? = run.find? Diagnostic.isError
  := by
  induction run generalizing sink with
  | nil => exact congrArg List.head? h.errors
  | cons diagnostic rest ih =>
    show ((sink.emit diagnostic).emitAll rest).errors.head? = _
    cases hseverity : diagnostic.isError with
    | true =>
      rw [List.find?_cons_of_pos hseverity]
      apply head?_errors_foldl
      simp [emit, hseverity, h.errors_emitError hseverity]
    | false =>
      rw [List.find?_cons_of_neg (by simp [hseverity])]
      apply ih
      simpa [emit, hseverity] using h.emitWarning hseverity

/-- Under every configuration the first error that is recorded is the first that is emitted. -/
theorem head?_errors_emitAll (config : SinkConfig) (run : List Diagnostic) :
  ((empty config).emitAll run).errors.head? = run.find? Diagnostic.isError
  := (silent_empty config).head?_errors_emitAll run

end Sink
end TypedModules
