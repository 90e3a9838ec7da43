import TypedModules.Diagnostic.Basic

/-!
# Diagnostic sinks

A sink records the diagnostics of one run in the order in which they are emitted.  Its
settings may drop a diagnostic equal to one already recorded, and limit the number of
errors recorded; every emitted error is counted all the same.
-/

namespace TypedModules

/-- What a sink keeps: at most `limit` errors unless that is zero, and with `dedup` only
the first of equal diagnostics. -/
structure SinkConfig where
  limit : Nat := 0
  dedup : Bool := true
deriving DecidableEq, Inhabited

/-- The diagnostics recorded so far, and the number of errors emitted. -/
structure Sink where
  config : SinkConfig := {}
  errors : List Diagnostic := []
  warnings : List Diagnostic := []
  seen : List Diagnostic := []
  errorCount : Nat := 0
deriving Inhabited

namespace Sink

/-- The sink that has recorded nothing. -/
def empty (config : SinkConfig) : Sink :=
  { config := config }

/-- Whether no further error is recorded. -/
def limitReached (sink : Sink) : Bool :=
  0 < sink.config.limit && sink.config.limit ≤ sink.errors.length

/-- Whether a diagnostic would be recorded as far as repetition goes. -/
def isNew (sink : Sink) (diagnostic : Diagnostic) : Bool :=
  !sink.config.dedup || !sink.seen.contains diagnostic

/-- The sink that remembers having recorded a diagnostic. -/
def remember (sink : Sink) (diagnostic : Diagnostic) : Sink :=
  if sink.config.dedup then { sink with seen := diagnostic :: sink.seen } else sink

/-- Counts an error, and records it if it is new and the limit allows. -/
def emitError (sink : Sink) (diagnostic : Diagnostic) : Sink :=
  let counted := { sink with errorCount := sink.errorCount + 1 }
  if !counted.limitReached && counted.isNew diagnostic then
    { counted.remember diagnostic with errors := sink.errors ++ [diagnostic] }
  else
    counted

/-- Records a warning if it is new. -/
def emitWarning (sink : Sink) (diagnostic : Diagnostic) : Sink :=
  if sink.isNew diagnostic then
    { sink.remember diagnostic with warnings := sink.warnings ++ [diagnostic] }
  else
    sink

/-- Emits a diagnostic according to its severity. -/
def emit (sink : Sink) (diagnostic : Diagnostic) : Sink :=
  if diagnostic.isError then sink.emitError diagnostic else sink.emitWarning diagnostic

/-- Emits the diagnostics of a run in order. -/
def emitAll (sink : Sink) (run : List Diagnostic) : Sink :=
  run.foldl emit sink

/-- Whether an error has been emitted, recorded or not. -/
def hasErrors (sink : Sink) : Bool :=
  0 < sink.errorCount

@[simp]
theorem errorCount_emitError (sink : Sink) (diagnostic : Diagnostic) :
  (sink.emitError diagnostic).errorCount = sink.errorCount + 1
  := by
  simp only [emitError]
  split
  · simp only [remember]
    split <;> rfl
  · rfl

end Sink
end TypedModules
