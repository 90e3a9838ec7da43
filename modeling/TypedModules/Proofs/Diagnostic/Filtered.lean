import TypedModules.Proofs.Faithful.Module

/-!
# The configuration of a sink only filters

A check is told whether an error was emitted before it, and a sink answers that from the number of
errors emitted, recorded or not.  So a check that is run into a sink emits what it emits into any
other, and what a sink then records is read off the log: the errors and the warnings in order,
without repetitions if equal diagnostics are dropped, and cut at the limit.

The main statement is `validate_filters`.
-/

namespace TypedModules

/-! ### What a configuration keeps of a log -/

namespace SinkConfig

/-- A log without the diagnostics that occur earlier in it, if the configuration drops them. -/
def distinct (config : SinkConfig) (log : List Diagnostic) : List Diagnostic :=
  if config.dedup then log.eraseDups else log

/-- The beginning of a log up to the limit, if there is one. -/
def cut (config : SinkConfig) (log : List Diagnostic) : List Diagnostic :=
  if config.limit = 0 then log else log.take config.limit

variable {config : SinkConfig} {log : List Diagnostic} {diagnostic : Diagnostic}

@[simp]
theorem mem_distinct :
  diagnostic ∈ config.distinct log ↔ diagnostic ∈ log
  := by
  unfold distinct
  split
  · exact List.mem_eraseDups
  · rfl

theorem filter_distinct (p : Diagnostic → Bool) (log : List Diagnostic) :
  (config.distinct log).filter p = config.distinct (log.filter p)
  := by
  unfold distinct
  split
  · exact filter_eraseDups p log
  · rfl

theorem distinct_of_nodup (h : config.dedup = true → log.Nodup) :
  config.distinct log = log
  := by
  unfold distinct
  split
  next hdedup => exact eraseDups_of_nodup (h hdedup)
  next => rfl

theorem nodup_of_length_distinct (hdedup : config.dedup = true)
    (h : (config.distinct log).length = log.length) :
  log.Nodup
  := by
  rw [distinct, if_pos hdedup] at h
  rw [← (eraseDups_sublist log).eq_of_length h]
  exact nodup_eraseDups log

theorem distinct_concat_old (hdedup : config.dedup = true) (h : diagnostic ∈ log) :
  config.distinct (log ++ [diagnostic]) = config.distinct log
  := by
  simp [distinct, hdedup, List.eraseDups_append, List.removeAll, h]

theorem distinct_concat_new (h : config.dedup = true → diagnostic ∉ log) :
  config.distinct (log ++ [diagnostic]) = config.distinct log ++ [diagnostic]
  := by
  unfold distinct
  split
  next hdedup =>
    simp [List.eraseDups_append, List.removeAll, h hdedup, List.eraseDups_cons]
  next => rfl

theorem mem_of_mem_cut (h : diagnostic ∈ config.cut log) :
  diagnostic ∈ log
  := by
  unfold cut at h
  split at h
  · exact h
  · exact List.mem_of_mem_take h

/-- Whether an error is recorded after those that are: the limit has room for it, and it is not
one of them unless equal ones are kept. -/
def Admits (config : SinkConfig) (recorded : List Diagnostic) (diagnostic : Diagnostic) : Prop :=
  (0 < config.limit → recorded.length < config.limit)
    ∧ (config.dedup = true → diagnostic ∉ recorded)

/-- A log that is as long as the limit is cut before what follows. -/
theorem cut_append_of_full (hlimit : 0 < config.limit) (h : config.limit ≤ (config.cut log).length)
    (rest : List Diagnostic) :
  config.cut (log ++ rest) = config.cut log
  := by
  have hne : config.limit ≠ 0 := Nat.ne_of_gt hlimit
  simp only [cut, if_neg hne, List.length_take] at h ⊢
  exact List.take_append_of_le_length (by omega)

/-- A log of which less than the limit is kept is not cut, and neither is one that is longer by
one. -/
theorem cut_of_room (h : 0 < config.limit → (config.cut log).length < config.limit) :
  config.cut log = log ∧ config.cut (log ++ [diagnostic]) = log ++ [diagnostic]
  := by
  unfold cut at h ⊢
  split
  · exact ⟨rfl, rfl⟩
  next hne =>
    have hlength : log.length < config.limit := by
      have hcut := h (Nat.pos_of_ne_zero hne)
      rw [if_neg hne, List.length_take] at hcut
      omega
    exact ⟨List.take_of_length_le (by omega), List.take_of_length_le (by simp; omega)⟩

theorem cut_distinct_concat_of_admits
    (h : config.Admits (config.cut (config.distinct log)) diagnostic) :
  config.cut (config.distinct (log ++ [diagnostic]))
    = config.cut (config.distinct log) ++ [diagnostic]
  := by
  obtain ⟨hroom, hnew⟩ := h
  obtain ⟨hcut, hnext⟩ := @cut_of_room _ _ diagnostic hroom
  rw [hcut] at hnew ⊢
  rw [distinct_concat_new fun hdedup => mem_distinct.not.mp (hnew hdedup), hnext]

theorem cut_distinct_concat_of_not_admits
    (h : ¬config.Admits (config.cut (config.distinct log)) diagnostic) :
  config.cut (config.distinct (log ++ [diagnostic])) = config.cut (config.distinct log)
  := by
  by_cases hold : config.dedup = true ∧ diagnostic ∈ log
  · rw [distinct_concat_old hold.1 hold.2]
  · have hnew : config.dedup = true → diagnostic ∉ log := fun hdedup hmem => hold ⟨hdedup, hmem⟩
    -- What is not in the log is not recorded of it, so that it is the limit that is in the way.
    have hfull : 0 < config.limit ∧ config.limit ≤ (config.cut (config.distinct log)).length := by
      by_contra hroom
      refine h ⟨fun hlimit => by omega, fun hdedup hmem => ?_⟩
      exact hnew hdedup (mem_distinct.mp (mem_of_mem_cut hmem))
    rw [distinct_concat_new hnew, cut_append_of_full hfull.1 hfull.2]

end SinkConfig

/-! ### What a sink records of a log -/

namespace Sink

/-- Whether a sink is as after a log. -/
structure Records (sink : Sink) (config : SinkConfig) (log : List Diagnostic) : Prop where
  config_eq : sink.config = config
  errors : sink.errors = config.cut (config.distinct (log.filter (·.isError)))
  warnings : sink.warnings = config.distinct (log.filter (!·.isError))
  seen : config.dedup = true → ∀ diagnostic,
    diagnostic ∈ sink.seen ↔ diagnostic ∈ sink.errors ∨ diagnostic ∈ sink.warnings

theorem records_empty (config : SinkConfig) :
  (empty config).Records config []
  := by
  constructor
  · rfl
  · simp [empty, SinkConfig.cut, SinkConfig.distinct]
  · simp [empty, SinkConfig.distinct]
  · simp [empty]

namespace Records

variable {sink : Sink} {config : SinkConfig} {log : List Diagnostic} {diagnostic : Diagnostic}
  (h : sink.Records config log)
include h

/-- Whether an error is remembered is whether it is recorded, for the warnings are no errors. -/
theorem mem_seen_error (hdedup : config.dedup = true) (herror : diagnostic.isError = true) :
  diagnostic ∈ sink.seen ↔ diagnostic ∈ sink.errors
  := by
  have hwarnings : diagnostic ∉ sink.warnings := by
    rw [h.warnings, SinkConfig.mem_distinct]
    simp [herror]
  simp [h.seen hdedup, hwarnings]

theorem isError_of_mem_errors (hmem : diagnostic ∈ sink.errors) :
  diagnostic.isError = true
  := by
  rw [h.errors] at hmem
  have hlog := SinkConfig.mem_distinct.mp (SinkConfig.mem_of_mem_cut hmem)
  exact (List.mem_filter.mp hlog).2

theorem mem_seen_warning (hdedup : config.dedup = true) (hwarning : diagnostic.isError = false) :
  diagnostic ∈ sink.seen ↔ diagnostic ∈ log.filter (!·.isError)
  := by
  have herrors : diagnostic ∉ sink.errors := by
    intro hmem
    rw [h.isError_of_mem_errors hmem] at hwarning
    cases hwarning
  rw [h.seen hdedup, h.warnings, SinkConfig.mem_distinct]
  simp [herrors]

/-- Counting an error changes neither what a sink has recorded nor what it would record. -/
theorem records_error_iff (herror : diagnostic.isError = true) (count : Nat) :
  (!Sink.limitReached { sink with errorCount := count }
      && Sink.isNew { sink with errorCount := count } diagnostic) = true
    ↔ config.Admits sink.errors diagnostic
  := by
  have hnew : sink.isNew diagnostic = true ↔ (config.dedup = true → diagnostic ∉ sink.errors) := by
    cases hdedup : config.dedup with
    | false => simp [isNew, h.config_eq, hdedup]
    | true => simp [isNew, h.config_eq, hdedup, h.mem_seen_error hdedup herror]
  have hroom : (!sink.limitReached) = true
      ↔ (0 < config.limit → sink.errors.length < config.limit) := by
    simp [limitReached, h.config_eq, Nat.pos_iff_ne_zero, imp_iff_not_or]
  rw [Bool.and_eq_true]
  exact and_congr hroom hnew

/-- An error is recorded if the limit allows and it was not recorded before. -/
theorem emitError (herror : diagnostic.isError = true) :
  (sink.emitError diagnostic).Records config (log ++ [diagnostic])
  := by
  have herrors : (log ++ [diagnostic]).filter (·.isError)
      = log.filter (·.isError) ++ [diagnostic] := by simp [herror]
  have hwarnings : (log ++ [diagnostic]).filter (!·.isError) = log.filter (!·.isError) := by
    simp [herror]
  have hrecords := h.records_error_iff herror (sink.errorCount + 1)
  unfold Sink.emitError
  dsimp only
  by_cases hadmits : config.Admits sink.errors diagnostic
  · rw [if_pos (hrecords.mpr hadmits)]
    rw [h.errors] at hadmits
    constructor
    · unfold Sink.remember
      split <;> exact h.config_eq
    · rw [herrors, SinkConfig.cut_distinct_concat_of_admits hadmits, ← h.errors]
    · rw [hwarnings, ← h.warnings]
      unfold Sink.remember
      split <;> rfl
    · intro hdedup other
      simp [Sink.remember, h.config_eq, hdedup, h.seen hdedup, or_comm, or_assoc]
  · rw [if_neg (hrecords.not.mpr hadmits)]
    rw [h.errors] at hadmits
    constructor
    · exact h.config_eq
    · rw [herrors, SinkConfig.cut_distinct_concat_of_not_admits hadmits]
      exact h.errors
    · rw [hwarnings]
      exact h.warnings
    · exact h.seen

/-- A warning is recorded if it was not recorded before. -/
theorem emitWarning (hwarning : diagnostic.isError = false) :
  (sink.emitWarning diagnostic).Records config (log ++ [diagnostic])
  := by
  have hlog : (log ++ [diagnostic]).filter (·.isError) = log.filter (·.isError) := by
    simp [hwarning]
  have hothers : (log ++ [diagnostic]).filter (!·.isError)
      = log.filter (!·.isError) ++ [diagnostic] := by simp [hwarning]
  unfold Sink.emitWarning
  by_cases hold : config.dedup = true ∧ diagnostic ∈ log.filter (!·.isError)
  · have hnew : sink.isNew diagnostic = false := by
      simp only [isNew, h.config_eq, hold.1, List.contains_iff_mem.mpr
        ((h.mem_seen_warning hold.1 hwarning).mpr hold.2)]
      rfl
    rw [if_neg (by simp [hnew])]
    refine ⟨h.config_eq, by rw [hlog]; exact h.errors, ?_, h.seen⟩
    rw [hothers, SinkConfig.distinct_concat_old hold.1 hold.2]
    exact h.warnings
  · have hmem : config.dedup = true → diagnostic ∉ log.filter (!·.isError) :=
      fun hdedup hmem => hold ⟨hdedup, hmem⟩
    have hnew : sink.isNew diagnostic = true := by
      cases hdedup : config.dedup with
      | false => simp [isNew, h.config_eq, hdedup]
      | true =>
        have hseen : diagnostic ∉ sink.seen :=
          (h.mem_seen_warning hdedup hwarning).not.mpr (hmem hdedup)
        simp [isNew, hseen]
    rw [if_pos hnew]
    constructor
    · unfold Sink.remember
      split <;> exact h.config_eq
    · rw [hlog, ← h.errors]
      exact errors_remember sink diagnostic
    · rw [hothers, SinkConfig.distinct_concat_new hmem]
      exact congrArg (· ++ [diagnostic]) h.warnings
    · intro hdedup other
      simp [Sink.remember, h.config_eq, hdedup, h.seen hdedup, or_comm, or_left_comm]

theorem emit (diagnostic : Diagnostic) :
  (sink.emit diagnostic).Records config (log ++ [diagnostic])
  := by
  unfold Sink.emit
  split
  next herror => exact h.emitError herror
  next hwarning => exact h.emitWarning (by simpa using hwarning)

theorem emitAll (run : List Diagnostic) :
  (sink.emitAll run).Records config (log ++ run)
  := by
  induction run generalizing sink log with
  | nil => simpa [Sink.emitAll] using h
  | cons diagnostic rest ih => simpa [Sink.emitAll] using ih (h.emit diagnostic)

end Records

/-- What a sink records of a whole log. -/
theorem records_emitAll (config : SinkConfig) (log : List Diagnostic) :
  ((empty config).emitAll log).Records config log
  := (records_empty config).emitAll log

end Sink

/-! ### Checks run into a sink -/

namespace Check

variable {α β : Type}

/-- The result of a check that is run into a sink, and the sink after it. -/
def into (check : Check α) (sink : Sink) : Option α × Sink :=
  ((check sink.hasErrors).1, sink.emitAll (check sink.hasErrors).2)

theorem hasErrors_into (check : Check α) (sink : Sink) :
  (check.into sink).2.hasErrors = (sink.hasErrors || hasError (check sink.hasErrors).2)
  := by
  show decide (0 < (sink.emitAll _).errorCount) = _
  rw [Sink.errorCount_emitAll]
  generalize (check sink.hasErrors).2 = log
  rw [Bool.eq_iff_iff]
  simp [Sink.hasErrors, hasError, List.countP_pos_iff, Nat.add_pos_iff_pos_or_pos]

@[simp]
theorem into_pure (a : α) (sink : Sink) :
  (pure a : Check α).into sink = (some a, sink)
  := rfl

/-- The second of two checks is run into the sink that the first leaves. -/
theorem into_bind (check : Check α) (next : α → Check β) (sink : Sink) :
  (check >>= next).into sink = match check.into sink with
    | (none, after) => (none, after)
    | (some a, after) => (next a).into after
  := by
  have hafter := hasErrors_into check sink
  unfold into at hafter ⊢
  rw [run_bind]
  rcases hrun : check sink.hasErrors with ⟨_ | a, log⟩
  · rfl
  · rw [hrun] at hafter
    dsimp only at hafter ⊢
    rw [hafter]
    simp [Sink.emitAll, List.foldl_append]

@[simp]
theorem into_emit (diagnostic : Diagnostic) (sink : Sink) :
  (emit diagnostic).into sink = (some (), sink.emit diagnostic)
  := rfl

/-- Whether a check stands behind an error is what the sink says, which counts what it does not
record. -/
@[simp]
theorem into_isBehind (sink : Sink) :
  isBehind.into sink = (some sink.hasErrors, sink)
  := rfl

@[simp]
theorem into_attempt (check : Check α) (sink : Sink) :
  (attempt check).into sink = (some (check.into sink).1, (check.into sink).2)
  := rfl

end Check

/-- A module is checked into a sink with its settings, and what the sink then holds is the
outcome. -/
theorem validate_eq_into (number : Nat) (context : Context) (name : ModuleName)
    (dependencies : List Module) (config : SinkConfig) :
  validate number context name dependencies config
    = match (checkModule number context name dependencies).into (Sink.empty config) with
      | (module, sink) => match module, sink.hasErrors with
        | some module, false => .success module sink.warnings
        | _, _ => .failure sink.errors sink.warnings
  := rfl

/-- The errors of a verdict. -/
def Verdict.errors : Verdict → List Diagnostic
  | success _ _ => []
  | failure errors _ => errors

/-- Without a limit, all errors of a check are recorded, apart from repetitions. -/
theorem errors_validate {number : Nat} {context : Context} {name : ModuleName}
    {dependencies : List Module} {config : SinkConfig} (hlimit : config.limit = 0) :
  (validate number context name dependencies config).errors
    = config.distinct ((checkModule number context name dependencies false).2.filter (·.isError))
  := by
  unfold validate Check.runFromStart
  generalize checkModule number context name dependencies false = run
  obtain ⟨result, log⟩ := run
  have herrors := (Sink.records_emitAll config log).errors
  rw [SinkConfig.cut, if_pos hlimit] at herrors
  dsimp only
  split
  next hclean =>
    rw [Sink.hasErrors_emitAll] at hclean
    have hnone : log.filter (·.isError) = [] := by
      simpa [Check.hasError, List.filter_eq_nil_iff] using hclean
    simp [Verdict.errors, hnone, SinkConfig.distinct]
  next => exact herrors

/-- There are errors and warnings that a module's check emits under every configuration.  It is
accepted exactly if there are no errors, as the same module; what is recorded is the errors and the
warnings, each without its repetitions if the configuration drops them, and the errors then cut at
the limit. -/
theorem validate_filters (number : Nat) (context : Context) (name : ModuleName)
    (dependencies : List Module) :
  ∃ (errors warnings : List Diagnostic) (accepted : Option Module),
    (∀ diagnostic ∈ errors, diagnostic.isError = true)
      ∧ (∀ diagnostic ∈ warnings, diagnostic.isError = false)
      ∧ (accepted.isSome ↔ errors = [])
      ∧ ∀ config, validate number context name dependencies config = match accepted with
        | some module => .success module (config.distinct warnings)
        | none => .failure (config.cut (config.distinct errors)) (config.distinct warnings)
  := by
  have hloud := loud_checkModule number context name dependencies
  unfold validate Check.runFromStart
  rcases hrun : checkModule number context name dependencies false with ⟨result, log⟩
  have herrors : Check.hasError log = false ↔ log.filter (·.isError) = [] := by
    simp [Check.hasError, List.filter_eq_nil_iff]
  refine ⟨log.filter (·.isError), log.filter (!·.isError),
    if Check.hasError log then none else result, ?_, ?_, ?_, ?_⟩
  · intro diagnostic hmem
    exact (List.mem_filter.mp hmem).2
  · intro diagnostic hmem
    simpa using (List.mem_filter.mp hmem).2
  · rw [← herrors]
    cases herror : Check.hasError log with
    | true => simp
    | false =>
      obtain he | ⟨module, -, hmodule⟩ := hloud
      · rw [hrun, herror] at he
        cases he
      · rw [hrun] at hmodule
        simp [show result = some module from hmodule]
  · intro config
    have hrecords := Sink.records_emitAll config log
    dsimp only
    rw [Sink.hasErrors_emitAll, hrecords.errors, hrecords.warnings]
    cases herror : Check.hasError log with
    | true => rcases result with _ | module <;> rfl
    | false => rcases result with _ | module <;> rfl

end TypedModules
