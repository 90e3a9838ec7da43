import TypedModules.Proofs.Renamed.Module

/-!
# Checks in another order

Two runs agree if their results are related and they emit diagnostics of the same kinds, in whatever
order.  What is checked item by item comes to the same in any order, if no item is checked in another
way for what was emitted before it: because it is settled that this makes no difference, or because
an error was emitted before the first.

The main statements are `agree_collect` and `agree_forM`.
-/

namespace TypedModules

/-- What is said about a diagnostic apart from its text and its places. -/
def Diagnostic.kind (diagnostic : Diagnostic) : Severity × Code :=
  (diagnostic.severity, diagnostic.code)

namespace Check

variable {α β γ δ : Type} {σ : Renaming} {settled : Prop} {behind : Bool}

theorem hasError_of_perm {log other : List Diagnostic}
    (h : (log.map Diagnostic.kind).Perm (other.map Diagnostic.kind)) :
  hasError other = hasError log
  := by
  have hkind : ∀ log : List Diagnostic,
      hasError log = (log.map Diagnostic.kind).any fun kind => kind.1 == .error := by
    intro log
    rw [List.any_map]
    rfl
  rw [hkind, hkind, h.any_eq]

theorem LogsMirror.map_kind {log other : List Diagnostic} (h : LogsMirror σ log other) :
  other.map Diagnostic.kind = log.map Diagnostic.kind
  := by
  induction h with
  | nil => rfl
  | cons hd _ ih =>
    rw [List.map_cons, List.map_cons, ih, Diagnostic.kind, Diagnostic.kind, hd.severity, hd.code]

/-- Whether two runs have related results and emit the same kinds of diagnostics. -/
structure Agree (R : α → β → Prop) (run : Option α × List Diagnostic)
    (other : Option β × List Diagnostic) : Prop where
  result : Option.Rel R run.1 other.1
  log : (run.2.map Diagnostic.kind).Perm (other.2.map Diagnostic.kind)

theorem agree_pure {R : α → β → Prop} {a : α} {b : β} (h : R a b) :
  Agree R ((pure a : Check α) behind) ((pure b : Check β) behind)
  := ⟨.some h, .nil⟩

theorem Mirrors.agree {f : α → β} {check : Check α} {other : Check β}
    (h : Mirrors σ settled f check other) (behind : Bool) :
  Agree (fun a b => b = f a) (check behind) (other behind)
  := by
  obtain ⟨hresult, hlog⟩ := h behind behind (.inl rfl)
  constructor
  · rw [hresult]
    cases (check behind).1 with
    | none => exact .none
    | some a => exact .some rfl
  · rw [hlog.map_kind]

/-- What follows runs that agree agrees if it does for related results. -/
theorem Agree.bind {R : α → β → Prop} {S : γ → δ → Prop} {check : Check α} {other : Check β}
    {next : α → Check γ} {next' : β → Check δ} (h : Agree R (check behind) (other behind))
    (hnext : ∀ a b, (check behind).1 = some a → R a b →
      Agree S (next a (behind || hasError (check behind).2))
        (next' b (behind || hasError (check behind).2))) :
  Agree S ((check >>= next) behind) ((other >>= next') behind)
  := by
  obtain ⟨hresult, hlog⟩ := h
  have herror := hasError_of_perm hlog
  rw [run_bind, run_bind]
  generalize check behind = run at hresult hlog herror hnext ⊢
  generalize other behind = run' at hresult hlog herror ⊢
  obtain ⟨result, log⟩ := run
  obtain ⟨result', log'⟩ := run'
  dsimp only at hresult hlog herror hnext ⊢
  cases hresult with
  | none => exact ⟨.none, hlog⟩
  | some hab =>
    obtain ⟨hnextResult, hnextLog⟩ := hnext _ _ rfl hab
    dsimp only
    rw [herror]
    refine ⟨hnextResult, ?_⟩
    rw [List.map_append, List.map_append]
    exact hlog.append hnextLog

/-! ### Items in another order -/

/-- Whether a check comes to the same whatever it is told, as far as that is settled. -/
def Steady (settled : Prop) (check : Check α) : Prop :=
  settled → ∀ behind, (check behind).1 = (check true).1
    ∧ (check behind).2.map Diagnostic.kind = (check true).2.map Diagnostic.kind

theorem Mirrors.steady {f : α → β} {check : Check α} {other : Check β}
    (h : Mirrors σ settled f check other) :
  Steady settled other
  := by
  intro hsettled behind
  obtain ⟨hresult, hlog⟩ := h true behind (.inr hsettled)
  obtain ⟨hresult', hlog'⟩ := h true true (.inr hsettled)
  exact ⟨hresult.trans hresult'.symm, hlog.map_kind.trans hlog'.map_kind.symm⟩

theorem run_collect_cons (check : γ → Check α) (item : γ) (rest : List γ) (behind : Bool) :
  collect check (item :: rest) behind
    = ((collect check rest (behind || hasError (check item behind).2)).1.map
        fun others => (check item behind).1.toList ++ others,
      (check item behind).2 ++ (collect check rest (behind || hasError (check item behind).2)).2)
  := by
  rw [collect, run_bind]
  simp only [attempt, run_bind]
  rcases collect check rest (behind || hasError (check item behind).2) with ⟨_ | others, log⟩
    <;> simp [run_pure]

/-- What is collected of steady checks is what each of them comes to by itself. -/
theorem run_collect {check : γ → Check α} {items : List γ}
    (hsteady : ∀ item ∈ items, Steady settled (check item)) (hbehind : behind = true ∨ settled) :
  (collect check items behind).1 = some (items.filterMap fun item => (check item true).1)
    ∧ (collect check items behind).2.map Diagnostic.kind
      = items.flatMap fun item => (check item true).2.map Diagnostic.kind
  := by
  induction items generalizing behind with
  | nil => exact ⟨rfl, rfl⟩
  | cons item rest ih =>
    rw [List.forall_mem_cons] at hsteady
    have hitem : (check item behind).1 = (check item true).1
        ∧ (check item behind).2.map Diagnostic.kind
          = (check item true).2.map Diagnostic.kind := by
      obtain rfl | hsettled := hbehind
      · exact ⟨rfl, rfl⟩
      · exact hsteady.1 hsettled behind
    have hafter : (behind || hasError (check item behind).2) = true ∨ settled :=
      hbehind.imp_left fun e => by rw [e, Bool.true_or]
    obtain ⟨hresult, hlog⟩ := ih hsteady.2 hafter
    rw [run_collect_cons, hresult, List.map_append, hlog, hitem.2, hitem.1, List.flatMap_cons]
    refine ⟨?_, rfl⟩
    cases e : (check item true).1 <;> simp [e]

/-- Items in another order are collected into the same results, renamed and in another order. -/
theorem agree_collect {f : α → β} {check : γ → Check α} {other : γ → Check β}
    {items others : List γ} (hperm : items.Perm others)
    (h : ∀ item ∈ items, Mirrors σ settled f (check item) (other item))
    (hbehind : behind = true ∨ settled) :
  Agree (fun as bs => bs.Perm (as.map f)) (collect check items behind)
    (collect other others behind)
  := by
  have hmirrors := (Mirrors.collect h).agree behind
  obtain ⟨hresult, hlog⟩ := run_collect (fun item hitem => (h item hitem).steady) hbehind
  obtain ⟨hresult', hlog'⟩ := run_collect
    (fun item hitem => (h item (hperm.mem_iff.mpr hitem)).steady) hbehind
  constructor
  · have hresults := hmirrors.result
    rw [hresult] at hresults
    rw [hresult']
    generalize (collect check items behind).1 = result at hresults ⊢
    cases hresults with
    | some e => exact .some (e ▸ (hperm.filterMap _).symm)
  · apply hmirrors.log.trans
    rw [hlog, hlog']
    exact hperm.flatMap_right _

/-! ### Keys of what is collected -/

/-- Whether all that a check comes to has a property, whatever it is told. -/
def Ensures (check : Check α) (P : α → Prop) : Prop :=
  ∀ behind a, (check behind).1 = some a → P a

section Ensures

variable {P : β → Prop}

theorem ensures_pure {b : β} (h : P b) :
  (pure b : Check β).Ensures P
  := by
  intro behind a ha
  cases ha
  exact h

/-- What follows a check ensures a property if it does for all that the check comes to. -/
theorem ensures_bind_of {check : Check α} {next : α → Check β}
    (h : ∀ behind a, (check behind).1 = some a → (next a).Ensures P) :
  (check >>= next).Ensures P
  := by
  intro behind b hb
  have h := h behind
  rw [run_bind] at hb
  split at hb
  · cases hb
  next a log hrun =>
    rw [hrun] at h
    exact h a rfl _ _ hb

theorem ensures_bind {check : Check α} {next : α → Check β} (h : ∀ a, (next a).Ensures P) :
  (check >>= next).Ensures P
  := ensures_bind_of fun _ a _ => h a

theorem ensures_ite {c : Prop} [Decidable c] {yes no : Check β} (hyes : yes.Ensures P)
    (hno : no.Ensures P) :
  (if c then yes else no).Ensures P
  := by
  split
  · exact hyes
  · exact hno

end Ensures

/-- What is collected has the keys of some of the items, in their order. -/
theorem sublist_of_collect {check : γ → Check α} {items : List γ} {keyOf : γ → β} {keyOf' : α → β}
    (h : ∀ item, (check item).Ensures fun a => keyOf' a = keyOf item) {results : List α}
    (hresults : (collect check items behind).1 = some results) :
  (results.map keyOf').Sublist (items.map keyOf)
  := by
  induction items generalizing behind results with
  | nil =>
    cases hresults
    exact .slnil
  | cons item rest ih =>
    rw [run_collect_cons] at hresults
    obtain ⟨others, hothers, rfl⟩ := Option.map_eq_some_iff.mp hresults
    cases hitem : (check item behind).1 with
    | none => exact (ih hothers).cons _
    | some a =>
      rw [Option.toList_some, List.singleton_append, List.map_cons, List.map_cons, h item _ a hitem]
      exact (ih hothers).cons_cons _

/-! ### Checks that only emit -/

/-- Whether a check emits the same whatever it is told, and goes on. -/
def GoesOn (check : Check Unit) : Prop :=
  ∀ behind, check behind = (some (), (check true).2)

theorem goesOn_emit (diagnostic : Diagnostic) :
  GoesOn (emit diagnostic)
  := fun _ => rfl

theorem goesOn_pure :
  GoesOn (pure ())
  := fun _ => rfl

theorem goesOn_ite {c : Prop} [Decidable c] {yes no : Check Unit} (hyes : GoesOn yes)
    (hno : GoesOn no) :
  GoesOn (if c then yes else no)
  := by
  split
  · exact hyes
  · exact hno

theorem run_forM {check : γ → Check Unit} {items : List γ}
    (h : ∀ item ∈ items, GoesOn (check item)) (behind : Bool) :
  items.forM check behind = (some (), items.flatMap fun item => (check item true).2)
  := by
  induction items generalizing behind with
  | nil => rfl
  | cons item rest ih =>
    rw [List.forall_mem_cons] at h
    show (check item >>= fun _ => rest.forM check) behind = _
    rw [run_bind, h.1 behind]
    dsimp only
    rw [ih h.2, List.flatMap_cons]

theorem goesOn_forM {check : γ → Check Unit} {items : List γ}
    (h : ∀ item ∈ items, GoesOn (check item)) :
  GoesOn (items.forM check)
  := by
  intro behind
  rw [run_forM h, run_forM h]

theorem goesOn_reportSites (id : EntityId) (sites : List (Option Location)) :
  GoesOn (reportSites id sites)
  := goesOn_forM fun _ _ => goesOn_emit _

/-- Items in another order have the same kinds of diagnostics emitted for them, if as many are of
each item. -/
theorem agree_forM {check other : γ → Check Unit} {items others : List γ}
    (hperm : items.Perm others) (h : ∀ item ∈ items, GoesOn (check item))
    (hother : ∀ item ∈ others, GoesOn (other item))
    (hkinds : ∀ item ∈ others, ((check item true).2.map Diagnostic.kind).Perm
      ((other item true).2.map Diagnostic.kind)) :
  Agree (fun _ _ => True) (items.forM check behind) (others.forM other behind)
  := by
  rw [run_forM h, run_forM hother]
  refine ⟨.some trivial, ?_⟩
  simp only [List.map_flatMap]
  exact (hperm.flatMap_right _).trans (List.Perm.flatMap_left _ hkinds)

end Check

end TypedModules
