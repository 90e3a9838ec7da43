import Mathlib.Tactic.Tauto
import TypedModules.Proofs.Graph.Accepted

/-!
# The modules that a module reaches

The modules reachable from direct dependencies are these and what they reach, each id once.
Modules that accepted modules reach are accepted, and what they reach themselves is reached
under the same ids.  No accepted module is the native one.
-/

namespace TypedModules

theorem eq_of_compare_moduleName {a b : ModuleName} (h : compare a b = .eq) :
  a = b
  := by
  obtain ⟨g, m⟩ := a
  obtain ⟨g', m'⟩ := b
  simp only [compare, instOrdModuleName.ord, Ordering.then_eq_eq, and_true] at h
  obtain rfl : g = g' := Std.LawfulEqOrd.eq_of_compare h.1
  obtain rfl : m = m' := Std.LawfulEqOrd.eq_of_compare h.2
  rfl

/-- Module ids compare as equal only if they are. -/
theorem eq_of_compare_moduleId {a b : ModuleId} (h : compare a b = .eq) :
  a = b
  := by
  obtain ⟨n, v⟩ := a
  obtain ⟨n', v'⟩ := b
  simp only [compare, instOrdModuleId.ord, Ordering.then_eq_eq, and_true] at h
  obtain rfl : n = n' := eq_of_compare_moduleName h.1
  obtain rfl : v = v' := Std.LawfulEqOrd.eq_of_compare h.2
  rfl

/-! ### Inserting modules -/

theorem mem_insertModule {module other : Module} {modules : List Module}
    (h : other ∈ insertModule module modules) :
  other = module ∨ other ∈ modules
  := by
  induction modules with
  | nil => simpa [insertModule] using h
  | cons first rest ih =>
    unfold insertModule at h
    split at h <;> simp only [List.mem_cons] at h ⊢ <;> tauto

/-- Inserting a module adds its id to those that are there. -/
theorem mem_ids_insertModule {module : Module} {modules : List Module} {id : ModuleId} :
  (∃ m ∈ insertModule module modules, m.id = id)
    ↔ module.id = id ∨ ∃ m ∈ modules, m.id = id
  := by
  induction modules with
  | nil => simp [insertModule]
  | cons first rest ih =>
    unfold insertModule
    split
    · simp
    next h =>
      simp only [List.exists_mem_cons_iff, eq_of_compare_moduleId h]
      tauto
    · simp only [List.exists_mem_cons_iff, ih]
      tauto

theorem mem_foldl_insertModule {modules found : List Module} {other : Module}
    (h : other ∈ modules.foldl (fun found module => insertModule module found) found) :
  other ∈ modules ∨ other ∈ found
  := by
  induction modules generalizing found with
  | nil => exact .inr h
  | cons first rest ih =>
    obtain h | h := ih h
    · exact .inl (List.mem_cons_of_mem _ h)
    · obtain rfl | h := mem_insertModule h
      · exact .inl List.mem_cons_self
      · exact .inr h

theorem mem_ids_foldl_insertModule {modules found : List Module} {id : ModuleId} :
  (∃ m ∈ modules.foldl (fun found module => insertModule module found) found, m.id = id)
    ↔ (∃ m ∈ modules, m.id = id) ∨ ∃ m ∈ found, m.id = id
  := by
  induction modules generalizing found with
  | nil => simp
  | cons first rest ih =>
    rw [List.foldl_cons, ih, mem_ids_insertModule, List.exists_mem_cons_iff, or_left_comm,
      or_assoc]

theorem mem_insertDependency {found : List Module} {dependency other : Module}
    (h : other ∈ insertDependency found dependency) :
  other = dependency ∨ other ∈ dependency.reachable ∨ other ∈ found
  := by
  obtain rfl | h := mem_insertModule h
  · exact .inl rfl
  · exact .inr (mem_foldl_insertModule h)

theorem mem_ids_insertDependency {found : List Module} {dependency : Module} {id : ModuleId} :
  (∃ m ∈ insertDependency found dependency, m.id = id)
    ↔ dependency.id = id ∨ (∃ m ∈ dependency.reachable, m.id = id) ∨ ∃ m ∈ found, m.id = id
  := by
  rw [insertDependency, mem_ids_insertModule, mem_ids_foldl_insertModule]

/-- What is reachable from dependencies is one of them or reachable from one. -/
theorem mem_reachableFrom {dependencies : List Module} {other : Module}
    (h : other ∈ reachableFrom dependencies) :
  ∃ dependency ∈ dependencies, other = dependency ∨ other ∈ dependency.reachable
  := by
  have key : ∀ found, other ∈ dependencies.foldl insertDependency found →
      other ∈ found ∨ ∃ d ∈ dependencies, other = d ∨ other ∈ d.reachable := by
    clear h
    induction dependencies with
    | nil => exact fun _ h => .inl h
    | cons first rest ih =>
      intro found h
      rw [List.exists_mem_cons_iff]
      obtain h | h := ih _ h
      · have := mem_insertDependency h
        tauto
      · exact .inr (.inr h)
  simpa using key [] h

/-- The ids that are reachable from dependencies are theirs and those reachable from them. -/
theorem mem_ids_reachableFrom {dependencies : List Module} {id : ModuleId} :
  (∃ m ∈ reachableFrom dependencies, m.id = id)
    ↔ ∃ d ∈ dependencies, d.id = id ∨ ∃ m ∈ d.reachable, m.id = id
  := by
  have key : ∀ found, (∃ m ∈ dependencies.foldl insertDependency found, m.id = id)
      ↔ (∃ m ∈ found, m.id = id) ∨
        ∃ d ∈ dependencies, d.id = id ∨ ∃ m ∈ d.reachable, m.id = id := by
    induction dependencies with
    | nil => simp
    | cons first rest ih =>
      intro found
      rw [List.foldl_cons, ih, mem_ids_insertDependency, List.exists_mem_cons_iff]
      grind
  rw [reachableFrom, key []]
  simp

/-! ### Accepted modules -/

/-- An accepted module passed a check on dependencies that are accepted. -/
theorem Accepted.checked {module : Module} (h : Accepted module) :
  ∃ number context name dependencies,
    (∀ d ∈ dependencies, Accepted d) ∧ Checked number context name dependencies module
  := by
  cases h with
  | intro hdependencies h =>
    exact ⟨_, _, _, _, hdependencies, checked_of_passes (passes_of_validate h)⟩

/-- What holds of each accepted module if it holds of the dependencies on which it was
checked. -/
theorem Accepted.induction {P : Module → Prop}
    (step : ∀ {number context name dependencies module}, Accepted module →
      (∀ d ∈ dependencies, Accepted d) → (∀ d ∈ dependencies, P d) →
      Checked number context name dependencies module → P module)
    {module : Module} (h : Accepted module) :
  P module
  := by
  induction h with
  | intro hdependencies h ih =>
    exact step (.intro hdependencies h) hdependencies ih
      (checked_of_passes (passes_of_validate h))

/-- What accepted modules reach is accepted. -/
theorem accepted_of_mem_reachable {module : Module} (h : Accepted module) :
  ∀ other ∈ module.reachable, Accepted other
  := by
  apply Accepted.induction _ h
  intro number context name dependencies module _ hdependencies ih hchecked other hother
  rw [hchecked.reachable_eq] at hother
  obtain ⟨d, hd, rfl | hother⟩ := mem_reachableFrom hother
  · exact hdependencies _ hd
  · exact ih d hd other hother

/-- An accepted module and what it reaches are accepted. -/
theorem Accepted.of_reached {module other : Module} (h : Accepted module)
    (hother : other = module ∨ other ∈ module.reachable) :
  Accepted other
  := by
  obtain rfl | hreach := hother
  · exact h
  · exact accepted_of_mem_reachable h other hreach

/-- Accepted dependencies and what they reach are accepted. -/
theorem accepted_of_reached {dependencies : List Module}
    (hdependencies : ∀ d ∈ dependencies, Accepted d) {module : Module}
    (h : ∃ d ∈ dependencies, module = d ∨ module ∈ d.reachable) :
  Accepted module
  := by
  obtain ⟨d, hd, hreach⟩ := h
  exact (hdependencies d hd).of_reached hreach

/-- What a reached module reaches is reached under the same id. -/
theorem reachable_trans {module : Module} (h : Accepted module) :
  ∀ other ∈ module.reachable, ∀ m ∈ other.reachable, ∃ n ∈ module.reachable, n.id = m.id
  := by
  apply Accepted.induction _ h
  intro number context name dependencies module _ _ ih hchecked other hother m hm
  rw [hchecked.reachable_eq] at hother ⊢
  rw [mem_ids_reachableFrom]
  obtain ⟨d, hd, rfl | hother⟩ := mem_reachableFrom hother
  · exact ⟨_, hd, .inr ⟨m, hm, rfl⟩⟩
  · exact ⟨d, hd, .inr (ih d hd other hother m hm)⟩

theorem Accepted.isVersion {module : Module} (h : Accepted module) :
  Fingerprint.IsVersion module.id.version
  := by
  obtain ⟨_, _, _, _, -, hchecked⟩ := h.checked
  rw [hchecked.id_eq]
  exact isVersion_version _ _

/-- The version of an accepted module is longer than those of the modules that it reaches. -/
theorem length_version_reachable {module : Module} (h : Accepted module) :
  ∀ other ∈ module.reachable, other.id.version.length < module.id.version.length
  := by
  apply Accepted.induction _ h
  intro number context name dependencies module _ hdependencies ih hchecked other hother
  rw [hchecked.reachable_eq] at hother
  have hlonger : ∀ d ∈ dependencies, d.id.version.length < module.id.version.length := by
    intro d hd
    rw [hchecked.id_eq]
    exact length_version_lt (List.mem_map_of_mem hd) (hdependencies d hd).isVersion
  obtain ⟨d, hd, rfl | hother⟩ := mem_reachableFrom hother
  · exact hlonger _ hd
  · exact Nat.lt_trans (ih d hd other hother) (hlonger d hd)

/-- No accepted module reaches one with its own id. -/
theorem Accepted.id_ne {module other : Module} (h : Accepted module)
    (hother : other ∈ module.reachable) :
  other.id ≠ module.id
  := by
  intro e
  have hlonger := length_version_reachable h other hother
  rw [e] at hlonger
  exact Nat.lt_irrefl _ hlonger

/-- No accepted module is the native one. -/
theorem Accepted.not_native {module : Module} (h : Accepted module) :
  module.id.isNative = false
  := by
  obtain ⟨_, context, _, dependencies, -, hchecked⟩ := h.checked
  rw [ModuleId.isNative, beq_eq_false_iff_ne]
  intro e
  apply version_ne_native context (dependencies.map (·.id))
  rw [← e, hchecked.id_eq]
  rfl

end TypedModules
