import TypedModules.Proofs.Eval.Linking
import TypedModules.Proofs.Order.Reordered
import TypedModules.Proofs.Renamed.Module

/-!
# The setting of a reordered context

A reordered context makes a module of another version.  With the two versions exchanged, the setting
in which its declarations are checked mirrors that of the context: the modules on which both depend
have shorter versions, so that nothing that they declare is renamed.

The main statement is `definitions?_mirrors`.
-/

namespace TypedModules

open Check

theorem moduleId_ne_native (context : Context) (name : ModuleName) (dependencies : List Module) :
  context.moduleId name dependencies ≠ nativeModule
  := fun e => version_ne_native context (dependencies.map (·.id)) (congrArg (·.version) e)

/-- The renaming that exchanges the ids of the modules that two contexts make. -/
def Renaming.ofContexts (context other : Context) (name : ModuleName)
    (dependencies : List Module) : Renaming :=
  .swap (context.moduleId name dependencies) (other.moduleId name dependencies)
    (moduleId_ne_native context name dependencies) (moduleId_ne_native other name dependencies)

section Renaming

variable {context other : Context} {name : ModuleName} {dependencies : List Module}

theorem module_ofContexts :
  (Renaming.ofContexts context other name dependencies).module
      (context.moduleId name dependencies) = other.moduleId name dependencies
  := Equiv.swap_apply_left _ _

/-- Only versions are exchanged. -/
theorem name_ofContexts (module : ModuleId) :
  ((Renaming.ofContexts context other name dependencies).module module).name = module.name
  := by
  show (Equiv.swap (context.moduleId name dependencies) (other.moduleId name dependencies)
    module).name = module.name
  rw [Equiv.swap_apply_def]
  split
  next h => rw [h]; rfl
  next =>
    split
    next h => rw [h]; rfl
    next => rfl

/-- No module is renamed whose version is shorter than all that these dependencies lead to. -/
theorem ofContexts_of_shorter {id : ModuleId}
    (h : ∀ context : Context,
      id.version.length < (context.moduleId name dependencies).version.length) :
  (Renaming.ofContexts context other name dependencies).module id = id
  := by
  have hne : ∀ context : Context, id ≠ context.moduleId name dependencies := by
    intro context e
    have hshorter := h context
    rw [e] at hshorter
    exact Nat.lt_irrefl _ hshorter
  exact Equiv.swap_apply_of_ne_of_ne (hne context) (hne other)

variable (hdependencies : ∀ d ∈ dependencies, Accepted d)
include hdependencies

/-- The version of a module is longer than those of the modules that its dependencies reach. -/
theorem length_version_of_reached {module : Module}
    (h : ∃ d ∈ dependencies, module = d ∨ module ∈ d.reachable) (context : Context) :
  module.id.version.length < (context.moduleId name dependencies).version.length
  := by
  obtain ⟨d, hd, hmodule⟩ := h
  have hlonger : d.id.version.length < (context.moduleId name dependencies).version.length :=
    length_version_lt (List.mem_map_of_mem hd) (hdependencies d hd).isVersion
  obtain rfl | hmodule := hmodule
  · exact hlonger
  · exact Nat.lt_trans (length_version_reachable (hdependencies d hd) module hmodule) hlonger

theorem ne_moduleId_of_reached {module : Module}
    (h : ∃ d ∈ dependencies, module = d ∨ module ∈ d.reachable) (context : Context) :
  module.id ≠ context.moduleId name dependencies
  := by
  intro e
  have hlonger : module.id.version.length < (context.moduleId name dependencies).version.length :=
    length_version_of_reached hdependencies h context
  rw [e] at hlonger
  exact Nat.lt_irrefl _ hlonger

/-- The definitions of a module that the dependencies reach mirror themselves, for they name no
module with a longer version. -/
theorem mirrors_of_reached {module : Module}
    (h : ∃ d ∈ dependencies, module = d ∨ module ∈ d.reachable) :
  module.definitions.Mirrors (.ofContexts context other name dependencies) module.definitions
  := by
  have haccepted := accepted_of_reached hdependencies h
  have hlonger : ∀ context : Context,
      module.id.version.length < (context.moduleId name dependencies).version.length :=
    length_version_of_reached hdependencies h
  have hformed := haccepted.formed _ _ (definitionsOf?_self haccepted.not_native)
  apply Definitions.Formed.mirrors_self _ hformed (ofContexts_of_shorter hlonger)
  rintro ⟨id, entity⟩ n ⟨definitions, kind, header, hdefinitions, -, -⟩
  unfold Module.library Module.definitionsOf? at hdefinitions
  split at hdefinitions
  next hnative =>
    have hid : id = nativeModule := by simpa [ModuleId.isNative] using hnative
    exact hid ▸ Renaming.native _
  next =>
    obtain ⟨found, hfound, -⟩ := Option.map_eq_some_iff.mp hdefinitions
    obtain ⟨rfl | hmem, rfl⟩ := Module.mem_of_find? hfound
    · exact ofContexts_of_shorter hlonger
    · exact ofContexts_of_shorter fun context =>
        Nat.lt_trans (length_version_reachable haccepted found hmem) (hlonger context)

end Renaming

/-! ### Definitions -/

/-- The setting in which a context is checked, when some of its own definitions are known. -/
def Setting.knowing (number : Nat) (context : Context) (name : ModuleName)
    (dependencies : List Module) (own : Definitions) : Setting :=
  { Setting.ofModule number (context.moduleId name dependencies) context dependencies with
    own := own }

section Definitions

variable {number : Nat} {context other : Context} {name : ModuleName} {dependencies : List Module}
  {own others : Definitions}

/-- The native definitions mirror themselves. -/
theorem mirrors_nativeDefinitions (σ : Renaming) :
  nativeDefinitions.Mirrors σ nativeDefinitions
  := by
  have hformed : nativeDefinitions.Formed
      (fun id => if id = nativeModule then some nativeDefinitions else none) nativeModule :=
    formed_nativeDefinitions (if_pos rfl)
  apply Definitions.Formed.mirrors_self _ hformed σ.native
  rintro ⟨id, entity⟩ n ⟨definitions, kind, header, hdefinitions, -, -⟩
  dsimp only at hdefinitions
  split at hdefinitions
  next hid => exact hid ▸ σ.native
  next => cases hdefinitions

theorem definitions?_knowing (id : ModuleId) :
  (Setting.knowing number context name dependencies own).definitions? id
    = if id.isNative then some nativeDefinitions
      else if id = context.moduleId name dependencies then some own
      else definitionsFrom? dependencies id
  := rfl

theorem exists_of_definitionsFrom? {id : ModuleId} {definitions : Definitions}
    (h : definitionsFrom? dependencies id = some definitions) :
  ∃ module : Module, (∃ d ∈ dependencies, module = d ∨ module ∈ d.reachable)
    ∧ module.id = id ∧ module.definitions = definitions
  := by
  obtain ⟨module, hmodule, hdefinitions⟩ := Option.map_eq_some_iff.mp h
  exact ⟨module, mem_reachableFrom (List.mem_of_find?_eq_some hmodule),
    by simpa using List.find?_some hmodule, hdefinitions⟩

/-- The definitions of each module mirror those of the renamed one, if the known ones do. -/
theorem definitions?_mirrors (hdependencies : ∀ d ∈ dependencies, Accepted d)
    (hown : own.Mirrors (.ofContexts context other name dependencies) others) (id : ModuleId) :
  Option.Rel (Definitions.Mirrors (.ofContexts context other name dependencies))
    ((Setting.knowing number context name dependencies own).definitions? id)
    ((Setting.knowing number other name dependencies others).definitions?
      ((Renaming.ofContexts context other name dependencies).module id))
  := by
  generalize hσ : Renaming.ofContexts context other name dependencies = σ at hown ⊢
  have hmodule : σ.module (context.moduleId name dependencies)
      = other.moduleId name dependencies := hσ ▸ module_ofContexts
  have hnative : (σ.module id).isNative = id.isNative := by
    rw [Bool.eq_iff_iff, ModuleId.isNative, ModuleId.isNative, beq_iff_eq, beq_iff_eq]
    conv_lhs => rw [← σ.native]
    exact σ.injective.eq_iff
  have hself : σ.module id = other.moduleId name dependencies
      ↔ id = context.moduleId name dependencies := by
    rw [← hmodule, σ.injective.eq_iff]
  rw [definitions?_knowing, definitions?_knowing, hnative]
  split
  · exact .some (mirrors_nativeDefinitions σ)
  · by_cases hid : id = context.moduleId name dependencies
    · rw [if_pos hid, if_pos (hself.mpr hid)]
      exact .some hown
    · rw [if_neg hid, if_neg (mt hself.mp hid)]
      cases hfrom : definitionsFrom? dependencies id with
      | some definitions =>
        obtain ⟨module, hreached, rfl, rfl⟩ := exists_of_definitionsFrom? hfrom
        have hfixed := hσ ▸ ofContexts_of_shorter (length_version_of_reached hdependencies hreached)
        rw [hfixed, hfrom]
        exact .some (hσ ▸ mirrors_of_reached hdependencies hreached)
      | none =>
        cases hfrom' : definitionsFrom? dependencies (σ.module id) with
        | none => exact .none
        | some definitions =>
          -- A module that is reached is not renamed, so it would be reached under the first id.
          obtain ⟨module, hreached, hmoduleId, -⟩ := exists_of_definitionsFrom? hfrom'
          have hfixed := hσ ▸ ofContexts_of_shorter
            (length_version_of_reached hdependencies hreached)
          have hsame : σ.module id = id := by
            rw [hmoduleId] at hfixed
            exact σ.injective hfixed
          rw [hsame, hfrom] at hfrom'
          cases hfrom'

end Definitions

end TypedModules
