import TypedModules.Proofs.Order.Resolved
import TypedModules.Proofs.Order.Settings
import TypedModules.Proofs.Resolve.Seen

/-!
# What a reordered context sees

What is visible to a reordered context is what is visible to the context, in another order and with
the versions of the two modules exchanged.  So a reference that names no version stands for the same
thing.  Whatever it stands for has been declared: a type has a header from the start, and a function
has a signature once all headers pass.

The main statements are `mirrorsTypes_knowing` and `mirrors_knowing`.
-/

namespace TypedModules

open Check

/-! ### What is visible -/

theorem rename_eq_self {σ : Renaming} {entry : Visible}
    (h : σ.module entry.entity.module = entry.entity.module) :
  entry.rename σ = entry
  := by
  rw [Visible.rename, Entity.rename, h]

theorem map_rename_declaredTypes (σ : Renaming) (module : ModuleId) (context : Context) :
  (Scope.declaredTypes module context).map (Visible.rename σ)
    = Scope.declaredTypes (σ.module module) context
  := by
  simp [Scope.declaredTypes, Scope.ofInterface, Scope.visible, Visible.rename, Entity.rename,
    List.map_flatMap, Function.comp_def]

theorem map_rename_declaredFunctions (σ : Renaming) (module : ModuleId) (context : Context) :
  (Scope.declaredFunctions module context).map (Visible.rename σ)
    = Scope.declaredFunctions (σ.module module) context
  := by
  simp [Scope.declaredFunctions, Scope.ofInterface, Scope.ofUnion, Scope.visible, Visible.rename,
    Entity.rename, List.map_flatMap, Function.comp_def]

theorem module_of_mem_exportedTypes {module : Module} {entry : Visible}
    (h : entry ∈ Scope.exportedTypes module) :
  entry.entity.module = module.id
  := by
  have hentity : entry.entity ∈ entitiesOf module.id .type module.exported :=
    entities_exportedTypes module ▸ List.mem_map_of_mem h
  exact (mem_entitiesOf.mp hentity).1

theorem module_of_mem_exportedFunctions {module : Module} {entry : Visible}
    (h : entry ∈ Scope.exportedFunctions module) :
  entry.entity.module = module.id
  := (shows_of_mem_callables ((exportedFunctions_sublist module).subset h)).1

theorem module_of_mem_native {entry : Visible}
    (h : entry ∈ Scope.nativeTypes ∨ entry ∈ Scope.nativeFunctions) :
  entry.entity.module = nativeModule
  := by
  simp only [Scope.nativeTypes, Scope.nativeFunctions, List.mem_append, List.mem_map] at h
  obtain (⟨s, -, rfl⟩ | ⟨o, ho, rfl⟩) | ⟨f, -, rfl⟩ | ⟨s, -, rfl⟩ := h
  · rfl
  · have hopaques : ∀ o ∈ nativeDefinitions.opaques, o.entity.module = nativeModule := by
      decide +kernel
    exact hopaques o ho
  · rfl
  · rfl

/-! ### What definitions bring along -/

/-- Whether unions have distinct ids, none of them without segments, so that the union can be told
from the id of an option. -/
structure Definitions.Named (definitions : Definitions) : Prop where
  distinct : (definitions.unions.map (·.id)).Nodup
  segments : ∀ u ∈ definitions.unions, u.id.segments ≠ []

theorem Definitions.Named.unionOf?_child {definitions : Definitions} (h : definitions.Named)
    {union : Union} (hmem : union ∈ definitions.unions) (name : String) :
  definitions.unionOf? (union.id.child name) = some union
  := by
  rw [Definitions.unionOf?, EntityId.parent?_child name (h.segments union hmem), Option.bind_some]
  exact find?_of_nodup h.distinct hmem

/-- The functions that definitions bring along have signatures. -/
theorem signature?_of_mem_callables {definitions : Definitions} (hnamed : definitions.Named)
    {id : ModuleId} {entry : Visible} (h : entry ∈ definitions.callables id) :
  definitions.signature? entry.kind entry.entity.id ≠ none
  := by
  simp only [Definitions.callables, List.mem_append, List.mem_map, List.mem_flatMap] at h
  obtain ((⟨f, hf, rfl⟩ | ⟨s, hs, rfl⟩) | ⟨i, hi, h⟩) | ⟨u, hu, h⟩ := h
  · exact find?_ne_none Signature.id hf
  · exact mt Option.map_eq_none_iff.mp (find?_ne_none StructHeader.id hs)
  · obtain rfl | rfl := List.mem_pair.mp h
    · exact mt Option.map_eq_none_iff.mp (find?_ne_none Interface.id hi)
    · exact mt Option.map_eq_none_iff.mp (find?_ne_none Interface.adapterId hi)
  · obtain h | h := List.mem_append.mp h
    · obtain ⟨_, hname, rfl⟩ := List.mem_map.mp h
      obtain ⟨option, hoption, rfl⟩ := List.mem_map.mp hname
      show (definitions.unionOf? (u.id.child option.name)).bind (fun union =>
        (union.option? (u.id.child option.name).last).map union.optionConstructor) ≠ none
      rw [hnamed.unionOf?_child hu, Option.bind_some, EntityId.last_child]
      exact mt Option.map_eq_none_iff.mp (find?_ne_none UnionOption.name hoption)
    · obtain rfl := List.mem_singleton.mp h
      show (definitions.unionOf? (u.id.child "when")).map _ ≠ none
      rw [hnamed.unionOf?_child hu]
      exact Option.some_ne_none _

theorem signature?_native {entry : Visible} (h : entry ∈ Scope.nativeFunctions) :
  nativeDefinitions.signature? entry.kind entry.entity.id ≠ none
  := by
  have hall : ∀ entry ∈ Scope.nativeFunctions,
      (nativeDefinitions.signature? entry.kind entry.entity.id).isSome = true := by
    decide +kernel
  exact Option.isSome_iff_ne_none.mp (hall entry h)

theorem typeHeader?_native {entry : Visible} (h : entry ∈ Scope.nativeTypes) :
  nativeDefinitions.typeHeader? entry.kind entry.entity.id ≠ none
  := by
  have hall : ∀ entry ∈ Scope.nativeTypes,
      (nativeDefinitions.typeHeader? entry.kind entry.entity.id).isSome = true := by
    decide +kernel
  exact Option.isSome_iff_ne_none.mp (hall entry h)

/-- A module declares the types that it exports. -/
theorem typeHeader?_exported {module : Module} {entry : Visible}
    (h : entry ∈ Scope.exportedTypes module) :
  module.definitions.typeHeader? entry.kind entry.entity.id ≠ none
  := by
  simp only [Scope.exportedTypes, List.mem_append, List.mem_map, List.mem_flatMap,
    List.mem_filter] at h
  obtain (⟨s, ⟨hs, -⟩, rfl⟩ | ⟨i, ⟨hi, -⟩, h⟩) | ⟨u, ⟨hu, -⟩, rfl⟩ := h
  · have hheader : s.toStructHeader ∈ module.definitions.structs := List.mem_map_of_mem hs
    exact mt Option.map_eq_none_iff.mp (find?_ne_none StructHeader.id hheader)
  · obtain rfl | rfl := List.mem_pair.mp h
    · exact mt Option.map_eq_none_iff.mp (find?_ne_none Interface.id hi)
    · exact mt Option.map_eq_none_iff.mp (find?_ne_none Interface.adapterId hi)
  · exact mt Option.map_eq_none_iff.mp (find?_ne_none Union.id hu)

/-- A context has headers for the types that it declares, from the start. -/
theorem mem_typeHeaders_of_declaredTypes {module : ModuleId} {context : Context}
    {duplicates : List EntityId} {entry : Visible}
    (h : entry ∈ Scope.declaredTypes module (Scope.unique context duplicates)) :
  entry.entity.module = module ∧ ∃ header, (entry.entity.id, header) ∈ context.typeHeaders
  := by
  simp only [Scope.declaredTypes, Scope.unique, List.mem_append, List.mem_map, List.mem_flatMap,
    List.mem_filter] at h
  simp only [Context.typeHeaders, List.mem_append, List.mem_map, List.mem_flatMap]
  obtain (⟨s, ⟨hs, -⟩, rfl⟩ | ⟨i, ⟨hi, -⟩, h⟩) | ⟨u, ⟨hu, -⟩, rfl⟩ := h
  · exact ⟨rfl, _, .inl (.inl ⟨s, hs, rfl⟩)⟩
  · obtain rfl | rfl := List.mem_pair.mp h
    · exact ⟨rfl, _, .inl (.inr ⟨i, hi, List.mem_cons_self⟩)⟩
    · exact ⟨rfl, _, .inl (.inr ⟨i, hi, List.mem_cons_of_mem _ List.mem_cons_self⟩)⟩
  · exact ⟨rfl, _, .inr ⟨u, hu, rfl⟩⟩

/-! ### Settings -/

section Contexts

variable {number : Nat} {context other : Context} {name : ModuleName} {dependencies : List Module}
  {own others : Definitions}

theorem number_knowing :
  (Setting.knowing number context name dependencies own).number = number
  := rfl

theorem typeParams_knowing :
  (Setting.knowing number context name dependencies own).typeParams = []
  := rfl

theorem scope_knowing :
  (Setting.knowing number context name dependencies own).scope
    = .ofModule (context.moduleId name dependencies) context context.duplicateIds dependencies
  := rfl

theorem shapeCount_knowing :
  (Setting.knowing number context name dependencies own).shapeCount
    = (reachableFrom dependencies).foldl
      (fun n m => n + (m.definitions.structs.length + m.definitions.unions.length))
      (nativeDefinitions.structs.length + nativeDefinitions.unions.length
        + (own.structs.length + own.unions.length))
  := rfl

/-- A reordered context sees the same, with the versions exchanged. -/
theorem entries_reordered (h : context.Reordered other)
    (hdependencies : ∀ d ∈ dependencies, Accepted d) (space : Namespace) :
  (((Scope.ofModule (context.moduleId name dependencies) context context.duplicateIds
        dependencies).entries space).map
      (Visible.rename (.ofContexts context other name dependencies))).Perm
    ((Scope.ofModule (other.moduleId name dependencies) other other.duplicateIds
      dependencies).entries space)
  := by
  generalize hσ : Renaming.ofContexts context other name dependencies = σ
  have hmodule : σ.module (context.moduleId name dependencies)
      = other.moduleId name dependencies := hσ ▸ module_ofContexts
  have hdependency : ∀ d ∈ dependencies, σ.module d.id = d.id := fun d hd =>
    hσ ▸ ofContexts_of_shorter (length_version_of_reached hdependencies ⟨d, hd, .inl rfl⟩)
  have hnative : ∀ entry, entry ∈ Scope.nativeTypes ∨ entry ∈ Scope.nativeFunctions →
      entry.rename σ = entry := by
    intro entry hentry
    apply rename_eq_self
    rw [module_of_mem_native hentry, σ.native]
  have hexported : ∀ {exported : Module → List Visible},
      (∀ d, ∀ entry ∈ exported d, entry.entity.module = d.id) →
      (dependencies.flatMap exported).map (Visible.rename σ) = dependencies.flatMap exported := by
    intro exported hexported
    apply map_eq_self
    intro entry hentry
    obtain ⟨d, hd, hentry⟩ := List.mem_flatMap.mp hentry
    apply rename_eq_self
    rw [hexported d entry hentry, hdependency d hd]
  cases space with
  | type =>
    simp only [Scope.ofModule, Scope.entries, List.map_append]
    rw [map_rename_declaredTypes, hmodule, map_eq_self fun entry he => hnative entry (.inl he),
      hexported fun _ _ => module_of_mem_exportedTypes]
    exact (h.unique.declaredTypes _).append_left _
  | function =>
    simp only [Scope.ofModule, Scope.entries, List.map_append]
    rw [map_rename_declaredFunctions, hmodule, map_eq_self fun entry he => hnative entry (.inr he),
      hexported fun _ _ => module_of_mem_exportedFunctions]
    exact (h.unique.declaredFunctions _).append_left _

/-- A reference that names no version stands for the same thing in a reordered context. -/
theorem resolve_reordered (h : context.Reordered other)
    (hdependencies : ∀ d ∈ dependencies, Accepted d) (space : Namespace) {reference : Reference}
    (hstable : reference.Stable (.ofContexts context other name dependencies)) :
  ResolutionMirrors (.ofContexts context other name dependencies)
    ((Setting.knowing number context name dependencies own).scope.resolve space reference)
    ((Setting.knowing number other name dependencies others).scope.resolve space reference)
  := by
  rw [scope_knowing, scope_knowing]
  exact resolve_mirrors (entries_reordered h hdependencies) h.contains_duplicateIds
    module_ofContexts.symm space hstable

theorem hasName_reordered (h : context.Reordered other)
    (hdependencies : ∀ d ∈ dependencies, Accepted d) (space : Namespace) (id : EntityId) :
  (Setting.knowing number other name dependencies others).scope.hasName space id
    = (Setting.knowing number context name dependencies own).scope.hasName space id
  := by
  rw [scope_knowing, scope_knowing]
  exact hasName_mirrors (entries_reordered h hdependencies) h.contains_duplicateIds space id

theorem typeHeader?_knowing (entry : Visible) :
  (Setting.knowing number context name dependencies own).typeHeader? entry
    = if entry.entity.module = context.moduleId name dependencies then
        ((context.typeHeaders.filter fun header =>
          !context.duplicateIds.contains header.1).find? (·.1 == entry.entity.id)).map (·.2)
      else
        ((Setting.knowing number context name dependencies own).definitions?
          entry.entity.module).bind fun definitions =>
            definitions.typeHeader? entry.kind entry.entity.id
  := rfl

/-- A type has the same header for a reordered context. -/
theorem typeHeader?_reordered (h : context.Reordered other)
    (hdependencies : ∀ d ∈ dependencies, Accepted d)
    (hown : own.Mirrors (.ofContexts context other name dependencies) others) (entry : Visible) :
  (Setting.knowing number other name dependencies others).typeHeader?
      (entry.rename (.ofContexts context other name dependencies))
    = (Setting.knowing number context name dependencies own).typeHeader? entry
  := by
  have hdefinitions : Option.Rel _
      ((Setting.knowing number context name dependencies own).definitions? entry.entity.module) _ :=
    definitions?_mirrors hdependencies hown entry.entity.module
  have hmodule : (Renaming.ofContexts context other name dependencies).module entry.entity.module
      = other.moduleId name dependencies
      ↔ entry.entity.module = context.moduleId name dependencies := by
    rw [← @module_ofContexts context, (Renaming.injective _).eq_iff]
  rw [typeHeader?_knowing, typeHeader?_knowing]
  simp only [Visible.rename, Entity.rename, hmodule]
  split
  · have hperm : (context.typeHeaders.filter fun header =>
          !context.duplicateIds.contains header.1).Perm
        (other.typeHeaders.filter fun header => !other.duplicateIds.contains header.1) := by
      simp only [h.contains_duplicateIds]
      exact h.typeHeaders.filter _
    exact congrArg _ (find?_of_perm hperm (nodup_typeHeaders context) entry.entity.id)
  · generalize (Setting.knowing number context name dependencies own).definitions?
      entry.entity.module = definitions at hdefinitions ⊢
    generalize (Setting.knowing number other name dependencies others).definitions? _
      = definitions' at hdefinitions ⊢
    cases hdefinitions with
    | none => rfl
    | some hmirrors => exact hmirrors.typeHeader? _ _

/-! ### What is visible has been declared -/

theorem definitions?_native :
  (Setting.knowing number context name dependencies own).definitions? nativeModule
    = some nativeDefinitions
  := rfl

theorem definitions?_own :
  (Setting.knowing number context name dependencies own).definitions?
      (context.moduleId name dependencies)
    = some own
  := by
  have hnative : (context.moduleId name dependencies).isNative = false :=
    beq_eq_false_iff_ne.mpr (moduleId_ne_native context name dependencies)
  rw [definitions?_knowing, hnative, if_neg Bool.false_ne_true, if_pos rfl]

theorem definitions?_dependency (hdependencies : ∀ d ∈ dependencies, Accepted d) {d : Module}
    (hd : d ∈ dependencies) :
  (Setting.knowing number context name dependencies own).definitions? d.id = some d.definitions
  := by
  have hne : d.id ≠ context.moduleId name dependencies :=
    ne_moduleId_of_reached hdependencies ⟨d, hd, .inl rfl⟩ context
  rw [definitions?_knowing, (hdependencies d hd).not_native, if_neg Bool.false_ne_true, if_neg hne]
  apply (definitionsFrom?_eq_some (fun d hd => coherent_of_accepted (hdependencies d hd))
    hdependencies (.refl _)).mpr
  exact ⟨d, hd, by rw [Module.find?_self, Option.map_some]⟩

/-- A type that a reference stands for has a header. -/
theorem typeHeader?_of_resolve (hdependencies : ∀ d ∈ dependencies, Accepted d)
    {reference : Reference} {entry : Visible}
    (h : (Setting.knowing number context name dependencies own).scope.resolve .type reference
      = .ok entry) :
  (Setting.knowing number context name dependencies own).typeHeader? entry ≠ none
  := by
  obtain ⟨hmeans, hcandidates⟩ := resolve_eq_ok.mp h
  obtain ⟨hentry, hadmits⟩ := List.mem_filter.mp (hcandidates ▸ List.mem_singleton.mpr rfl)
  simp only [Bool.and_eq_true, beq_iff_eq] at hadmits
  rw [typeHeader?_knowing]
  simp only [Setting.knowing, Setting.ofModule, Scope.ofModule, Scope.entries, List.mem_append,
    List.mem_flatMap] at hentry
  obtain (hnative | ⟨d, hd, hexported⟩) | hdeclared := hentry
  · have hmodule := module_of_mem_native (.inl hnative)
    rw [hmodule, if_neg (moduleId_ne_native context name dependencies).symm, definitions?_native]
    exact typeHeader?_native hnative
  · have hne : d.id ≠ context.moduleId name dependencies :=
      ne_moduleId_of_reached hdependencies ⟨d, hd, .inl rfl⟩ context
    rw [module_of_mem_exportedTypes hexported, if_neg hne, definitions?_dependency hdependencies hd]
    exact typeHeader?_exported hexported
  · obtain ⟨hmodule, header, hheader⟩ := mem_typeHeaders_of_declaredTypes hdeclared
    -- The id is not duplicated, or the reference would mean a duplicate.
    have hunique : context.duplicateIds.contains entry.entity.id = false := by
      rw [hadmits.1]
      have hadmits := hmodule ▸ hadmits.2
      simpa [Scope.meansDuplicate, Setting.knowing, Setting.ofModule, Scope.ofModule, hadmits]
        using hmeans
    rw [if_pos hmodule]
    have hfiltered : (entry.entity.id, header) ∈ context.typeHeaders.filter fun header =>
        !context.duplicateIds.contains header.1 := List.mem_filter.mpr ⟨hheader, by rw [hunique]; rfl⟩
    exact mt Option.map_eq_none_iff.mp (find?_ne_none Prod.fst hfiltered)

/-- A function that a reference stands for has a signature, if those of the module itself have. -/
theorem signature?_of_resolve (hdependencies : ∀ d ∈ dependencies, Accepted d)
    (hnamed : ∀ d ∈ dependencies, d.definitions.Named) (hown : own.Named)
    (hdeclared : Scope.declaredFunctions (context.moduleId name dependencies)
        (Scope.unique context context.duplicateIds)
      = own.callables (context.moduleId name dependencies))
    {reference : Reference} {entry : Visible}
    (h : (Setting.knowing number context name dependencies own).scope.resolve .function reference
      = .ok entry) :
  (Setting.knowing number context name dependencies own).signature? entry ≠ none
  := by
  have hcandidates := (resolve_eq_ok.mp h).2
  obtain ⟨hentry, -⟩ := List.mem_filter.mp (hcandidates ▸ List.mem_singleton.mpr rfl)
  simp only [Setting.knowing, Setting.ofModule, Scope.ofModule, Scope.entries, List.mem_append,
    List.mem_flatMap, hdeclared] at hentry
  unfold Setting.signature?
  obtain (hnative | ⟨d, hd, hexported⟩) | hcallable := hentry
  · rw [module_of_mem_native (.inr hnative), definitions?_native]
    exact signature?_native hnative
  · rw [module_of_mem_exportedFunctions hexported, definitions?_dependency hdependencies hd]
    exact signature?_of_mem_callables (hnamed d hd) ((exportedFunctions_sublist d).subset hexported)
  · rw [(shows_of_mem_callables hcallable).1, definitions?_own]
    exact signature?_of_mem_callables hown hcallable

/-! ### The settings mirror each other -/

/-- The settings in which a context and a reordered one are checked mirror each other as far as types
go, whatever is known of their own definitions as long as it mirrors each other. -/
theorem mirrorsTypes_knowing (h : context.Reordered other)
    (hdependencies : ∀ d ∈ dependencies, Accepted d)
    (hown : own.Mirrors (.ofContexts context other name dependencies) others) (settled : Prop) :
  (Setting.knowing number context name dependencies own).MirrorsTypes
    (.ofContexts context other name dependencies) settled
    (Setting.knowing number other name dependencies others)
  := {
    module := module_ofContexts.symm
    typeParams := typeParams_knowing.trans typeParams_knowing.symm
    resolve := fun space _ hstable => resolve_reordered h hdependencies space hstable
    typeHeader? := typeHeader?_reordered h hdependencies hown
    known := fun _ _ _ => typeHeader?_of_resolve hdependencies }

/-- The settings mirror each other altogether if as much is known of either.  That what is visible as
a function has a signature is settled once the headers of the context have passed. -/
theorem mirrors_knowing (h : context.Reordered other)
    (hdependencies : ∀ d ∈ dependencies, Accepted d)
    (hnamed : ∀ d ∈ dependencies, d.definitions.Named)
    (hown : own.Mirrors (.ofContexts context other name dependencies) others)
    (hstructs : others.structs.length = own.structs.length)
    (hunions : others.unions.length = own.unions.length) {settled : Prop}
    (hsettled : settled → own.Named
      ∧ Scope.declaredFunctions (context.moduleId name dependencies)
          (Scope.unique context context.duplicateIds)
        = own.callables (context.moduleId name dependencies)) :
  (Setting.knowing number context name dependencies own).Mirrors
    (.ofContexts context other name dependencies) settled
    (Setting.knowing number other name dependencies others)
  := {
    mirrorsTypes_knowing h hdependencies hown settled with
    number := number_knowing.trans number_knowing.symm
    definitions? := definitions?_mirrors hdependencies hown
    shapeCount := by rw [shapeCount_knowing, shapeCount_knowing, hstructs, hunions]
    hasName := hasName_reordered h hdependencies
    callable := fun hs _ _ =>
      signature?_of_resolve hdependencies hnamed (hsettled hs).1 (hsettled hs).2 }

end Contexts

end TypedModules
