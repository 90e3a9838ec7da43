import TypedModules.Proofs.Resolve.Order
import TypedModules.Proofs.Resolve.Seen
import TypedModules.Proofs.Typing.Module

/-!
# Resolution is exact

A reference that means a duplicated id is refused as such.  Any other has the one entity as its
answer that it may stand for, or the absence of any, or the several in order, as long as no scope
holds an entity twice: then resolution counts it twice, and calls ambiguous what names one entity
only.  A scope holds nothing twice if its dependencies have different ids and no id is declared
twice that is not among the duplicated ones.
-/

namespace TypedModules

/-! ### Answers -/

/-- Whether a reference leaves open that it stands for an entity. -/
def Reference.Matches (reference : Reference) (entity : Entity) : Prop :=
  entity.id = reference.id ∧ reference.admits entity.module = true

/-- Whether a result is the answer for a reference that may stand for the given entities: the only
one, or that there is none, or all of them in order. -/
inductive Answers (space : Namespace) (reference : Reference) (means : Entity → Prop) :
    Except ResolutionError Visible → Prop
  | found {entry : Visible} :
    (∀ entity, means entity ↔ entity = entry.entity) → Answers space reference means (.ok entry)
  | missing :
    (∀ entity, ¬means entity) → Answers space reference means (.error (.notFound reference space))
  | several {entities : List Entity} :
    entities.Nodup → entities.Pairwise (fun a b => a.le b = true) →
    (∀ entity, entity ∈ entities ↔ means entity) → 2 ≤ entities.length →
    Answers space reference means (.error (.ambiguous reference entities))

namespace Scope

variable {scope : Scope} {space : Namespace} {reference : Reference}

/-- The entities for which a reference may stand, as often as a scope holds them. -/
def matching (scope : Scope) (space : Namespace) (reference : Reference) : List Entity :=
  (scope.candidates space reference).map (·.entity)

theorem matching_eq_filter :
  scope.matching space reference
    = ((scope.entries space).map (·.entity)).filter fun entity =>
      entity.id == reference.id && reference.admits entity.module
  := by
  simp [matching, candidates, List.filter_map, Function.comp_def]

theorem mem_matching {entity : Entity} :
  entity ∈ scope.matching space reference
    ↔ entity ∈ (scope.entries space).map (·.entity) ∧ reference.Matches entity
  := by
  rw [matching_eq_filter, List.mem_filter, Reference.Matches, Bool.and_eq_true, beq_iff_eq]

/-- The result is the answer exactly if no entity is held twice. -/
theorem answers_resolve_iff (h : scope.meansDuplicate reference = false) :
  Answers space reference (· ∈ scope.matching space reference) (scope.resolve space reference)
    ↔ (scope.matching space reference).Nodup
  := by
  unfold resolve matching
  rw [h, if_neg Bool.false_ne_true]
  split
  next only e =>
    rw [e]
    simp only [List.map_cons, List.map_nil, List.nodup_singleton, iff_true]
    exact .found fun _ => List.mem_singleton
  next e =>
    rw [e]
    simp only [List.map_nil, List.nodup_nil, iff_true]
    exact .missing fun _ => List.not_mem_nil
  next many hone hnone =>
    have hsorted := List.mergeSort_perm ((scope.candidates space reference).map (·.entity)) Entity.le
    constructor
    · rintro (_ | _ | ⟨hnodup, -, -, -⟩)
      exact hsorted.nodup_iff.mp hnodup
    · intro hnodup
      refine .several (hsorted.nodup_iff.mpr hnodup) (pairwise_mergeSort_le _)
        (fun _ => hsorted.mem_iff) ?_
      rw [List.length_mergeSort, List.length_map]
      match hmany : scope.candidates space reference with
      | [] => exact absurd hmany hnone
      | [only] => exact absurd hmany (hone only)
      | _ :: _ :: _ => simp

end Scope

/-- If a reference may stand for one entity only, then that is the answer. -/
theorem Answers.eq_ok {space : Namespace} {reference : Reference} {means : Entity → Prop}
    {result : Except ResolutionError Visible} (h : Answers space reference means result)
    {only : Entity} (honly : ∀ entity, means entity ↔ entity = only) :
  ∃ entry, result = .ok entry ∧ entry.entity = only
  := by
  cases h with
  | @found entry hmeans => exact ⟨entry, rfl, ((hmeans only).mp ((honly only).mpr rfl)).symm⟩
  | missing hmeans => exact absurd ((honly only).mpr rfl) (hmeans only)
  | @several entities hnodup _ hmeans hlength =>
    have hall : entities = List.replicate entities.length only :=
      List.eq_replicate_iff.mpr ⟨rfl, fun a ha => (honly a).mp ((hmeans a).mp ha)⟩
    rw [hall, List.nodup_replicate] at hnodup
    omega

/-- If several entities are the answer, then two of them are of different modules. -/
theorem exists_modules_of_answers {space : Namespace} {reference : Reference}
    {means : Entity → Prop} {entities : List Entity}
    (hmatches : ∀ entity, means entity → reference.Matches entity)
    (h : Answers space reference means (.error (.ambiguous reference entities))) :
  ∃ a ∈ entities, ∃ b ∈ entities, a.module ≠ b.module
  := by
  obtain _ | _ | ⟨hnodup, -, hmeans, hlength⟩ := h
  match entities with
  | a :: b :: rest =>
    refine ⟨a, by simp, b, by simp, fun hmodule => ?_⟩
    have ha := (hmatches a ((hmeans a).mp (by simp))).1
    have hb := (hmatches b ((hmeans b).mp (by simp))).1
    have hne : a ≠ b := by
      rintro rfl
      simp at hnodup
    apply hne
    cases a
    cases b
    simp_all

/-! ### Nothing is held twice -/

theorem claims_declarations (context : Context) :
  context.claims.map (·.id) = context.declarations.flatMap (·.claims)
  := by
  simp [claims_ids, Context.declarations, Declaration.claims, List.flatMap_append,
    List.flatMap_map, Function.comp_def, ← List.map_eq_flatMap]

/-- Whether the modules that a scope is made of are told apart, and declare no id twice: the
dependencies are accepted and have ids of their own, and the context declares an id twice only if
it is one of the duplicated ones. -/
structure DistinctSources (home : ModuleId) (context : Context) (duplicates : List EntityId)
    (dependencies : List Module) : Prop where
  accepted : ∀ dependency ∈ dependencies, Accepted dependency
  distinct : (home :: nativeModule :: dependencies.map (·.id)).Nodup
  duplicated : ∀ id ∈ context.duplicateIds, id ∈ duplicates

theorem nodup_nativeIds (space : Namespace) :
  (nativeIds space).Nodup
  := by
  cases space <;> decide +kernel

theorem nodup_entitiesOf {module : ModuleId} {space : Namespace}
    {declarations : List Declaration} (h : (declarations.flatMap (·.claims)).Nodup) :
  (entitiesOf module space declarations).Nodup
  := by
  have hids := h.sublist
    (List.Sublist.flatMap_right declarations fun d _ => d.ids_sublist_claims space)
  exact hids.map fun _ _ e => (Entity.mk.inj e).2

theorem Accepted.nodup_exported {module : Module} (h : Accepted module) (space : Namespace) :
  (entitiesOf module.id space module.exported).Nodup
  := by
  have hd := definitionsOf?_self h.not_native
  exact nodup_entitiesOf ((h.formed _ _ hd).distinct.sublist module.exported_sublist)

namespace DistinctSources

variable {home : ModuleId} {context : Context} {duplicates : List EntityId}
  {dependencies : List Module} (h : DistinctSources home context duplicates dependencies)

include h

/-- What the dependencies export is exported once. -/
theorem nodup_dependencies (space : Namespace) :
  (dependencies.flatMap fun d => entitiesOf d.id space d.exported).Nodup
  := by
  rw [List.nodup_flatMap]
  refine ⟨fun d hd => (h.accepted d hd).nodup_exported space, ?_⟩
  have hids : (dependencies.map (·.id)).Nodup :=
    (List.nodup_cons.mp (List.nodup_cons.mp h.distinct).2).2
  apply (List.pairwise_map.mp hids).imp
  intro a b hne entity ha hb
  exact hne ((mem_entitiesOf.mp ha).1.symm.trans (mem_entitiesOf.mp hb).1)

/-- The module's own declarations bring an id once at most that is not duplicated. -/
theorem count_own_le_one {id : EntityId} (hid : id ∉ duplicates) (space : Namespace) :
  ((context.uniqueDeclarations duplicates).flatMap (·.ids space)).count id ≤ 1
  := by
  have hunique : (context.uniqueDeclarations duplicates).Sublist context.declarations :=
    List.filter_sublist
  have hsublist := (hunique.flatMap (·.ids space)).trans
    (List.Sublist.flatMap_right context.declarations fun d _ => d.ids_sublist_claims space)
  have hclaims := count_claims_le_one fun hdup => hid (h.duplicated id hdup)
  rw [claims_declarations] at hclaims
  exact Nat.le_trans (hsublist.count_le id) hclaims

/-- Of its own entities the module holds once at most what a reference to no duplicated id may
stand for. -/
theorem nodup_own {reference : Reference} (hreference : reference.id ∉ duplicates)
    (space : Namespace) :
  ((entitiesOf home space (context.uniqueDeclarations duplicates)).filter fun entity =>
    entity.id == reference.id && reference.admits entity.module).Nodup
  := by
  rw [entitiesOf, List.filter_map]
  apply List.Nodup.map fun _ _ e => (Entity.mk.inj e).2
  rw [List.nodup_iff_count_le_one]
  intro id
  by_cases hid : id = reference.id
  case pos =>
    rw [hid]
    exact Nat.le_trans (List.filter_sublist.count_le _) (h.count_own_le_one hreference space)
  case neg =>
    rw [List.count_eq_zero_of_not_mem]
    · exact Nat.zero_le 1
    · simp [hid]

/-- No entity is held twice for which a reference may stand that means no duplicate. -/
theorem nodup_matching {reference : Reference}
    (hreference : ¬(reference.id ∈ duplicates ∧ reference.admits home = true))
    (space : Namespace) :
  ((Scope.ofModule home context duplicates dependencies).matching space reference).Nodup
  := by
  obtain ⟨hhome, hothers⟩ := List.nodup_cons.mp h.distinct
  obtain ⟨hnative, -⟩ := List.nodup_cons.mp hothers
  have hnatives : ((nativeIds space).map (Entity.mk nativeModule)).Nodup :=
    (nodup_nativeIds space).map fun _ _ e => (Entity.mk.inj e).2
  have hforeign : ((nativeIds space).map (Entity.mk nativeModule)
      ++ dependencies.flatMap fun d => entitiesOf d.id space d.exported).Nodup := by
    refine List.nodup_append.mpr ⟨hnatives, h.nodup_dependencies space, ?_⟩
    rintro a ha _ hb rfl
    obtain ⟨_, -, rfl⟩ := List.mem_map.mp ha
    obtain ⟨d, hd, hb⟩ := List.mem_flatMap.mp hb
    exact hnative (List.mem_map.mpr ⟨d, hd, (mem_entitiesOf.mp hb).1.symm⟩)
  rw [Scope.matching_eq_filter, entities_ofModule, List.filter_append, List.nodup_append]
  refine ⟨hforeign.filter _, ?_, ?_⟩
  · -- a reference to a duplicated id is admitted only if its qualifier rules the module out
    by_cases hid : reference.id ∈ duplicates
    case neg => exact h.nodup_own hid space
    have hnone : (entitiesOf home space (context.uniqueDeclarations duplicates)).filter
        (fun entity => entity.id == reference.id && reference.admits entity.module) = [] := by
      rw [List.filter_eq_nil_iff]
      intro entity hentity
      rw [(mem_entitiesOf.mp hentity).1]
      simp [Bool.eq_false_iff.mpr fun hadmits => hreference ⟨hid, hadmits⟩]
    rw [hnone]
    exact List.nodup_nil
  · rintro a ha _ hb rfl
    have hmodule := (mem_entitiesOf.mp (List.mem_filter.mp hb).1).1
    obtain ha | ha := List.mem_append.mp (List.mem_filter.mp ha).1
    · obtain ⟨_, -, rfl⟩ := List.mem_map.mp ha
      exact hhome (List.mem_cons.mpr (.inl hmodule.symm))
    · obtain ⟨d, hd, ha⟩ := List.mem_flatMap.mp ha
      have hd' := (mem_entitiesOf.mp ha).1
      rw [hmodule] at hd'
      exact hhome (List.mem_cons_of_mem _ (List.mem_map.mpr ⟨d, hd, hd'.symm⟩))

end DistinctSources

/-- A reference that means a duplicated id is refused as such.  To any other the result is the
answer among what the module sees exactly if the scope holds nothing twice for which the reference
may stand; and it holds nothing twice if the sources are distinct, so that then a reference is
ambiguous only between different modules. -/
theorem resolve_exact (home : ModuleId) (context : Context) (duplicates : List EntityId)
    (dependencies : List Module) (space : Namespace) (reference : Reference) :
  let scope := Scope.ofModule home context duplicates dependencies
  let means := fun entity =>
    Sees home context duplicates dependencies space entity ∧ reference.Matches entity
  (reference.id ∈ duplicates ∧ reference.admits home = true →
      scope.resolve space reference = .error (.duplicate reference))
    ∧ (¬(reference.id ∈ duplicates ∧ reference.admits home = true) →
      (Answers space reference means (scope.resolve space reference)
          ↔ (scope.matching space reference).Nodup)
        ∧ (DistinctSources home context duplicates dependencies →
          Answers space reference means (scope.resolve space reference)
            ∧ ∀ entities, scope.resolve space reference = .error (.ambiguous reference entities) →
              ∃ a ∈ entities, ∃ b ∈ entities, a.module ≠ b.module))
  := by
  intro scope means
  have hmeans : (· ∈ scope.matching space reference) = means := by
    funext entity
    rw [Scope.mem_matching, mem_entities_ofModule]
  have hduplicate : scope.meansDuplicate reference = true
      ↔ reference.id ∈ duplicates ∧ reference.admits home = true := by
    simp [scope, Scope.meansDuplicate, Scope.ofModule]
  constructor
  · intro h
    rw [Scope.resolve, if_pos (hduplicate.mpr h)]
  · intro h
    have hiff := @Scope.answers_resolve_iff scope space reference
      (Bool.eq_false_iff.mpr (mt hduplicate.mp h))
    rw [hmeans] at hiff
    refine ⟨hiff, fun hdistinct => ?_⟩
    have hanswers := hiff.mpr (hdistinct.nodup_matching h space)
    refine ⟨hanswers, fun entities hentities => ?_⟩
    rw [hentities] at hanswers
    exact exists_modules_of_answers (fun _ hentity => hentity.2) hanswers

/-! ### A dependency that is listed twice -/

/-- What a dependency exports is held twice if the dependency is listed twice. -/
theorem not_nodup_of_repeated {home : ModuleId} {context : Context} {duplicates : List EntityId}
    {dependencies : List Module} {dependency : Module} {declaration : Declaration}
    {space : Namespace} {id : EntityId} {reference : Reference}
    (hrepeated : [dependency, dependency].Sublist dependencies)
    (hdeclaration : declaration ∈ dependency.exported) (hid : id ∈ declaration.ids space)
    (hmatches : reference.Matches ⟨dependency.id, id⟩) :
  ¬((Scope.ofModule home context duplicates dependencies).matching space reference).Nodup
  := by
  have hentity : (⟨dependency.id, id⟩ : Entity)
      ∈ (entitiesOf dependency.id space dependency.exported).filter fun entity =>
        entity.id == reference.id && reference.admits entity.module := by
    refine List.mem_filter.mpr ⟨mem_entitiesOf.mpr ⟨rfl, declaration, hdeclaration, hid⟩, ?_⟩
    rw [Bool.and_eq_true, beq_iff_eq]
    exact hmatches
  have hsublist := hrepeated.flatMap fun d => (entitiesOf d.id space d.exported).filter
    fun entity => entity.id == reference.id && reference.admits entity.module
  rw [List.flatMap_cons, List.flatMap_singleton, ← List.filter_flatMap] at hsublist
  have hpair := (List.singleton_sublist.mpr hentity).append (List.singleton_sublist.mpr hentity)
  rw [Scope.matching_eq_filter, entities_ofModule, List.filter_append, List.filter_append]
  intro hnodup
  exact List.nodup_iff_sublist.mp hnodup _ ((hpair.trans hsublist).trans
    ((List.sublist_append_right _ _).trans (List.sublist_append_left _ _)))

/-- A context that exports the function `one(): Integer`. -/
def libraryContext : Context where
  functions := [{
      id := ⟨["one"]⟩
      typeParams := []
      args := []
      output := .integer
      body := .mk [.bare (.literal .integer "1" none)] none
      annotations := [⟨⟨["Export"]⟩, []⟩]
      location := none }]

theorem exists_library :
  ∃ module, Accepted module ∧ module.id.name = ⟨"example", "library"⟩
    ∧ module.exported = [.function ⟨["one"]⟩]
  := by
  have hlibrary : (validate 0 libraryContext ⟨"example", "library"⟩ [] {}).module?.any
      (fun module => module.id.name == ⟨"example", "library"⟩
        && decide (module.exported = [.function ⟨["one"]⟩])) = true := by
    decide +kernel
  obtain ⟨module, warnings, h, hlibrary⟩ := Verdict.exists_success hlibrary
  rw [Bool.and_eq_true, beq_iff_eq, decide_eq_true_eq] at hlibrary
  exact ⟨module, Accepted.alone h, hlibrary⟩

/-- The id of a module that may depend on a library. -/
def clientId : ModuleId :=
  ⟨⟨"example", "client"⟩, "1"⟩

section Library

variable {module : Module} (hexported : module.exported = [.function ⟨["one"]⟩])

include hexported

/-- Where nothing but the library is seen, `one` means the function that it exports. -/
theorem means_one {dependencies : List Module} (hmem : ∀ d, d ∈ dependencies ↔ d = module)
    (entity : Entity) :
  Sees clientId {} [] dependencies .function entity ∧ Reference.Matches ⟨none, ⟨["one"]⟩⟩ entity
    ↔ entity = ⟨module.id, ⟨["one"]⟩⟩
  := by
  have hnative : ⟨["one"]⟩ ∉ nativeIds .function := by decide +kernel
  constructor
  · rintro ⟨hsees, hid, -⟩
    cases hsees with
    | native hin =>
      dsimp only at hid
      rw [hid] at hin
      exact absurd hin hnative
    | own hdeclared => exact absurd hdeclared List.not_mem_nil
    | exported hdependency =>
      obtain rfl := (hmem _).mp hdependency
      dsimp only at hid
      rw [hid]
  · rintro rfl
    exact ⟨.exported ((hmem module).mpr rfl) (hexported ▸ List.mem_singleton.mpr rfl)
      (List.mem_singleton.mpr rfl), rfl, rfl⟩

omit hexported in
theorem distinctSources_library (haccepted : Accepted module)
    (hname : module.id.name = ⟨"example", "library"⟩) :
  DistinctSources clientId {} [] [module]
  := by
  have hhome : clientId ≠ module.id := by
    intro e
    rw [← e] at hname
    exact absurd hname (by decide)
  have hnative : nativeModule ≠ module.id := by
    intro e
    rw [← e] at hname
    exact absurd hname (by decide)
  constructor
  · simpa using haccepted
  · simp [hhome, hnative, show clientId ≠ nativeModule by decide]
  · decide

end Library

/-- A module with the library as its dependency sees what the library exports. -/
theorem resolve_one :
  ∃ (module : Module) (entry : Visible), Accepted module
    ∧ DistinctSources clientId {} [] [module]
    ∧ (Scope.ofModule clientId {} [] [module]).resolve .function ⟨none, ⟨["one"]⟩⟩ = .ok entry
    ∧ entry.entity = ⟨module.id, ⟨["one"]⟩⟩
  := by
  obtain ⟨module, haccepted, hname, hexported⟩ := exists_library
  have hdistinct := distinctSources_library haccepted hname
  obtain ⟨hanswers, -⟩ := ((resolve_exact clientId {} [] [module] .function ⟨none, ⟨["one"]⟩⟩).2
    (by simp)).2 hdistinct
  obtain ⟨entry, hresult, hentity⟩ := hanswers.eq_ok (means_one hexported fun _ =>
    List.mem_singleton)
  exact ⟨module, entry, haccepted, hdistinct, hresult, hentity⟩

/-- If the library is listed twice, then its function is not the answer, although the reference
means nothing else. -/
theorem resolve_one_twice :
  ∃ module : Module, Accepted module
    ∧ (∀ entity, Sees clientId {} [] [module, module] .function entity
        ∧ Reference.Matches ⟨none, ⟨["one"]⟩⟩ entity ↔ entity = ⟨module.id, ⟨["one"]⟩⟩)
    ∧ ¬Answers .function ⟨none, ⟨["one"]⟩⟩ (· = ⟨module.id, ⟨["one"]⟩⟩)
      ((Scope.ofModule clientId {} [] [module, module]).resolve .function ⟨none, ⟨["one"]⟩⟩)
  := by
  obtain ⟨module, haccepted, -, hexported⟩ := exists_library
  have hmeans := @means_one module hexported [module, module] (by simp)
  refine ⟨module, haccepted, hmeans, ?_⟩
  have hmatching : (· ∈ (Scope.ofModule clientId {} [] [module, module]).matching .function
      ⟨none, ⟨["one"]⟩⟩) = (· = (⟨module.id, ⟨["one"]⟩⟩ : Entity)) := by
    funext entity
    rw [Scope.mem_matching, mem_entities_ofModule, hmeans]
  rw [← hmatching, Scope.answers_resolve_iff (by rfl)]
  exact not_nodup_of_repeated (List.Sublist.refl _) (hexported ▸ List.mem_singleton.mpr rfl)
    (List.mem_singleton.mpr rfl) ⟨rfl, rfl⟩

end TypedModules
