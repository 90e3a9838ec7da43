import TypedModules.Proofs.Eval.Linking
import TypedModules.Proofs.Faithful.Module
import TypedModules.Proofs.Typing.Vetted

/-!
# Encapsulation

Whatever an accepted module calls, binds or names in a type that it writes, the module sees: no
scope holds anything else.  Of a module that it reaches it uses only what that module exports,
and only if the module is a direct dependency: `encapsulated`.  Types of other entities do flow
into a tree, but as the types of what is called, and are not written there.
-/

namespace TypedModules

open Check

/-! ### The entities that types name -/

mutual

/-- The entities that a type names, at any depth. -/
def Ty.entities : Ty → List Entity
  | .integer => []
  | .natural => []
  | .boolean => []
  | .list element => element.entities
  | .tryOf inner => inner.entities
  | .function _ _ args output => entitiesOfAll args ++ output.entities
  | .named _ entity _ params => entity :: entitiesOfAll params
  | .param _ => []
  | .internal _ => []

/-- The entities that types name. -/
def Ty.entitiesOfAll : List Ty → List Entity
  | [] => []
  | type :: rest => type.entities ++ entitiesOfAll rest

end

section StandsFor

variable {names : Reference → Entity → Prop} {typeParams : List TypeParam} {entity : Entity}

mutual

/-- Every entity that a type names is what a reference in the written type names. -/
theorem SourceTy.StandsFor.names_entity : (internal : List String) → (written : SourceTy) →
    {type : Ty} → written.StandsFor names typeParams internal type → entity ∈ type.entities →
      ∃ reference, names reference entity
  | _, .integer, type, h, hentity => by
    rw [SourceTy.StandsFor] at h
    subst h
    exact absurd hentity List.not_mem_nil
  | _, .natural, type, h, hentity => by
    rw [SourceTy.StandsFor] at h
    subst h
    exact absurd hentity List.not_mem_nil
  | _, .boolean, type, h, hentity => by
    rw [SourceTy.StandsFor] at h
    subst h
    exact absurd hentity List.not_mem_nil
  | internal, .list element, type, h, hentity => by
    rw [SourceTy.StandsFor] at h
    obtain ⟨e, he, rfl⟩ := h
    exact StandsFor.names_entity internal element he hentity
  | internal, .tryOf inner, type, h, hentity => by
    rw [SourceTy.StandsFor] at h
    obtain ⟨e, he, rfl⟩ := h
    exact StandsFor.names_entity internal inner he hentity
  | internal, .function isReference params args output location, type, h, hentity => by
    rw [SourceTy.StandsFor] at h
    obtain ⟨as, o, has, ho, rfl⟩ := h
    obtain hentity | hentity := List.mem_append.mp hentity
    · exact StandForAll.names_entity _ args has hentity
    · exact StandsFor.names_entity _ output ho hentity
  | internal, .named isReference reference args location, type, h, hentity => by
    rw [SourceTy.StandsFor] at h
    obtain ⟨name, -, hparam⟩ | ⟨-, named, types, hnamed, htypes, rfl⟩ := h
    · cases hparam <;> exact absurd hentity List.not_mem_nil
    · obtain rfl | hentity := List.mem_cons.mp hentity
      · exact ⟨reference, hnamed⟩
      · exact StandForAll.names_entity internal args htypes hentity

theorem SourceTy.StandForAll.names_entity : (internal : List String) →
    (written : List SourceTy) → {types : List Ty} →
      SourceTy.StandForAll names typeParams internal written types →
        entity ∈ Ty.entitiesOfAll types → ∃ reference, names reference entity
  | _, [], types, h, hentity => by
    rw [SourceTy.StandForAll] at h
    subst h
    exact absurd hentity List.not_mem_nil
  | internal, first :: rest, types, h, hentity => by
    rw [SourceTy.StandForAll] at h
    obtain ⟨type, others, htype, hothers, rfl⟩ := h
    obtain hentity | hentity := List.mem_append.mp hentity
    · exact StandsFor.names_entity internal first htype hentity
    · exact StandForAll.names_entity internal rest hothers hentity

end

end StandsFor

/-! ### What a module uses -/

/-- The types that the declarations of a module say. -/
def Module.declaredTypes (module : Module) : List Ty :=
  module.functions.flatMap (fun f => f.args.map (·.type) ++ [f.output])
    ++ module.structs.flatMap (fun s => s.members.map (·.type))
    ++ module.interfaces.flatMap
      (fun i => i.methods.flatMap fun m => m.args.map (·.type) ++ [m.output])
    ++ module.unions.flatMap fun u => u.options.filterMap (·.type)

/-- Whether a module calls or binds an entity somewhere in its bodies, or names it in a type that
it writes in a declaration or in a body. -/
inductive Module.Uses (module : Module) : Namespace → Entity → Prop
  | mentioned {part : Expr} {reference : Reference} {entity : Entity} {n : Nat} :
    part ∈ module.parts → part.node.Mentions reference entity n → Uses module .function entity
  | declared {type : Ty} {entity : Entity} :
    type ∈ module.declaredTypes → entity ∈ type.entities → Uses module .type entity
  | written {part : Expr} {type : Ty} {entity : Entity} :
    part ∈ module.parts → type ∈ part.written → entity ∈ type.entities →
    Uses module .type entity

section Keeps

variable {names : Reference → Entity → Prop} {typeParams : List TypeParam} {entity : Entity}

theorem Argument.Keeps.names_entity {argument : Argument} {name : String} {written : SourceTy}
    (h : argument.Keeps names typeParams name written) (hentity : entity ∈ argument.type.entities) :
  ∃ reference, names reference entity
  := h.2.names_entity _ _ hentity

/-- Every entity that the declarations of a module name is what a reference names in the context
that the module keeps. -/
theorem Module.Keeps.names_entity {module : Module} {context : Context}
    (h : module.Keeps names context) {type : Ty} (htype : type ∈ module.declaredTypes)
    (hentity : entity ∈ type.entities) :
  ∃ reference, names reference entity
  := by
  simp only [declaredTypes, List.mem_append, List.mem_flatMap, List.mem_map, List.mem_singleton,
    List.mem_filterMap] at htype
  obtain ((⟨f, hf, harg | rfl⟩ | ⟨s, hs, member, hmember, rfl⟩) | ⟨i, hi, m, hm, harg | rfl⟩)
    | ⟨u, hu, option, hoption, htype⟩ := htype
  · obtain ⟨arg, harg, rfl⟩ := harg
    obtain ⟨_, -, hfunction⟩ := exists_related_left h.functions hf
    obtain ⟨_, -, hkeeps⟩ := exists_related_left hfunction.args harg
    exact hkeeps.names_entity hentity
  · obtain ⟨_, -, hfunction⟩ := exists_related_left h.functions hf
    exact hfunction.output.names_entity _ _ hentity
  · obtain ⟨_, -, hstruct⟩ := exists_related_left h.structs hs
    obtain ⟨_, -, hkeeps⟩ := exists_related_left hstruct.members hmember
    exact hkeeps.names_entity hentity
  · obtain ⟨arg, harg, rfl⟩ := harg
    obtain ⟨_, -, hinterface⟩ := exists_related_left h.interfaces hi
    obtain ⟨_, -, hmethod⟩ := exists_related_left hinterface.methods hm
    obtain ⟨_, -, hkeeps⟩ := exists_related_left hmethod.args harg
    exact hkeeps.names_entity hentity
  · obtain ⟨_, -, hinterface⟩ := exists_related_left h.interfaces hi
    obtain ⟨_, -, hmethod⟩ := exists_related_left hinterface.methods hm
    exact hmethod.output.names_entity _ _ hentity
  · obtain ⟨_, -, hunion⟩ := exists_related_left h.unions hu
    obtain ⟨written, -, -, hkeeps⟩ := exists_related_left hunion.options hoption
    rw [htype] at hkeeps
    generalize written.type = source at hkeeps
    cases hkeeps with
    | some hkeeps => exact hkeeps.names_entity _ _ hentity

end Keeps

/-! ### Exports -/

/-- The declarations of a context that carry `@Export`. -/
def Context.exportedDeclarations (context : Context) : List Declaration :=
  (context.functions.filter (·.annotations.any Annotation.isExport)).map (fun f => .function f.id)
    ++ (context.structs.filter (·.annotations.any Annotation.isExport)).map (fun s => .struct s.id)
    ++ (context.interfaces.filter (·.annotations.any Annotation.isExport)).map
      (fun i => .interface i.id)
    ++ (context.unions.filter (·.annotations.any Annotation.isExport)).map
      fun u => .union u.id (u.options.map (·.name))

/-- A module exports what its context marks for it. -/
theorem Module.Keeps.exported_eq {names : Reference → Entity → Prop} {module : Module}
    {context : Context} (h : module.Keeps names context) :
  module.exported = context.exportedDeclarations
  := by
  rw [Module.exported, Context.exportedDeclarations,
    map_filter_eq_of_related h.functions fun _ _ hk =>
      ⟨by rw [hk.annotations], congrArg Declaration.function hk.id.symm⟩,
    map_filter_eq_of_related h.structs fun _ _ hk =>
      ⟨by rw [hk.annotations], congrArg Declaration.struct hk.id.symm⟩,
    map_filter_eq_of_related h.interfaces fun _ _ hk =>
      ⟨by rw [hk.annotations], congrArg Declaration.interface hk.id.symm⟩,
    map_filter_eq_of_related h.unions fun _ _ hk =>
      ⟨by rw [hk.annotations], congrArg₂ Declaration.union hk.id.symm
        (map_eq_map_of_related hk.options fun _ _ ho => ho.1.symm)⟩]

/-- Accepted modules with one id export the same. -/
theorem Accepted.exported_eq {module other : Module} (h : Accepted module)
    (hother : Accepted other) (hid : module.id = other.id) :
  module.exported = other.exported
  := by
  obtain ⟨_, context, _, dependencies, hdependencies, hchecked⟩ := h.checked
  obtain ⟨_, context', _, dependencies', hdependencies', hchecked'⟩ := hother.checked
  have hversion : context.version (dependencies.map (·.id))
      = context'.version (dependencies'.map (·.id)) := by
    rw [hchecked.id_eq, hchecked'.id_eq] at hid
    exact congrArg ModuleId.version hid
  obtain ⟨rfl, -⟩ := version_inj
    (List.forall_mem_map.mpr fun d hd => (hdependencies d hd).isVersion)
    (List.forall_mem_map.mpr fun d hd => (hdependencies' d hd).isVersion) hversion
  rw [hchecked.keeps.exported_eq, hchecked'.keeps.exported_eq]

/-! ### Nothing else is used -/

/-- Whatever a reference is resolved to is seen. -/
theorem sees_of_resolve {home : ModuleId} {context : Context} {duplicates : List EntityId}
    {dependencies : List Module} {space : Namespace} {reference : Reference} {entry : Visible}
    (h : (Scope.ofModule home context duplicates dependencies).resolve space reference
      = .ok entry) :
  Sees home context duplicates dependencies space entry.entity
  := by
  have hcandidates := (resolve_eq_ok.mp h).2
  apply mem_entities_ofModule.mp
  exact List.mem_map_of_mem (List.mem_filter.mp (hcandidates ▸ List.mem_singleton.mpr rfl)).1

section Checked

variable {number : Nat} {context : Context} {name : ModuleName} {dependencies : List Module}
  {module : Module}

/-- A checked module uses only what it sees. -/
theorem Checked.sees (h : Checked number context name dependencies module)
    (haccepted : Accepted module) {space : Namespace} {entity : Entity}
    (huses : module.Uses space entity) :
  Sees module.id context context.duplicateIds dependencies space entity
  := by
  cases huses with
  | @mentioned part _ _ _ hpart hmentions =>
    obtain ⟨visible, htyped⟩ := (h.typed haccepted).parts hpart
    cases part with
    | mk type aliasing node =>
      obtain ⟨entry, _, hresolves, rfl, -⟩ := hmentions.signature htyped.2
      exact sees_of_resolve hresolves
  | declared htype hentity =>
    obtain ⟨reference, entry, hresolves, rfl⟩ := h.keeps.names_entity htype hentity
    exact sees_of_resolve hresolves
  | written hpart htype hentity =>
    obtain ⟨_, hvetted⟩ := h.vetted_part hpart
    obtain ⟨source, hsource⟩ := hvetted.written _ htype
    obtain ⟨reference, entry, hresolves, rfl⟩ :=
      (standsFor_checkTyWithin [] source hsource).names_entity [] source hentity
    exact sees_of_resolve hresolves

end Checked

/-- What is seen of a module that is reached is exported by it, and it is a direct dependency. -/
theorem exported_of_sees {module : Module} (haccepted : Accepted module) {context : Context}
    {duplicates : List EntityId} {dependencies : List Module}
    (hdependencies : ∀ d ∈ dependencies, Accepted d) {other : Module}
    (hother : other ∈ module.reachable) {space : Namespace} {entity : Entity}
    (hmodule : entity.module = other.id)
    (hsees : Sees module.id context duplicates dependencies space entity) :
  (∃ dependency ∈ dependencies, dependency.id = other.id)
    ∧ ∃ declaration ∈ other.exported, entity.id ∈ declaration.ids space
  := by
  have hreached := accepted_of_mem_reachable haccepted other hother
  cases hsees with
  | native =>
    have hnative := hreached.not_native
    rw [← hmodule] at hnative
    simp [ModuleId.isNative] at hnative
  | own => exact absurd hmodule.symm (haccepted.id_ne hother)
  | @exported dependency declaration _ hdependency hdeclaration hid =>
    refine ⟨⟨dependency, hdependency, hmodule⟩, declaration, ?_, hid⟩
    rwa [← (hdependencies dependency hdependency).exported_eq hreached hmodule]

/-- Whatever a module that is accepted on accepted dependencies calls, binds or names in a type
that it writes is native, declared by the module itself or exported by a direct dependency, or
goes with such a declaration as an adapter, an option or a case distinction.  If it is of a module
that is reached, then that is a direct dependency and exports it. -/
theorem encapsulated {number : Nat} {context : Context} {name : ModuleName}
    {dependencies : List Module} {config : SinkConfig} {module : Module}
    {warnings : List Diagnostic} (hdependencies : ∀ d ∈ dependencies, Accepted d)
    (hvalidate : validate number context name dependencies config = .success module warnings)
    {space : Namespace} {entity : Entity} (huses : module.Uses space entity) :
  Sees module.id context context.duplicateIds dependencies space entity
    ∧ ∀ other ∈ module.reachable, entity.module = other.id →
      (∃ dependency ∈ dependencies, dependency.id = other.id)
        ∧ ∃ declaration ∈ other.exported, entity.id ∈ declaration.ids space
  := by
  have haccepted : Accepted module := .intro hdependencies hvalidate
  have hchecked := checked_of_passes (passes_of_validate hvalidate)
  have hsees := hchecked.sees haccepted huses
  exact ⟨hsees, fun other hother hmodule =>
    exported_of_sees haccepted hdependencies hother hmodule hsees⟩

/-- The body of `double` uses `Integer.plus`, which its module sees. -/
theorem encapsulated_plus :
  ∃ (module : Module) (warnings : List Diagnostic) (entity : Entity),
    validate 0 pickContext ⟨"example", "pick"⟩ [] {} = .success module warnings
      ∧ module.Uses .function entity
      ∧ Sees module.id pickContext pickContext.duplicateIds [] .function entity
  := by
  obtain ⟨module, warnings, part, entity, h, hpart, hmentions⟩ := exists_plus
  have huses : module.Uses .function entity := .mentioned hpart hmentions
  exact ⟨module, warnings, entity, h, huses, (encapsulated (by simp) h huses).1⟩

end TypedModules
