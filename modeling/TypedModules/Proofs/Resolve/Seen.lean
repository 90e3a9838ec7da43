import TypedModules.Module.Resolution
import TypedModules.Proofs.Declared.Formed

/-!
# What a module sees

A declaration brings ids into the two namespaces: its own, the adapter of an interface, and the
options and the case distinction of a union.  A module sees what the native library holds, what
its own declarations bring, as long as they are not duplicated, and what the declarations bring
that its direct dependencies export.  `Sees` says this apart from the lists in which a scope
keeps it.
-/

namespace TypedModules

/-! ### Declarations -/

/-- A declaration, as far as it tells what can be referred to. -/
inductive Declaration where
  | function (id : EntityId)
  | struct (id : EntityId)
  | interface (id : EntityId)
  | union (id : EntityId) (options : List String)
deriving DecidableEq

namespace Declaration

/-- The id that stands in a declaration. -/
def id : Declaration → EntityId
  | function id => id
  | struct id => id
  | interface id => id
  | union id _ => id

/-- The ids that a declaration brings into a namespace. -/
def ids (space : Namespace) : Declaration → List EntityId
  | function id =>
    match space with
    | .type => []
    | .function => [id]
  | struct id => [id]
  | interface id => [id, id.adapter]
  | union id options =>
    match space with
    | .type => [id]
    | .function => options.map id.child ++ [id.whenId]

/-- The ids that a declaration claims, in whatever namespace. -/
def claims : Declaration → List EntityId
  | function id => [id]
  | struct id => [id]
  | interface id => [id, id.adapter]
  | union id options => id :: options.map id.child ++ [id.whenId]

/-- Whatever a declaration brings into a namespace it claims. -/
theorem ids_sublist_claims (space : Namespace) (declaration : Declaration) :
  (declaration.ids space).Sublist declaration.claims
  := by
  cases declaration with
  | function id => cases space <;> simp [ids, claims]
  | struct id => exact List.Sublist.refl _
  | interface id => exact List.Sublist.refl _
  | union id options =>
    cases space with
    | type => simp [ids, claims]
    | function => exact List.sublist_cons_self _ _

end Declaration

/-- The declarations of a context. -/
def Context.declarations (context : Context) : List Declaration :=
  context.functions.map (fun f => .function f.id)
    ++ context.structs.map (fun s => .struct s.id)
    ++ context.interfaces.map (fun i => .interface i.id)
    ++ context.unions.map fun u => .union u.id (u.options.map (·.name))

/-- The declarations of a context less those whose ids are duplicated. -/
def Context.uniqueDeclarations (context : Context) (duplicates : List EntityId) :
    List Declaration :=
  context.declarations.filter fun declaration => !duplicates.contains declaration.id

/-- The declarations that a module exports: those that carry `@Export`. -/
def Module.exported (module : Module) : List Declaration :=
  (module.functions.filter (·.annotations.any Annotation.isExport)).map (fun f => .function f.id)
    ++ (module.structs.filter (·.annotations.any Annotation.isExport)).map (fun s => .struct s.id)
    ++ (module.interfaces.filter (·.annotations.any Annotation.isExport)).map
      (fun i => .interface i.id)
    ++ (module.unions.filter (·.annotations.any Annotation.isExport)).map
      fun u => .union u.id (u.options.map (·.name))

/-- Whatever a module exports it declares. -/
theorem Module.exported_sublist (module : Module) :
  (module.exported.flatMap (·.claims)).Sublist (module.definitions.entries.map (·.1))
  := by
  simp only [exported, List.flatMap_append, List.flatMap_map, Declaration.claims, definitions,
    Definitions.entries, List.map_append, List.map_map, List.map_flatMap, List.append_assoc,
    Function.comp_def, List.map_cons, List.map_nil, FunctionHeader.signature, List.append_nil,
    ← List.map_eq_flatMap]
  exact (List.filter_sublist.map _).append ((List.filter_sublist.map _).append
    ((List.filter_sublist.flatMap _).append (List.filter_sublist.flatMap _)))

/-- The ids that the native library brings into a namespace. -/
def nativeIds : Namespace → List EntityId
  | .type => nativeDefinitions.structs.map (·.id) ++ nativeDefinitions.opaques.map (·.id)
  | .function => nativeDefinitions.functions.map (·.id) ++ nativeDefinitions.structs.map (·.id)

/-- What a module with an id and a context sees in a namespace, given the ids that are duplicated
and the direct dependencies. -/
inductive Sees (home : ModuleId) (context : Context) (duplicates : List EntityId)
    (dependencies : List Module) (space : Namespace) : Entity → Prop
  | native {id : EntityId} :
    id ∈ nativeIds space → Sees home context duplicates dependencies space ⟨nativeModule, id⟩
  | own {declaration : Declaration} {id : EntityId} :
    declaration ∈ context.declarations → declaration.id ∉ duplicates →
    id ∈ declaration.ids space → Sees home context duplicates dependencies space ⟨home, id⟩
  | exported {dependency : Module} {declaration : Declaration} {id : EntityId} :
    dependency ∈ dependencies → declaration ∈ dependency.exported →
    id ∈ declaration.ids space →
    Sees home context duplicates dependencies space ⟨dependency.id, id⟩

/-! ### The lists of a scope -/

/-- The entities that declarations of a module bring into a namespace. -/
def entitiesOf (module : ModuleId) (space : Namespace) (declarations : List Declaration) :
    List Entity :=
  (declarations.flatMap (·.ids space)).map (Entity.mk module)

theorem mem_entitiesOf {module : ModuleId} {space : Namespace} {declarations : List Declaration}
    {entity : Entity} :
  entity ∈ entitiesOf module space declarations
    ↔ entity.module = module ∧ ∃ declaration ∈ declarations, entity.id ∈ declaration.ids space
  := by
  obtain ⟨home, id⟩ := entity
  simp only [entitiesOf, List.mem_map, List.mem_flatMap, Entity.mk.injEq]
  constructor
  · rintro ⟨_, hid, rfl, rfl⟩
    exact ⟨rfl, hid⟩
  · rintro ⟨rfl, hid⟩
    exact ⟨_, hid, rfl, rfl⟩

theorem entities_exportedTypes (module : Module) :
  (Scope.exportedTypes module).map (·.entity) = entitiesOf module.id .type module.exported
  := by
  simp [Scope.exportedTypes, entitiesOf, Module.exported, Declaration.ids, Scope.ofInterface,
    Scope.visible, List.flatMap_append, List.flatMap_map, List.map_flatMap, Function.comp_def,
    ← List.map_eq_flatMap]

theorem entities_exportedFunctions (module : Module) :
  (Scope.exportedFunctions module).map (·.entity)
    = entitiesOf module.id .function module.exported
  := by
  simp [Scope.exportedFunctions, entitiesOf, Module.exported, Declaration.ids,
    Scope.ofInterface, Scope.ofUnion, Scope.visible, List.flatMap_append, List.flatMap_map,
    List.map_flatMap, Function.comp_def, ← List.map_eq_flatMap]

theorem entities_declaredTypes (home : ModuleId) (context : Context) :
  (Scope.declaredTypes home context).map (·.entity) = entitiesOf home .type context.declarations
  := by
  simp [Scope.declaredTypes, entitiesOf, Context.declarations, Declaration.ids,
    Scope.ofInterface, Scope.visible, List.flatMap_append, List.flatMap_map, List.map_flatMap,
    Function.comp_def, ← List.map_eq_flatMap]

theorem entities_declaredFunctions (home : ModuleId) (context : Context) :
  (Scope.declaredFunctions home context).map (·.entity)
    = entitiesOf home .function context.declarations
  := by
  simp [Scope.declaredFunctions, entitiesOf, Context.declarations, Declaration.ids,
    Scope.ofInterface, Scope.ofUnion, Scope.visible, List.flatMap_append, List.flatMap_map,
    List.map_flatMap, Function.comp_def, ← List.map_eq_flatMap]

theorem entities_native (space : Namespace) :
  ((match space with
    | .type => Scope.nativeTypes
    | .function => Scope.nativeFunctions : List Visible).map (·.entity))
    = (nativeIds space).map (Entity.mk nativeModule)
  := by
  cases space <;> decide +kernel

theorem declarations_unique (context : Context) (duplicates : List EntityId) :
  (Scope.unique context duplicates).declarations = context.uniqueDeclarations duplicates
  := by
  simp [Scope.unique, Context.uniqueDeclarations, Context.declarations, List.filter_map,
    Declaration.id, Function.comp_def]

/-- The entities that a scope holds: those of the native library, those of the dependencies one
after another, and those of the module itself. -/
theorem entities_ofModule (home : ModuleId) (context : Context) (duplicates : List EntityId)
    (dependencies : List Module) (space : Namespace) :
  ((Scope.ofModule home context duplicates dependencies).entries space).map (·.entity)
    = (nativeIds space).map (Entity.mk nativeModule)
      ++ dependencies.flatMap (fun d => entitiesOf d.id space d.exported)
      ++ entitiesOf home space (context.uniqueDeclarations duplicates)
  := by
  rw [← declarations_unique, ← entities_native]
  cases space with
  | type =>
    simp only [Scope.ofModule, Scope.entries, List.map_append, List.map_flatMap,
      entities_exportedTypes, entities_declaredTypes]
  | function =>
    simp only [Scope.ofModule, Scope.entries, List.map_append, List.map_flatMap,
      entities_exportedFunctions, entities_declaredFunctions]

/-- A scope holds exactly what the module sees. -/
theorem mem_entities_ofModule {home : ModuleId} {context : Context} {duplicates : List EntityId}
    {dependencies : List Module} {space : Namespace} {entity : Entity} :
  entity ∈ ((Scope.ofModule home context duplicates dependencies).entries space).map (·.entity)
    ↔ Sees home context duplicates dependencies space entity
  := by
  rw [entities_ofModule]
  simp only [List.mem_append, List.mem_map, List.mem_flatMap, mem_entitiesOf,
    Context.uniqueDeclarations, List.mem_filter, Bool.not_eq_true', List.contains_eq_mem,
    decide_eq_false_iff_not]
  constructor
  · rintro ((⟨id, hid, rfl⟩ | ⟨dependency, hdependency, hhome, declaration, hdeclared, hid⟩)
      | ⟨hhome, declaration, ⟨hdeclared, hunique⟩, hid⟩)
    · exact .native hid
    · obtain ⟨_, _⟩ := entity
      subst hhome
      exact .exported hdependency hdeclared hid
    · obtain ⟨_, _⟩ := entity
      subst hhome
      exact .own hdeclared hunique hid
  · rintro (hid | ⟨hdeclared, hunique, hid⟩ | ⟨hdependency, hdeclared, hid⟩)
    · exact .inl (.inl ⟨_, hid, rfl⟩)
    · exact .inr ⟨rfl, _, ⟨hdeclared, hunique⟩, hid⟩
    · exact .inl (.inr ⟨_, hdependency, rfl, _, hdeclared, hid⟩)

end TypedModules
