import TypedModules.Proofs.Order.Declarations

/-!
# Views of a module

While a module is checked its own declarations are known from two tables: the headers of its named
types, which are read off the context before anything is checked, and the headers of all its
declarations, which are complete once they have passed.  Afterwards the module shows its declarations
to those that depend on it.  What a reference to the module's own declarations stands for has the
same signature and the same type header in all of these views.

The main statement is `views_agree`.
-/

namespace TypedModules

open Check

/-- The setting in which the bodies of a context are checked: the headers that passed are known. -/
def Setting.ofHeaders? (number : Nat) (context : Context) (name : ModuleName)
    (dependencies : List Module) : Option Setting :=
  let setting := Setting.ofModule number (context.moduleId name dependencies) context dependencies
  let headers := (checkHeaders setting (Scope.unique context context.duplicateIds)).runFromStart.1
  headers.map fun headers => { setting with own := headers.definitions }

/-- What a module shows to those that depend on it, told from its declarations alone: the
constructor of a struct may fail if the struct has a `requires` block. -/
def Module.shown (module : Module) : Definitions where
  structs := module.structs.map fun s => { s.toStructHeader with isRestricted := s.requires.isSome }
  interfaces := module.interfaces
  unions := module.unions
  functions := module.functions.map (·.signature)

/-! ### Headers -/

/-- A check has one set of headers at most that pass. -/
theorem Headers.Pass.unique {setting : Setting} {context : Context} {headers others : Headers}
    (h : headers.Pass setting context) (hothers : others.Pass setting context) :
  headers = others
  := by
  obtain ⟨structs, interfaces, unions, functions⟩ := headers
  obtain ⟨structs', interfaces', unions', functions'⟩ := others
  have hsame : ∀ {α β : Type} {check : α → Check β} {items : List α} {as bs : List β},
      List.Forall₂ (fun item result => (check item).Passes result) items as →
      List.Forall₂ (fun item result => (check item).Passes result) items bs → as = bs := by
    intro α β check items as bs has hbs
    have e : as.map id = bs.map id := map_eq_of_passes (fun _ _ => Iff.rfl) has hbs
    rwa [List.map_id, List.map_id] at e
  obtain rfl : structs = structs' := hsame h.structs hothers.structs
  obtain rfl : interfaces = interfaces' := hsame h.interfaces hothers.interfaces
  obtain rfl : unions = unions' := hsame h.unions hothers.unions
  obtain rfl : functions = functions' := hsame h.functions hothers.functions
  rfl

section Checked

variable {number : Nat} {context : Context} {name : ModuleName} {dependencies : List Module}
  {module : Module}

/-- The bodies of an accepted module are checked where its own definitions are known. -/
theorem ofHeaders?_of_passes
    (h : (checkModule number context name dependencies).Passes module) :
  Setting.ofHeaders? number context name dependencies
    = some (.knowing number context name dependencies module.definitions)
  := by
  have hchecked := checked_of_passes h
  simp only [checkModule, passes_bind, passes_pure] at h
  obtain ⟨_, hdeclared, headers, hheaders, -⟩ := h
  have hpass := pass_of_checkHeaders hheaders
  rw [duplicateIds_of_passes hdeclared, unique_nil, ← hchecked.id_eq] at hpass
  have e := hpass.unique hchecked.pass
  rw [Setting.ofHeaders?, Check.runFromStart, hheaders.2, e, Option.map_some, definitions_headers]
  rfl

/-- A struct has a `requires` block exactly if its header says that its constructor may fail. -/
theorem Checked.isRestricted_eq (h : Checked number context name dependencies module)
    {struct : Struct} (hstruct : struct ∈ module.structs) :
  struct.requires.isSome = struct.isRestricted
  := by
  obtain ⟨declared, -, hheader, hbody⟩ :=
    exists_related_left (related_and h.structHeaders h.structs) hstruct
  obtain ⟨-, -, _, -, e⟩ := passes_checkStructHeader.mp hheader
  rw [← isSome_eq_of_rel (requires_of_checkStructBody hbody), ← e]

/-- An accepted module shows what its headers say. -/
theorem Checked.shown_eq (h : Checked number context name dependencies module) :
  module.shown = module.definitions
  := by
  have hstructs : module.structs.map
        (fun s => { s.toStructHeader with isRestricted := s.requires.isSome })
      = module.structs.map (·.toStructHeader) := by
    apply List.map_congr_left
    intro struct hstruct
    rw [h.isRestricted_eq hstruct]
  rw [Module.shown, hstructs]
  rfl

/-! ### Headers of named types -/

theorem Checked.duplicateIds_eq_nil (h : Checked number context name dependencies module) :
  context.duplicateIds = []
  := by
  rw [List.eq_nil_iff_forall_not_mem]
  intro id hid
  have hcount : 1 < (context.claims.map (·.id)).count id := by
    have hsites : 1 < (context.sites id).length := by
      simpa using (List.mem_filter.mp hid).2
    rw [List.count, List.countP_map, List.countP_eq_length_filter]
    simpa [Context.sites, Function.comp_def] using hsites
  have hdistinct := List.nodup_iff_count_le_one.mp h.distinct id
  omega

/-- The headers that are read off a context are those of the types that its module declares. -/
theorem Checked.mem_typeHeaders (h : Checked number context name dependencies module)
    {id : EntityId} {header : TypeHeader} :
  (id, header) ∈ context.typeHeaders
    ↔ ∃ kind, module.definitions.typeHeader? kind id = some header
  := by
  have hdistinct := h.distinct_definitions
  constructor
  · intro hmem
    simp only [Context.typeHeaders, List.mem_append, List.mem_map, List.mem_flatMap,
      List.mem_cons, List.not_mem_nil, or_false, Prod.mk.injEq] at hmem
    obtain (⟨declared, hs, rfl, rfl⟩ | ⟨declared, hi, hmem⟩) | ⟨declared, hu, rfl, rfl⟩ := hmem
    · obtain ⟨struct, hstruct, hp⟩ := exists_related_right h.structHeaders hs
      obtain ⟨-, -, _, -, e⟩ := passes_checkStructHeader.mp hp
      have hfound := hdistinct.struct?_of_mem (List.mem_map_of_mem hstruct)
      rw [← e] at hfound
      exact ⟨.struct, by rw [Definitions.typeHeader?, hfound, Option.map_some]⟩
    · obtain ⟨interface, hinterface, hp⟩ := exists_related_right h.interfaces hi
      obtain ⟨-, -, _, -, rfl⟩ := passes_checkInterface.mp hp
      obtain ⟨rfl, rfl⟩ | ⟨rfl, rfl⟩ := hmem
      · exact ⟨.interface, Option.map_eq_some_iff.mpr
          ⟨_, hdistinct.interface?_of_mem hinterface, rfl⟩⟩
      · exact ⟨.adapter, Option.map_eq_some_iff.mpr
          ⟨_, hdistinct.adapterOwner?_of_mem hinterface, rfl⟩⟩
    · obtain ⟨union, hunion, hp⟩ := exists_related_right h.unions hu
      obtain ⟨-, -, -, _, -, rfl⟩ := passes_checkUnion.mp hp
      exact ⟨.union, Option.map_eq_some_iff.mpr ⟨_, hdistinct.union?_of_mem hunion, rfl⟩⟩
  · rintro ⟨kind, hheader⟩
    simp only [Context.typeHeaders, List.mem_append, List.mem_map, List.mem_flatMap]
    cases Definitions.hasType_of_typeHeader? hheader with
    | struct hmem =>
      obtain ⟨struct, hstruct, rfl⟩ := List.mem_map.mp hmem
      obtain ⟨declared, hdeclared, hp⟩ := exists_related_left h.structHeaders hstruct
      obtain ⟨-, -, _, -, e⟩ := passes_checkStructHeader.mp hp
      exact .inl (.inl ⟨declared, hdeclared, by rw [← e]⟩)
    | interface hmem =>
      obtain ⟨declared, hdeclared, hp⟩ := exists_related_left h.interfaces hmem
      obtain ⟨-, -, _, -, rfl⟩ := passes_checkInterface.mp hp
      exact .inl (.inr ⟨declared, hdeclared, List.mem_cons_self⟩)
    | adapter hmem =>
      obtain ⟨declared, hdeclared, hp⟩ := exists_related_left h.interfaces hmem
      obtain ⟨-, -, _, -, rfl⟩ := passes_checkInterface.mp hp
      exact .inl (.inr ⟨declared, hdeclared, List.mem_cons_of_mem _ List.mem_cons_self⟩)
    | union hmem =>
      obtain ⟨declared, hdeclared, hp⟩ := exists_related_left h.unions hmem
      obtain ⟨-, -, -, _, -, rfl⟩ := passes_checkUnion.mp hp
      exact .inr ⟨declared, hdeclared, rfl⟩
    | opaqueType hmem => exact absurd hmem List.not_mem_nil

/-- Of anything that a module declares, type or not, the table of named types holds what the
module's definitions say. -/
theorem Checked.typeHeader?_eq (h : Checked number context name dependencies module)
    {own : Definitions} {entry : Visible} (hmodule : entry.entity.module = module.id)
    (hentry : (entry.entity.id, entry.kind) ∈ module.definitions.entries) :
  (Setting.knowing number context name dependencies own).typeHeader? entry
    = module.definitions.typeHeader? entry.kind entry.entity.id
  := by
  rw [typeHeader?_knowing, if_pos (hmodule.trans h.id_eq)]
  have hnodup := nodup_typeHeaders context
  simp only [h.duplicateIds_eq_nil, List.contains_nil, Bool.not_false, List.filter_true]
    at hnodup ⊢
  cases hheader : module.definitions.typeHeader? entry.kind entry.entity.id with
  | some header =>
    have hmem := h.mem_typeHeaders.mpr ⟨_, hheader⟩
    rw [find?_of_nodup hnodup hmem, Option.map_some]
  | none =>
    rw [Option.map_eq_none_iff, List.find?_eq_none]
    rintro ⟨id, header⟩ hmem heq
    obtain rfl : id = entry.entity.id := by simpa using heq
    obtain ⟨kind, hkind⟩ := h.mem_typeHeaders.mp hmem
    -- the id is one thing only, so the table would hold the header of the entry itself
    have e := h.distinct_definitions.kind_unique
      (Definitions.mem_entries_of_typeHeader? hkind) hentry
    rw [e, hheader] at hkind
    cases hkind

/-! ### What a reference stands for -/

/-- What the context declares in a namespace the module declares. -/
theorem Checked.mem_entries_of_declared (h : Checked number context name dependencies module)
    {entry : Visible} (hentry : entry ∈ Scope.declaredTypes module.id context
      ∨ entry ∈ Scope.declaredFunctions module.id context) :
  (entry.entity.id, entry.kind) ∈ module.definitions.entries
  := by
  obtain hentry | hentry := hentry
  · simp only [Scope.declaredTypes, List.mem_append, List.mem_map, List.mem_flatMap] at hentry
    obtain (⟨declared, hs, rfl⟩ | ⟨declared, hi, hentry⟩) | ⟨declared, hu, rfl⟩ := hentry
    · obtain ⟨struct, hstruct, hp⟩ := exists_related_right h.structHeaders hs
      rw [← id_of_checkStructHeader hp]
      exact mem_entries_struct (List.mem_map_of_mem hstruct)
    · obtain ⟨interface, hinterface, hp⟩ := exists_related_right h.interfaces hi
      obtain ⟨-, -, _, -, rfl⟩ := passes_checkInterface.mp hp
      have hshows : module.definitions.Shows module.id entry := shows_interface hinterface hentry
      exact hshows.2.1
    · obtain ⟨union, hunion, hp⟩ := exists_related_right h.unions hu
      obtain ⟨-, -, -, _, -, rfl⟩ := passes_checkUnion.mp hp
      simp only [Definitions.entries, List.mem_append, List.mem_flatMap]
      exact .inr (.inr (.inr (.inl ⟨_, hunion, by simp [Scope.visible]⟩)))
  · rw [h.pass.declaredFunctions_eq, definitions_headers] at hentry
    exact (shows_of_mem_callables hentry).2.1

/-- What a reference to the module itself stands for its context declares. -/
theorem Checked.declared_of_resolve (h : Checked number context name dependencies module)
    (hdependencies : ∀ d ∈ dependencies, Accepted d) {own : Definitions} {space : Namespace}
    {reference : Reference} {entry : Visible}
    (hresolve : (Setting.knowing number context name dependencies own).scope.resolve space reference
      = .ok entry)
    (hmodule : entry.entity.module = module.id) :
  space = .type ∧ entry ∈ Scope.declaredTypes module.id context
    ∨ space = .function ∧ entry ∈ Scope.declaredFunctions module.id context
  := by
  have hcandidates := (resolve_eq_ok.mp hresolve).2
  obtain ⟨hentry, -⟩ := List.mem_filter.mp (hcandidates ▸ List.mem_singleton.mpr rfl)
  have hnative : entry.entity.module ≠ nativeModule := by
    rw [hmodule, h.id_eq]
    exact moduleId_ne_native context name dependencies
  have hother : ∀ d ∈ dependencies, entry.entity.module ≠ d.id := by
    intro d hd
    rw [hmodule, h.id_eq]
    exact (ne_moduleId_of_reached hdependencies ⟨d, hd, .inl rfl⟩ context).symm
  rw [h.id_eq]
  cases space with
  | type =>
    simp only [scope_knowing, Scope.ofModule, Scope.entries, List.mem_append, List.mem_flatMap,
      h.duplicateIds_eq_nil, unique_nil] at hentry
    obtain (hentry | ⟨d, hd, hentry⟩) | hentry := hentry
    · exact absurd (module_of_mem_native (.inl hentry)) hnative
    · exact absurd (module_of_mem_exportedTypes hentry) (hother d hd)
    · exact .inl ⟨rfl, hentry⟩
  | function =>
    simp only [scope_knowing, Scope.ofModule, Scope.entries, List.mem_append, List.mem_flatMap,
      h.duplicateIds_eq_nil, unique_nil] at hentry
    obtain (hentry | ⟨d, hd, hentry⟩) | hentry := hentry
    · exact absurd (module_of_mem_native (.inr hentry)) hnative
    · exact absurd (module_of_mem_exportedFunctions hentry) (hother d hd)
    · exact .inr ⟨rfl, hentry⟩

end Checked

/-! ### Dependants -/

/-- What a check knows of an accepted module that its dependencies reach is what that module
defines. -/
theorem definitions?_of_reached {number : Nat} {context : Context} {name : ModuleName}
    {dependencies : List Module} {own : Definitions} {module : Module}
    (hdependencies : ∀ d ∈ dependencies, Accepted d) (hmodule : Accepted module)
    (hreached : ∃ m ∈ reachableFrom dependencies, m.id = module.id) :
  (Setting.knowing number context name dependencies own).definitions? module.id
    = some module.definitions
  := by
  obtain ⟨m, hm, hid⟩ := hreached
  have hne : module.id ≠ context.moduleId name dependencies :=
    hid ▸ ne_moduleId_of_reached hdependencies (mem_reachableFrom hm) context
  rw [definitions?_knowing, hmodule.not_native, if_neg Bool.false_ne_true, if_neg hne]
  obtain ⟨found, hfound⟩ : ∃ found,
      (reachableFrom dependencies).find? (·.id == module.id) = some found := by
    rw [← Option.isSome_iff_exists, List.find?_isSome]
    exact ⟨m, hm, by simpa using hid⟩
  have hfid : found.id = module.id := by simpa using List.find?_some hfound
  obtain ⟨d, hd, hreach⟩ := mem_reachableFrom (List.mem_of_find?_eq_some hfound)
  have hagree := (coherent_of_accepted (hdependencies d hd) found hreach).definitions_eq hmodule hfid
  rw [definitionsFrom?, hfound, Option.map_some, hagree]

/-- While an accepted module is checked, whatever of its own a reference stands for has in the
setting of the bodies the signature and the type header that the module shows afterwards, to any
module that reaches it; the type header was the same before any declaration was checked.  In the
namespace of types there is a header, and in that of functions a signature, unless a union has the
id without segments, of which no option can be told. -/
theorem views_agree {number : Nat} {context : Context} {name : ModuleName}
    {dependencies : List Module} {config : SinkConfig} {module : Module}
    {warnings : List Diagnostic} (hdependencies : ∀ d ∈ dependencies, Accepted d)
    (h : validate number context name dependencies config = .success module warnings) :
  ∃ inside, Setting.ofHeaders? number context name dependencies = some inside
    ∧ ∀ space reference entry, inside.scope.resolve space reference = .ok entry →
      entry.entity.module = module.id →
      inside.signature? entry = module.shown.signature? entry.kind entry.entity.id
      ∧ inside.typeHeader? entry = module.shown.typeHeader? entry.kind entry.entity.id
      ∧ (Setting.ofModule number module.id context dependencies).typeHeader? entry
        = inside.typeHeader? entry
      ∧ (space = .type → (inside.typeHeader? entry).isSome)
      ∧ (space = .function → (∀ u ∈ module.unions, u.id.segments ≠ []) →
        (inside.signature? entry).isSome)
      ∧ ∀ number' context' name' dependencies', (∀ d ∈ dependencies', Accepted d) →
        (∃ m ∈ reachableFrom dependencies', m.id = module.id) →
        let dependant := Setting.ofModule number' (context'.moduleId name' dependencies') context'
          dependencies'
        dependant.signature? entry = inside.signature? entry
          ∧ dependant.typeHeader? entry = inside.typeHeader? entry
  := by
  have hpasses := passes_of_validate h
  have hchecked := checked_of_passes hpasses
  have haccepted := Accepted.intro hdependencies h
  refine ⟨_, ofHeaders?_of_passes hpasses, ?_⟩
  intro space reference entry hresolve hmodule
  have hdeclared := hchecked.declared_of_resolve hdependencies hresolve hmodule
  have hentry := hchecked.mem_entries_of_declared (hdeclared.imp And.right And.right)
  have hsignature : (Setting.knowing number context name dependencies
      module.definitions).signature? entry
        = module.definitions.signature? entry.kind entry.entity.id := by
    rw [Setting.signature?, hmodule, hchecked.id_eq, definitions?_own, Option.bind_some]
  have hheader : ∀ own, (Setting.knowing number context name dependencies own).typeHeader? entry
      = module.definitions.typeHeader? entry.kind entry.entity.id :=
    fun _ => hchecked.typeHeader?_eq hmodule hentry
  rw [hchecked.shown_eq]
  refine ⟨hsignature, hheader _, ?_, ?_, ?_, ?_⟩
  · rw [hchecked.id_eq]
    exact (hheader {}).trans (hheader _).symm
  · rintro rfl
    exact Option.isSome_iff_ne_none.mpr (typeHeader?_of_resolve hdependencies hresolve)
  · rintro rfl hunions
    obtain ⟨hspace, -⟩ | ⟨-, hcallable⟩ := hdeclared
    · cases hspace
    · rw [hchecked.pass.declaredFunctions_eq, definitions_headers] at hcallable
      rw [hsignature]
      exact Option.isSome_iff_ne_none.mpr
        (signature?_of_mem_callables (haccepted.named hunions) hcallable)
  · intro number' context' name' dependencies' hdependencies' hreached dependant
    have hdefinitions : dependant.definitions? module.id = some module.definitions :=
      definitions?_of_reached hdependencies' haccepted hreached
    rw [← hmodule] at hdefinitions
    have hother : entry.entity.module ≠ dependant.module := by
      obtain ⟨m, hm, hid⟩ := hreached
      rw [hmodule, ← hid]
      exact ne_moduleId_of_reached hdependencies' (mem_reachableFrom hm) context'
    constructor
    · rw [hsignature, Setting.signature?, hdefinitions, Option.bind_some]
    · rw [hheader, Setting.typeHeader?, if_neg hother, hdefinitions, Option.bind_some]

/-- A context with declarations of several kinds: `Fact(holds: Boolean)`, which requires that
`holds`, `Point(x: Integer)`, the interface `Cell<T>`, the union `Side` and the function `one`. -/
def shapesContext : Context where
  functions := exportsOne.functions
  structs := [{
      id := ⟨["Fact"]⟩
      typeParams := []
      members := [⟨"holds", .boolean⟩]
      requires := some (.mk [.bare (.variable "holds" none)] none)
      annotations := []
      location := none },
    { id := ⟨["Point"]⟩
      typeParams := []
      members := [⟨"x", .integer⟩]
      requires := none
      annotations := []
      location := none }]
  interfaces := [{
      id := ⟨["Cell"]⟩
      typeParams := [⟨"T", none⟩]
      methods := [⟨"content", [], [], .named false ⟨none, ⟨["T"]⟩⟩ [] none⟩]
      annotations := []
      location := none }]
  unions := [sides]

/-- What `shapesContext` declares as functions, with what each of them is. -/
def shapes : List (EntityId × EntityKind) :=
  [(⟨["one"]⟩, .function), (⟨["Fact"]⟩, .struct), (⟨["Point"]⟩, .struct), (⟨["Cell"]⟩, .interface),
    (EntityId.adapter ⟨["Cell"]⟩, .adapter), (⟨["Side", "left"]⟩, .option),
    (⟨["Side", "when"]⟩, .when)]

theorem resolve_shapes (home : ModuleId) :
  ∀ shape ∈ shapes, (Scope.ofModule home shapesContext shapesContext.duplicateIds []).resolve
    .function ⟨none, shape.1⟩ = .ok ⟨⟨home, shape.1⟩, shape.2, false⟩
  := by
  simp only [shapes, List.forall_mem_cons, List.not_mem_nil, false_imp_iff, implies_true, and_true]
  refine ⟨?_, ?_, ?_, ?_, ?_, ?_, ?_⟩ <;> rfl

/-- Each of these has within its module the signature that the module shows. -/
theorem views_agree_shapes :
  ∃ (module : Module) (inside : Setting), Accepted module
    ∧ Setting.ofHeaders? 0 shapesContext ⟨"example", "shapes"⟩ [] = some inside
    ∧ ∀ shape ∈ shapes, ∃ entry signature,
      inside.scope.resolve .function ⟨none, shape.1⟩ = .ok entry
        ∧ inside.signature? entry = some signature
        ∧ module.shown.signature? shape.2 shape.1 = some signature
  := by
  have hshapes : (validate 0 shapesContext ⟨"example", "shapes"⟩ [] {}).module?.any (fun module =>
      module.unions.all fun union => !union.id.segments.isEmpty) = true := by
    decide +kernel
  obtain ⟨module, warnings, h, hunions⟩ := Verdict.exists_success hshapes
  obtain ⟨inside, hinside, hagree⟩ := views_agree (by simp) h
  refine ⟨module, inside, .alone h, hinside, fun shape hshape => ?_⟩
  have hpasses := passes_of_validate h
  have hid := (checked_of_passes hpasses).id_eq
  have hknowing := ofHeaders?_of_passes hpasses
  rw [hinside, Option.some.injEq] at hknowing
  have hresolve := resolve_shapes module.id shape hshape
  have hscope : inside.scope = Scope.ofModule module.id shapesContext shapesContext.duplicateIds [] := by
    rw [hknowing, scope_knowing, hid]
  rw [← hscope] at hresolve
  obtain ⟨hsignature, -, -, -, hsome, -⟩ := hagree .function _ _ hresolve rfl
  have hsegments : ∀ u ∈ module.unions, u.id.segments ≠ [] := by
    simpa using hunions
  obtain ⟨signature, hsignature'⟩ := Option.isSome_iff_exists.mp (hsome rfl hsegments)
  exact ⟨_, signature, hresolve, hsignature', hsignature.symm.trans hsignature'⟩

end TypedModules
