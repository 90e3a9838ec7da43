import TypedModules.Proofs.Order.Resolved
import TypedModules.Proofs.Renamed.Module
import TypedModules.Proofs.Typing.Module

/-!
# The order of dependencies

The direct dependencies of a module are given in some order, which reaches the version of the module,
the modules that it reaches and what it sees.  The version sorts them, the reached modules stand in
the order of their ids, and what a reference stands for is looked up among all that is seen, so that
no check can tell one order from another, as long as no two modules have the same id.

The main statement is `validate_perm_dependencies`.
-/

namespace TypedModules

/-- The version of a module does not tell the order of its dependencies. -/
theorem version_perm (context : Context) {dependencies others : List ModuleId}
    (h : dependencies.Perm others) :
  context.version dependencies = context.version others
  := by
  have hsorted : dependencies.mergeSort ModuleId.le = others.mergeSort ModuleId.le :=
    mergeSort_eq_of_perm h
  rw [Context.version, Context.version, hsorted]

/-! ### The modules that are reached -/

/-- Whether the modules are in the order of their ids, each id once. -/
def InIdOrder (modules : List Module) : Prop :=
  modules.Pairwise fun a b => compare a.id b.id = .lt

theorem InIdOrder.insertModule {module : Module} {modules : List Module}
    (h : InIdOrder modules) :
  InIdOrder (insertModule module modules)
  := by
  unfold InIdOrder at h ⊢
  induction modules with
  | nil => exact List.pairwise_singleton _ _
  | cons first rest ih =>
    have hrest := (List.pairwise_cons.mp h).2
    have hfirst := (List.pairwise_cons.mp h).1
    unfold TypedModules.insertModule
    split
    next hlt =>
      apply List.pairwise_cons.mpr ⟨_, h⟩
      intro other hother
      obtain rfl | hother := List.mem_cons.mp hother
      · exact hlt
      · exact Std.TransCmp.lt_trans hlt (hfirst other hother)
    next heq =>
      refine List.pairwise_cons.mpr ⟨fun other hother => ?_, hrest⟩
      rw [eq_of_compare_moduleId heq]
      exact hfirst other hother
    next hgt =>
      apply List.pairwise_cons.mpr ⟨_, ih hrest⟩
      intro other hother
      obtain rfl | hother := mem_insertModule hother
      · exact Std.OrientedCmp.lt_of_gt hgt
      · exact hfirst other hother

theorem inIdOrder_reachableFrom (dependencies : List Module) :
  InIdOrder (reachableFrom dependencies)
  := by
  have hinsert : ∀ modules found : List Module, InIdOrder found →
      InIdOrder (modules.foldl (fun found module => insertModule module found) found) := by
    intro modules
    induction modules with
    | nil => exact fun _ h => h
    | cons first rest ih => exact fun _ h => ih _ h.insertModule
  have hfold : ∀ found, InIdOrder found → InIdOrder (dependencies.foldl insertDependency found) := by
    induction dependencies with
    | nil => exact fun _ h => h
    | cons first rest ih => exact fun found h => ih _ (hinsert first.reachable found h).insertModule
  exact hfold [] .nil

/-- Whether a module is one of the dependencies or reachable from one. -/
def ReachedFrom (dependencies : List Module) (module : Module) : Prop :=
  ∃ dependency ∈ dependencies, module = dependency ∨ module ∈ dependency.reachable

/-- Whether no two modules that are reached have the same id. -/
def IdsIdentify (dependencies : List Module) : Prop :=
  ∀ module other, ReachedFrom dependencies module → ReachedFrom dependencies other →
    module.id = other.id → module = other

theorem mem_reachableFrom_iff {dependencies : List Module} (h : IdsIdentify dependencies)
    {module : Module} :
  module ∈ reachableFrom dependencies ↔ ReachedFrom dependencies module
  := by
  refine ⟨mem_reachableFrom, fun hreached => ?_⟩
  obtain ⟨dependency, hmem, hmodule⟩ := hreached
  obtain ⟨found, hfound, hid⟩ : ∃ m ∈ reachableFrom dependencies, m.id = module.id := by
    rw [mem_ids_reachableFrom]
    refine ⟨dependency, hmem, ?_⟩
    obtain rfl | hmodule := hmodule
    · exact .inl rfl
    · exact .inr ⟨module, hmodule, rfl⟩
  rwa [← h found module (mem_reachableFrom hfound) ⟨dependency, hmem, hmodule⟩ hid]

theorem ReachedFrom.perm {dependencies others : List Module} (h : dependencies.Perm others)
    {module : Module} :
  ReachedFrom dependencies module ↔ ReachedFrom others module
  := by
  simp only [ReachedFrom, h.mem_iff]

/-- What is reached from dependencies does not tell their order. -/
theorem reachableFrom_perm {dependencies others : List Module} (h : dependencies.Perm others)
    (hids : IdsIdentify dependencies) :
  reachableFrom dependencies = reachableFrom others
  := by
  have hothers : IdsIdentify others := fun module other hmodule hother =>
    hids module other ((ReachedFrom.perm h).mpr hmodule) ((ReachedFrom.perm h).mpr hother)
  have hnodup : ∀ modules, InIdOrder modules → modules.Nodup := by
    intro modules horder
    apply horder.imp
    rintro a _ hlt rfl
    rw [Std.ReflOrd.compare_self] at hlt
    cases hlt
  have hperm : (reachableFrom dependencies).Perm (reachableFrom others) := by
    rw [List.perm_ext_iff_of_nodup (hnodup _ (inIdOrder_reachableFrom _))
      (hnodup _ (inIdOrder_reachableFrom _))]
    intro module
    rw [mem_reachableFrom_iff hids, mem_reachableFrom_iff hothers, ReachedFrom.perm h]
  refine hperm.eq_of_pairwise ?_ (inIdOrder_reachableFrom _) (inIdOrder_reachableFrom _)
  intro a b _ _ hab hba
  exact absurd hba (Std.OrientedCmp.not_lt_of_lt hab)

/-! ### What is seen -/

theorem entries_perm {dependencies others : List Module} (h : dependencies.Perm others)
    (module : ModuleId) (context : Context) (duplicates : List EntityId) (space : Namespace) :
  ((Scope.ofModule module context duplicates dependencies).entries space).Perm
    ((Scope.ofModule module context duplicates others).entries space)
  := by
  cases space with
  | type => exact ((h.flatMap_right _).append_left _).append_right _
  | function => exact ((h.flatMap_right _).append_left _).append_right _

/-! ### Checks -/

section Scope

variable (setting : Setting) (scope : Scope)
  (hresolve : ∀ space (reference : Reference), reference.Stable .refl →
    ResolutionMirrors .refl (setting.scope.resolve space reference) (scope.resolve space reference))
include hresolve

/-- A setting mirrors itself with another scope, if nothing looks different there. -/
theorem mirrorsTypes_scope :
  setting.MirrorsTypes .refl False { setting with scope := scope }
  := {
    module := rfl
    typeParams := rfl
    resolve := hresolve
    typeHeader? := fun _ => rfl
    known := False.elim }

theorem checkHeaders_scope (context : Context) :
  checkHeaders { setting with scope := scope } context = checkHeaders setting context
  := ((mirrorsTypes_scope setting scope hresolve).mirrors_checkHeaders fun r _ => r.stable_refl).eq
    Headers.rename_refl

variable (hname : ∀ space id, scope.hasName space id = setting.scope.hasName space id)
include hname

theorem mirrors_scope :
  setting.Mirrors .refl False { setting with scope := scope }
  := {
    mirrorsTypes_scope setting scope hresolve with
    number := rfl
    definitions? := fun module => by
      show Option.Rel _ (setting.definitions? module) (setting.definitions? module)
      cases setting.definitions? module with
      | none => exact .none
      | some definitions => exact .some definitions.mirrors_refl
    shapeCount := rfl
    hasName := hname
    callable := False.elim }

theorem checkBodies_scope (headers : Headers) (context : Context) :
  checkBodies { setting with scope := scope } headers context
    = checkBodies setting headers context
  := by
  apply ((mirrors_scope setting scope hresolve hname).mirrors_checkBodies headers.mirrors_refl
    fun r _ => r.stable_refl).eq
  intro (structs, functions)
  exact Prod.ext (map_eq_self fun s _ => s.rename_refl) (map_eq_self fun f _ => f.rename_refl)

theorem checkRounds_scope (context : Context) :
  checkRounds { setting with scope := scope } context = checkRounds setting context
  := by
  have hbodies : ∀ headers,
      checkBodies { setting with scope := scope, own := headers.definitions } headers context
        = checkBodies { setting with own := headers.definitions } headers context :=
    fun headers => checkBodies_scope { setting with own := headers.definitions } scope hresolve
      hname headers context
  simp only [checkRounds, checkHeaders_scope setting scope hresolve, hbodies]

end Scope

/-- No check tells the order of the dependencies. -/
theorem checkModule_perm_dependencies (number : Nat) (context : Context) (name : ModuleName)
    {dependencies others : List Module} (h : dependencies.Perm others)
    (hids : IdsIdentify dependencies) :
  checkModule number context name dependencies = checkModule number context name others
  := by
  have hmodule : context.moduleId name others = context.moduleId name dependencies := by
    rw [Context.moduleId, Context.moduleId, version_perm context (h.map _)]
  rw [checkModule_eq, checkModule_eq, hmodule]
  generalize context.moduleId name dependencies = module
  have hsetting : Setting.ofModule number module context others
      = { Setting.ofModule number module context dependencies with
          scope := .ofModule module context context.duplicateIds others } := by
    simp only [Setting.ofModule, reachableFrom_perm h hids]
  have hentries : ∀ space, (((Scope.ofModule module context context.duplicateIds
        dependencies).entries space).map (Visible.rename .refl)).Perm
      ((Scope.ofModule module context context.duplicateIds others).entries space) := by
    intro space
    rw [map_eq_self fun entry _ => entry.rename_refl]
    exact entries_perm h module context context.duplicateIds space
  have hrounds := checkRounds_scope (.ofModule number module context dependencies)
    (.ofModule module context context.duplicateIds others)
    (fun space _ => resolve_mirrors hentries (fun _ => rfl) rfl space)
    (hasName_mirrors hentries fun _ => rfl) (Scope.unique context context.duplicateIds)
  rw [hsetting, hrounds]

/-- Whatever order the dependencies of a module are given in, the verdict is the same: the module
with its version and all that it reaches, or the errors with their texts and in their order. -/
theorem validate_perm_dependencies (number : Nat) (context : Context) (name : ModuleName)
    (config : SinkConfig) {dependencies others : List Module} (h : dependencies.Perm others)
    (hids : IdsIdentify dependencies) :
  validate number context name dependencies config = validate number context name others config
  := by
  rw [validate, validate, checkModule_perm_dependencies number context name h hids]

/-- The context that exports the function `one(): Integer`. -/
def exportsOne : Context where
  functions := [{
      id := ⟨["one"]⟩
      typeParams := []
      args := []
      output := .integer
      body := .mk [.bare (.literal .integer "1" none)] none
      annotations := [⟨⟨["Export"]⟩, []⟩]
      location := none }]

/-- The context whose function `two(): Integer` calls `one`. -/
def callsOne : Context where
  functions := [{
      id := ⟨["two"]⟩
      typeParams := []
      args := []
      output := .integer
      body := .mk [.bare (.call (.ofText "one") [] [] none)] none
      annotations := []
      location := none }]

theorem exists_exporting_one {name : ModuleName}
    (h : (validate 0 exportsOne name [] {}).module?.any (fun module => module.id.name == name)
      = true) :
  ∃ module, Accepted module ∧ module.id.name = name ∧ module.reachable = []
  := by
  obtain ⟨module, warnings, h, hname⟩ := Verdict.exists_success h
  exact ⟨module, .alone h, beq_iff_eq.mp hname,
    (checked_of_passes (passes_of_validate h)).reachable_eq⟩

/-- Two modules that export a function of the same name may be given in either order to a module that
calls it. -/
theorem validate_swapped_dependencies :
  ∃ left right : Module, Accepted left ∧ Accepted right ∧ left.id ≠ right.id
    ∧ validate 0 callsOne ⟨"example", "client"⟩ [left, right] {}
      = validate 0 callsOne ⟨"example", "client"⟩ [right, left] {}
  := by
  obtain ⟨left, hleft, hleftName, hleftReachable⟩ :=
    @exists_exporting_one ⟨"example", "left"⟩ (by decide +kernel)
  obtain ⟨right, hright, hrightName, hrightReachable⟩ :=
    @exists_exporting_one ⟨"example", "right"⟩ (by decide +kernel)
  have hne : left.id ≠ right.id := by
    intro e
    rw [e, hrightName] at hleftName
    exact absurd hleftName (by decide)
  have hids : IdsIdentify [left, right] := by
    simp only [IdsIdentify, ReachedFrom, List.exists_mem_cons_iff, hleftReachable, hrightReachable,
      List.not_mem_nil, or_false, false_and, exists_false]
    rintro module other (rfl | rfl) (rfl | rfl) hid
    · rfl
    · exact absurd hid hne
    · exact absurd hid.symm hne
    · rfl
  exact ⟨left, right, hleft, hright, hne,
    validate_perm_dependencies 0 callsOne _ {} (.swap right left []) hids⟩

end TypedModules
