import TypedModules.Proofs.Graph.Reachable

/-!
# One id, one module

Accepted modules with one id have the same definitions and reach the same ones, however often
and in whatever order of their dependencies they were checked.  Their contexts are the same,
for the version tells contents apart, and the checks of headers read nothing of a setting but
what the types of the module and of its dependencies are.  Hence what a module says about an
id is what every module says that reaches it: `definitionsOf?_of_mem`.
-/

namespace TypedModules

open Check

/-- The types that a module with the given definitions exports. -/
def exportedTypesOf (id : ModuleId) (definitions : Definitions) : List Visible :=
  ((definitions.structs.filter (·.annotations.any Annotation.isExport)).map
      fun s => Scope.visible id .struct s.id)
    ++ ((definitions.interfaces.filter (·.annotations.any Annotation.isExport)).flatMap
      fun i => Scope.ofInterface id i.id)
    ++ ((definitions.unions.filter (·.annotations.any Annotation.isExport)).map
      fun u => Scope.visible id .union u.id)

theorem exportedTypes_eq (module : Module) :
  Scope.exportedTypes module = exportedTypesOf module.id module.definitions
  := by
  simp [Scope.exportedTypes, exportedTypesOf, Module.definitions, List.filter_map,
    Function.comp_def]

/-! ### What modules say about ids -/

theorem Module.find?_self (module : Module) :
  module.find? module.id = some module
  := by
  simp [Module.find?]

theorem Module.mem_of_find? {module other : Module} {id : ModuleId}
    (h : module.find? id = some other) :
  (other = module ∨ other ∈ module.reachable) ∧ other.id = id
  := by
  unfold Module.find? at h
  split at h
  next e =>
    cases h
    exact ⟨.inl rfl, e.symm⟩
  next =>
    have hid := List.find?_some h
    exact ⟨.inr (List.mem_of_find?_eq_some h), by simpa using hid⟩

/-- Whatever an accepted module finds under an id is accepted. -/
theorem Accepted.find? {module other : Module} (h : Accepted module) {id : ModuleId}
    (hother : module.find? id = some other) :
  Accepted other
  := by
  obtain ⟨hreach, -⟩ := Module.mem_of_find? hother
  exact h.of_reached hreach

/-- Every module that is reached is found under its id. -/
theorem Module.exists_find? {module other : Module}
    (h : other = module ∨ other ∈ module.reachable) :
  ∃ found, module.find? other.id = some found
  := by
  obtain rfl | h := h
  · exact ⟨other, other.find?_self⟩
  · unfold Module.find?
    split
    · exact ⟨module, rfl⟩
    · apply Option.isSome_iff_exists.mp
      rw [List.find?_isSome]
      exact ⟨other, h, by simp⟩

/-- What a module that is not the native one says about its own id. -/
theorem definitionsOf?_self {module : Module} (h : module.id.isNative = false) :
  module.definitionsOf? module.id = some module.definitions
  := by
  simp [Module.definitionsOf?, h, Module.find?_self]

/-- Whether a module says of every id what each accepted module with its own id says. -/
def Coherent (module : Module) : Prop :=
  Accepted module ∧ ∀ other, Accepted other → module.id = other.id →
    module.definitionsOf? = other.definitionsOf?

theorem Coherent.definitions_eq {module other : Module} (h : Coherent module)
    (hother : Accepted other) (hid : module.id = other.id) :
  module.definitions = other.definitions
  := by
  have e := congrFun (h.2 other hother hid) module.id
  rw [definitionsOf?_self h.1.not_native, hid, definitionsOf?_self hother.not_native] at e
  exact Option.some.inj e

/-- Of two modules with one id, both find something under the id of an accepted module, or
neither. -/
theorem Coherent.exists_find?_iff {module other found : Module} (h : Coherent module)
    (hother : Accepted other) (hid : module.id = other.id) (hfound : Accepted found) :
  (∃ m, module.find? found.id = some m) ↔ ∃ m, other.find? found.id = some m
  := by
  have hdefinitions : ∀ n : Module,
      n.definitionsOf? found.id = (n.find? found.id).map Module.definitions := by
    intro n
    simp [Module.definitionsOf?, hfound.not_native]
  have e := congrArg Option.isSome (congrFun (h.2 other hother hid) found.id)
  rw [hdefinitions, hdefinitions, Option.isSome_map, Option.isSome_map] at e
  rw [← Option.isSome_iff_exists, ← Option.isSome_iff_exists, e]

section Dependencies

variable {dependencies others : List Module}

/-- The definitions of the module with an id among those reachable from dependencies. -/
def definitionsFrom? (dependencies : List Module) (id : ModuleId) : Option Definitions :=
  ((reachableFrom dependencies).find? (·.id == id)).map Module.definitions

/-- What dependencies say about an id is what one of them says, and then it is what any other
accepted modules with their ids say. -/
theorem definitionsFrom?_eq_some
    (hcoherent : ∀ d ∈ dependencies, ∀ m, m = d ∨ m ∈ d.reachable → Coherent m)
    (hothers : ∀ d ∈ others, Accepted d)
    (hids : (dependencies.map (·.id)).Perm (others.map (·.id))) {id : ModuleId}
    {definitions : Definitions} :
  definitionsFrom? others id = some definitions
    ↔ ∃ d ∈ dependencies, (d.find? id).map Module.definitions = some definitions
  := by
  have haccepted : ∀ m ∈ reachableFrom others, Accepted m :=
    fun _ hm => accepted_of_reached hothers (mem_reachableFrom hm)
  constructor
  · intro h
    obtain ⟨m, hm, rfl⟩ := Option.map_eq_some_iff.mp h
    have hmem := List.mem_of_find?_eq_some hm
    obtain rfl : m.id = id := by simpa using List.find?_some hm
    obtain ⟨d', hd', hreach⟩ := mem_reachableFrom hmem
    obtain ⟨d, hd, e⟩ := List.mem_map.mp (hids.symm.mem_iff.mp (List.mem_map_of_mem hd'))
    -- the dependency with the same id finds a module that agrees with the one reached
    obtain ⟨n, hn⟩ := ((hcoherent d hd d (.inl rfl)).exists_find?_iff (hothers d' hd') e
      (haccepted m hmem)).mpr (Module.exists_find? hreach)
    obtain ⟨hreach, hnid⟩ := Module.mem_of_find? hn
    have hagree := (hcoherent d hd n hreach).definitions_eq (haccepted m hmem) hnid
    exact ⟨d, hd, by rw [hn, Option.map_some, hagree]⟩
  · rintro ⟨d, hd, h⟩
    obtain ⟨n, hn, rfl⟩ := Option.map_eq_some_iff.mp h
    obtain ⟨hreach, rfl⟩ := Module.mem_of_find? hn
    have hcn := hcoherent d hd n hreach
    obtain ⟨d', hd', e⟩ := List.mem_map.mp (hids.mem_iff.mp (List.mem_map_of_mem hd))
    obtain ⟨n', hn'⟩ := ((hcoherent d hd d (.inl rfl)).exists_find?_iff (hothers d' hd') e.symm
      hcn.1).mp ⟨n, hn⟩
    obtain ⟨hreach', hnid'⟩ := Module.mem_of_find? hn'
    have hmem : ∃ m ∈ reachableFrom others, m.id = n.id := by
      rw [mem_ids_reachableFrom]
      refine ⟨d', hd', ?_⟩
      obtain rfl | hreach' := hreach'
      · exact .inl hnid'
      · exact .inr ⟨n', hreach', hnid'⟩
    have hfound : ((reachableFrom others).find? (·.id == n.id)).isSome := by
      obtain ⟨m, hm, hmid⟩ := hmem
      rw [List.find?_isSome]
      exact ⟨m, hm, by simpa using hmid⟩
    obtain ⟨found, hfound⟩ := Option.isSome_iff_exists.mp hfound
    have hfid : found.id = n.id := by simpa using List.find?_some hfound
    have hagree := hcn.definitions_eq (haccepted found (List.mem_of_find?_eq_some hfound)) hfid.symm
    rw [definitionsFrom?, hfound, Option.map_some, hagree]

theorem definitionsFrom?_eq
    (hcoherent : ∀ d ∈ dependencies, ∀ m, m = d ∨ m ∈ d.reachable → Coherent m)
    (hothers : ∀ d ∈ others, Accepted d)
    (hids : (dependencies.map (·.id)).Perm (others.map (·.id))) :
  definitionsFrom? dependencies = definitionsFrom? others
  := by
  funext id
  apply Option.ext
  intro definitions
  rw [definitionsFrom?_eq_some hcoherent hothers hids,
    definitionsFrom?_eq_some hcoherent (fun d hd => (hcoherent d hd d (.inl rfl)).1) (.refl _)]

/-- What dependencies export is told by their ids. -/
theorem exportedTypes_perm
    (hcoherent : ∀ d ∈ dependencies, ∀ m, m = d ∨ m ∈ d.reachable → Coherent m)
    (hothers : ∀ d ∈ others, Accepted d)
    (hids : (dependencies.map (·.id)).Perm (others.map (·.id))) :
  (dependencies.flatMap Scope.exportedTypes).Perm (others.flatMap Scope.exportedTypes)
  := by
  have key : ∀ ds : List Module, (∀ d ∈ ds, definitionsFrom? dependencies d.id
      = some d.definitions) → ds.flatMap Scope.exportedTypes
        = (ds.map (·.id)).flatMap fun id =>
          exportedTypesOf id ((definitionsFrom? dependencies id).getD {}) := by
    intro ds hds
    rw [List.flatMap_map]
    apply List.flatMap_congr
    intro d hd
    rw [exportedTypes_eq, hds d hd, Option.getD_some]
  rw [key dependencies, key others]
  · exact hids.flatMap_right _
  · intro d' hd'
    obtain ⟨d, hd, e⟩ := List.mem_map.mp (hids.symm.mem_iff.mp (List.mem_map_of_mem hd'))
    have hagree := (hcoherent d hd d (.inl rfl)).definitions_eq (hothers d' hd') e
    rw [← hagree, ← e, definitionsFrom?_eq_some hcoherent
      (fun d hd => (hcoherent d hd d (.inl rfl)).1) (.refl _)]
    exact ⟨d, hd, by rw [d.find?_self, Option.map_some]⟩
  · intro d hd
    rw [definitionsFrom?_eq_some hcoherent
      (fun d hd => (hcoherent d hd d (.inl rfl)).1) (.refl _)]
    exact ⟨d, hd, by rw [d.find?_self, Option.map_some]⟩

end Dependencies

/-! ### Checks of one context -/

theorem resolve_perm {a b : Scope} {space : Namespace} {reference : Reference}
    {entry : Visible} (hentries : (a.entries space).Perm (b.entries space))
    (hduplicates : a.duplicates = b.duplicates) (hhome : a.home = b.home)
    (h : a.resolve space reference = .ok entry) :
  b.resolve space reference = .ok entry
  := by
  rw [resolve_eq_ok] at h ⊢
  have hcandidates : (a.candidates space reference).Perm (b.candidates space reference) :=
    hentries.filter _
  rw [h.2] at hcandidates
  refine ⟨?_, List.singleton_perm.mp hcandidates |>.symm⟩
  simpa only [Scope.meansDuplicate, hduplicates, hhome] using h.1

theorem definitions?_ofModule (number : Nat) (module : ModuleId) (context : Context)
    (dependencies : List Module) (id : ModuleId) :
  (Setting.ofModule number module context dependencies).definitions? id
    = if id.isNative then some nativeDefinitions
      else if id = module then some {} else definitionsFrom? dependencies id
  := rfl

/-- Two checks of one context on dependencies with the same ids see the same types. -/
theorem sameTypes_ofModule {dependencies others : List Module}
    (hcoherent : ∀ d ∈ dependencies, ∀ m, m = d ∨ m ∈ d.reachable → Coherent m)
    (hothers : ∀ d ∈ others, Accepted d)
    (hids : (dependencies.map (·.id)).Perm (others.map (·.id))) (context : Context)
    (module : ModuleId) (number number' : Nat) :
  (Setting.ofModule number module context dependencies).SameTypes
    (.ofModule number' module context others)
  := by
  have hentries : ((Setting.ofModule number module context dependencies).scope.entries
      .type).Perm ((Setting.ofModule number' module context others).scope.entries .type) :=
    ((exportedTypes_perm hcoherent hothers hids).append_left _).append_right _
  constructor
  case module => rfl
  case typeParams => rfl
  case resolve =>
    intro reference entry
    exact ⟨resolve_perm hentries rfl rfl, resolve_perm hentries.symm rfl rfl⟩
  case typeHeader =>
    intro entry
    simp only [Setting.typeHeader?, definitions?_ofModule,
      definitionsFrom?_eq hcoherent hothers hids]
    rfl

theorem map_eq_of_passes {α β γ : Type} {a b : α → Check γ} {header : β → γ} {items : List α}
    {as bs : List β} (hsame : ∀ item result, (a item).Passes result ↔ (b item).Passes result)
    (ha : List.Forall₂ (fun item result => (a item).Passes (header result)) items as)
    (hb : List.Forall₂ (fun item result => (b item).Passes (header result)) items bs) :
  as.map header = bs.map header
  := by
  induction ha generalizing bs with
  | nil =>
    cases hb
    rfl
  | cons ha _ ih =>
    obtain _ | ⟨hb, hbs⟩ := hb
    have e := ((hsame _ _).mp ha).2.symm.trans hb.2
    rw [List.map_cons, List.map_cons, ih hbs, Option.some.inj e]

/-- Two checks of one context on dependencies with the same ids make the same definitions. -/
theorem definitions_eq_of_checked {number number' : Nat} {context : Context}
    {name name' : ModuleName} {dependencies others : List Module} {module other : Module}
    (h : Checked number context name dependencies module)
    (hother : Checked number' context name' others other) (hid : module.id = other.id)
    (hcoherent : ∀ d ∈ dependencies, ∀ m, m = d ∨ m ∈ d.reachable → Coherent m)
    (hothers : ∀ d ∈ others, Accepted d)
    (hids : (dependencies.map (·.id)).Perm (others.map (·.id))) :
  module.definitions = other.definitions
  := by
  have hsame := sameTypes_ofModule hcoherent hothers hids context module.id number number'
  rw [← definitions_headers, ← definitions_headers]
  apply congrArg
  have hstructs := map_eq_of_passes (fun _ _ => hsame.checkStructHeader) h.structHeaders
    (by rw [hid]; exact hother.structHeaders)
  have hfunctions := map_eq_of_passes (fun _ _ => hsame.checkFunctionHeader) h.functionHeaders
    (by rw [hid]; exact hother.functionHeaders)
  have hinterfaces : module.interfaces.map id = other.interfaces.map id :=
    map_eq_of_passes (fun _ _ => hsame.checkInterface) h.interfaces
      (by rw [hid]; exact hother.interfaces)
  have hunions : module.unions.map id = other.unions.map id :=
    map_eq_of_passes (fun _ _ => hsame.checkUnion) h.unions
      (by rw [hid]; exact hother.unions)
  rw [List.map_id, List.map_id] at hinterfaces hunions
  rw [Module.headers, Module.headers, hstructs, hfunctions, hinterfaces, hunions]

theorem definitionsOf?_of_checked {number : Nat} {context : Context} {name : ModuleName}
    {dependencies : List Module} {module : Module}
    (h : Checked number context name dependencies module) (id : ModuleId) :
  module.definitionsOf? id = if id.isNative then some nativeDefinitions
    else if id = module.id then some module.definitions else definitionsFrom? dependencies id
  := by
  unfold Module.definitionsOf? Module.find?
  rw [h.reachable_eq]
  split
  · rfl
  · split <;> rfl

/-- Every accepted module is coherent, and so is all that it reaches. -/
theorem coherent_of_accepted {module : Module} (h : Accepted module) :
  ∀ m, m = module ∨ m ∈ module.reachable → Coherent m
  := by
  apply Accepted.induction _ h
  intro number context name dependencies module haccepted hdependencies ih hchecked
  rintro m (rfl | hm)
  · refine ⟨haccepted, ?_⟩
    intro other hother hid
    obtain ⟨number', context', name', others, hothers, hchecked'⟩ := hother.checked
    have hversion : context.version (dependencies.map (·.id))
        = context'.version (others.map (·.id)) := by
      simpa [hchecked.id_eq, hchecked'.id_eq, Context.moduleId] using congrArg ModuleId.version hid
    obtain ⟨rfl, hids⟩ := version_inj
      (by simpa using fun d hd => (hdependencies d hd).isVersion)
      (by simpa using fun d hd => (hothers d hd).isVersion) hversion
    have hdefinitions := definitions_eq_of_checked hchecked hchecked' hid ih hothers hids
    funext id
    rw [definitionsOf?_of_checked hchecked, definitionsOf?_of_checked hchecked', hid,
      hdefinitions, definitionsFrom?_eq ih hothers hids]
  · rw [hchecked.reachable_eq] at hm
    obtain ⟨d, hd, hm⟩ := mem_reachableFrom hm
    exact ih d hd m hm

/-- Accepted modules with one id say the same about every id. -/
theorem definitionsOf?_eq_of_id_eq {module other : Module} (h : Accepted module)
    (hother : Accepted other) (hid : module.id = other.id) :
  module.definitionsOf? = other.definitionsOf?
  := (coherent_of_accepted h module (.inl rfl)).2 other hother hid

/-- What a reached module says about an id is what the module that reaches it says. -/
theorem definitionsOf?_of_mem {module other : Module} (h : Accepted module)
    (hother : other = module ∨ other ∈ module.reachable) {id : ModuleId}
    {definitions : Definitions} (hd : other.definitionsOf? id = some definitions) :
  module.definitionsOf? id = some definitions
  := by
  obtain rfl | hother := hother
  · exact hd
  unfold Module.definitionsOf? at hd ⊢
  split at hd
  next hnative =>
    rw [if_pos hnative]
    exact hd
  next hnative =>
    rw [if_neg hnative]
    obtain ⟨m, hm, rfl⟩ := Option.map_eq_some_iff.mp hd
    obtain ⟨hreach, rfl⟩ := Module.mem_of_find? hm
    have haccepted : Accepted m := (accepted_of_mem_reachable h _ hother).of_reached hreach
    have hfound : ∃ n ∈ module.reachable, n.id = m.id := by
      obtain rfl | hreach := hreach
      · exact ⟨_, hother, rfl⟩
      · exact reachable_trans h other hother m hreach
    obtain ⟨n, hn, hid⟩ := hfound
    obtain ⟨found, hfound⟩ := Module.exists_find? (.inr hn)
    obtain ⟨hmem, hfid⟩ := Module.mem_of_find? hfound
    have hagree := (coherent_of_accepted h found hmem).definitions_eq haccepted (hfid.trans hid)
    rw [← hid, hfound, Option.map_some, hagree]

end TypedModules
