import TypedModules.Proofs.Order.Dependencies
import TypedModules.Proofs.Resolve.Encapsulated
import TypedModules.Proofs.Typing.Scoped

/-!
# The graph of modules is closed

A module is built of a context on modules that were built before it, so that its construction is a
tree, in which a module occurs as often as others depend on it.  The modules that the module keeps as
reachable are those of that tree, each id once; what it finds under an id is found there; and its
trees name no other modules.

The main statement is `graph_closed`.
-/

namespace TypedModules

open Check

/-! ### Constructions -/

/-- A module with the constructions of its direct dependencies. -/
inductive Build where
  | mk (module : Module) (dependencies : List Build)

namespace Build

/-- The module that is built. -/
def module : Build → Module
  | mk module _ => module

/-- The constructions of its direct dependencies. -/
def dependencies : Build → List Build
  | mk _ dependencies => dependencies

/-- Whether checking made each module of a construction, on the modules that stand below it. -/
inductive Valid : Build → Prop
  | mk {number : Nat} {context : Context} {name : ModuleName} {config : SinkConfig}
      {module : Module} {warnings : List Diagnostic} {dependencies : List Build} :
    (∀ d ∈ dependencies, d.Valid) →
    validate number context name (dependencies.map Build.module) config
      = .success module warnings →
    Valid (.mk module dependencies)

/-- Whether one construction stands below another, at whatever depth. -/
inductive Reaches : Build → Build → Prop
  | direct {build dependency : Build} :
    dependency ∈ build.dependencies → Reaches build dependency
  | through {build dependency other : Build} :
    dependency ∈ build.dependencies → Reaches dependency other → Reaches build other

/-- Whether an id stands for one module only among those below a construction. -/
def Identifies (build : Build) : Prop :=
  ∀ c d, build.Reaches c → build.Reaches d → c.module.id = d.module.id → c.module = d.module

@[simp]
theorem reaches_mk {module : Module} {dependencies : List Build} {other : Build} :
  (mk module dependencies).Reaches other ↔ ∃ d ∈ dependencies, other = d ∨ d.Reaches other
  := by
  constructor
  · rintro (h | ⟨hd, h⟩)
    · exact ⟨other, h, .inl rfl⟩
    · exact ⟨_, hd, .inr h⟩
  · rintro ⟨d, hd, rfl | h⟩
    · exact .direct hd
    · exact .through hd h

theorem Reaches.trans {a b c : Build} (hab : a.Reaches b) (hbc : b.Reaches c) :
  a.Reaches c
  := by
  induction hab with
  | direct hd => exact .through hd hbc
  | through hd _ ih => exact .through hd (ih hbc)

theorem Valid.accepted {build : Build} (h : build.Valid) :
  Accepted build.module
  := by
  induction h with
  | mk _ hvalidate ih => exact .intro (List.forall_mem_map.mpr ih) hvalidate

/-- The accepted modules are those that are built. -/
theorem accepted_iff {module : Module} :
  Accepted module ↔ ∃ build : Build, build.Valid ∧ build.module = module
  := by
  constructor
  · intro h
    induction h with
    | @intro _ _ _ dependencies _ module _ _ hvalidate ih =>
      choose build hvalid hmodule using ih
      let builds := dependencies.attach.map fun d => build d.1 d.2
      have hbuilds : builds.map Build.module = dependencies := by
        simp only [builds, List.map_map, Function.comp_def, hmodule, List.attach_map_subtype_val]
      refine ⟨.mk module builds, .mk (fun b hb => ?_) (hbuilds ▸ hvalidate), rfl⟩
      obtain ⟨d, -, rfl⟩ := List.mem_map.mp hb
      exact hvalid d.1 d.2
  · rintro ⟨build, h, rfl⟩
    exact h.accepted

/-- What stands below a construction is one as well. -/
theorem Valid.of_reaches {build other : Build} (h : build.Valid) (hreaches : build.Reaches other) :
  other.Valid
  := by
  induction hreaches with
  | direct hd =>
    cases h with
    | mk hdependencies _ => exact hdependencies _ hd
  | through hd _ ih =>
    cases h with
    | mk hdependencies _ => exact ih (hdependencies _ hd)

theorem Valid.reachable_eq {build : Build} (h : build.Valid) :
  build.module.reachable = reachableFrom (build.dependencies.map Build.module)
  := by
  cases h with
  | mk _ hvalidate => exact (checked_of_passes (passes_of_validate hvalidate)).reachable_eq

/-- Every module that is kept as reachable stands below. -/
theorem Valid.reaches_of_mem {build : Build} (h : build.Valid) :
  ∀ m ∈ build.module.reachable, ∃ other, build.Reaches other ∧ other.module = m
  := by
  induction h with
  | @mk _ _ _ _ module _ dependencies hdependencies hvalidate ih =>
    intro m hm
    rw [(Valid.mk hdependencies hvalidate).reachable_eq] at hm
    obtain ⟨_, hdependency, hm⟩ := mem_reachableFrom hm
    obtain ⟨d, hd, rfl⟩ := List.mem_map.mp hdependency
    obtain rfl | hm := hm
    · exact ⟨d, .direct hd, rfl⟩
    · obtain ⟨other, hother, rfl⟩ := ih d hd m hm
      exact ⟨other, .through hd hother, rfl⟩

/-- The id of every module that stands below is kept as reachable. -/
theorem Valid.mem_ids_of_reaches {build other : Build} (h : build.Valid)
    (hreaches : build.Reaches other) :
  ∃ m ∈ build.module.reachable, m.id = other.module.id
  := by
  have hkept : ∀ {b d : Build}, b.Valid → d ∈ b.dependencies → ∀ {id : ModuleId},
      (d.module.id = id ∨ ∃ m ∈ d.module.reachable, m.id = id) →
        ∃ m ∈ b.module.reachable, m.id = id := by
    intro b d hb hd id hid
    rw [hb.reachable_eq, mem_ids_reachableFrom]
    exact ⟨d.module, List.mem_map_of_mem hd, hid⟩
  induction hreaches with
  | direct hd => exact hkept h hd (.inl rfl)
  | through hd _ ih => exact hkept h hd (.inr (ih (h.of_reaches (.direct hd))))

end Build

/-! ### Finding modules -/

mutual

/-- The module with an id: the module itself, or one that it keeps as reachable, or what one of
these finds in turn. -/
def Module.search? (wanted : ModuleId) : Module → Option Module
  | ⟨id, functions, structs, interfaces, unions, reachable⟩ =>
    if wanted = id then some ⟨id, functions, structs, interfaces, unions, reachable⟩
    else (reachable.find? (·.id == wanted)).or (searchAll? wanted reachable)

/-- The first module with an id that one of some modules finds. -/
def Module.searchAll? (wanted : ModuleId) : List Module → Option Module
  | [] => none
  | first :: rest => (first.search? wanted).or (searchAll? wanted rest)

end

theorem Module.find?_isSome {module : Module} {id : ModuleId} :
  (module.find? id).isSome ↔ id = module.id ∨ ∃ m ∈ module.reachable, m.id = id
  := by
  unfold find?
  split
  next h => simp [h]
  next h => simp [List.find?_isSome, h]

mutual

/-- In an accepted module there is nothing more to find than what it keeps as reachable. -/
theorem Accepted.search?_eq {wanted : ModuleId} : (module : Module) → Accepted module →
    module.search? wanted = module.find? wanted
  | ⟨id, functions, structs, interfaces, unions, reachable⟩, h => by
    rw [Module.search?, Module.find?]
    split
    · rfl
    next hother =>
      cases hfound : reachable.find? (·.id == wanted) with
      | some found => rfl
      | none =>
        apply Accepted.searchAll?_eq_none reachable
        intro m hm
        refine ⟨accepted_of_mem_reachable h m hm, ?_⟩
        rw [← Option.not_isSome_iff_eq_none, Module.find?_isSome]
        have hmissing : ∀ m ∈ reachable, m.id ≠ wanted := by
          simpa using List.find?_eq_none.mp hfound
        rintro (rfl | ⟨n, hn, rfl⟩)
        · exact hmissing m hm rfl
        · obtain ⟨n', hn', hid⟩ := reachable_trans h m hm n hn
          exact hmissing n' hn' hid

theorem Accepted.searchAll?_eq_none {wanted : ModuleId} : (modules : List Module) →
    (∀ m ∈ modules, Accepted m ∧ m.find? wanted = none) →
    Module.searchAll? wanted modules = none
  | [], _ => rfl
  | first :: rest, h => by
    obtain ⟨haccepted, hfirst⟩ := h first List.mem_cons_self
    rw [Module.searchAll?, Accepted.search?_eq first haccepted, hfirst, Option.none_or]
    exact Accepted.searchAll?_eq_none rest fun m hm => h m (List.mem_cons_of_mem _ hm)

end

/-! ### What a module names -/

/-- Whether the id of a module occurs in a module: in a type, or as that of what is called or
bound. -/
inductive Module.Names (module : Module) : ModuleId → Prop
  | type {typeParams : List TypeParam} {type : Ty} {entity : Entity} :
    module.Occurs typeParams type → entity ∈ type.entities → Names module entity.module
  | mention {part : Expr} {reference : Reference} {entity : Entity} {n : Nat} :
    part ∈ module.parts → part.node.Mentions reference entity n → Names module entity.module

mutual

/-- Every entity that a formed type names has parameters. -/
theorem Ty.Formed.arity {scope : TyScope} {entity : Entity} : (type : Ty) → {allowed : Nat} →
    type.Formed scope allowed → entity ∈ type.entities → ∃ n, scope.arity entity n
  | .integer, _, _, hentity => nomatch hentity
  | .natural, _, _, hentity => nomatch hentity
  | .boolean, _, _, hentity => nomatch hentity
  | .param _, _, _, hentity => nomatch hentity
  | .internal _, _, _, hentity => nomatch hentity
  | .list element, _, h, hentity => Ty.Formed.arity element h hentity
  | .tryOf inner, _, h, hentity => Ty.Formed.arity inner h hentity
  | .function _ _ args output, _, h, hentity =>
    (List.mem_append.mp hentity).elim (Ty.AreFormed.arity args h.1) (Ty.Formed.arity output h.2)
  | .named _ _ _ params, _, h, hentity => by
    obtain rfl | hentity := List.mem_cons.mp hentity
    · exact ⟨_, h.1⟩
    · exact Ty.AreFormed.arity params h.2 hentity

theorem Ty.AreFormed.arity {scope : TyScope} {entity : Entity} : (types : List Ty) →
    {allowed : Nat} → Ty.AreFormed scope allowed types → entity ∈ Ty.entitiesOfAll types →
      ∃ n, scope.arity entity n
  | [], _, _, hentity => nomatch hentity
  | first :: rest, _, h, hentity =>
    (List.mem_append.mp hentity).elim (Ty.Formed.arity first h.1) (Ty.AreFormed.arity rest h.2)

end

/-- An accepted module says something about every module that it names. -/
theorem Accepted.library_of_names {module : Module} (h : Accepted module) {id : ModuleId}
    (hnames : module.Names id) :
  (module.library id).isSome
  := by
  rw [Option.isSome_iff_exists]
  cases hnames with
  | type hoccurs hentity =>
    obtain ⟨_, definitions, _, _, hd, -⟩ := (well_scoped h hoccurs).arity _ hentity
    exact ⟨definitions, hd⟩
  | @mention part _ _ _ hpart hmentions =>
    obtain ⟨_, _, _, _, -, hchecked⟩ := h.checked
    obtain ⟨_, htyped⟩ := (hchecked.typed h).parts hpart
    cases part with
    | mk type aliasing node =>
      obtain ⟨entry, _, -, rfl, hsignature, -⟩ := hmentions.signature htyped.2
      obtain ⟨definitions, hd, -⟩ := Option.bind_eq_some_iff.mp hsignature
      exact ⟨definitions, hd⟩

/-- An accepted module names only the native module, itself, and what it keeps as reachable. -/
theorem Accepted.reachable_of_names {module : Module} (h : Accepted module) {id : ModuleId}
    (hnames : module.Names id) :
  id = nativeModule ∨ id = module.id ∨ ∃ m ∈ module.reachable, m.id = id
  := by
  have hsome := h.library_of_names hnames
  unfold Module.library Module.definitionsOf? at hsome
  split at hsome
  next hnative => exact .inl (by simpa [ModuleId.isNative] using hnative)
  next =>
    rw [Option.isSome_map] at hsome
    exact .inr (Module.find?_isSome.mp hsome)

/-! ### Closed graphs -/

section Closed

variable {build : Build} (h : build.Valid)

include h

/-- For every accepted module whose id is kept as reachable, a reachable one says the same. -/
theorem Build.Valid.exists_reachable {other : Module} (hother : Accepted other)
    (hid : ∃ m ∈ build.module.reachable, m.id = other.id) :
  ∃ m ∈ build.module.reachable, m.id = other.id ∧ m.definitionsOf? = other.definitionsOf?
  := by
  obtain ⟨m, hm, hid⟩ := hid
  have hm' := accepted_of_mem_reachable h.accepted m hm
  exact ⟨m, hm, hid, definitionsOf?_eq_of_id_eq hm' hother hid⟩

/-- The ids that are kept as reachable are those of what stands below. -/
theorem Build.Valid.mem_ids_iff {id : ModuleId} :
  (∃ m ∈ build.module.reachable, m.id = id) ↔ ∃ other, build.Reaches other ∧ other.module.id = id
  := by
  constructor
  · rintro ⟨m, hm, rfl⟩
    obtain ⟨other, hother, rfl⟩ := h.reaches_of_mem m hm
    exact ⟨other, hother, rfl⟩
  · rintro ⟨other, hother, rfl⟩
    exact h.mem_ids_of_reaches hother

/-- What is found under an id has that id, and is the module itself or stands below it. -/
theorem Build.Valid.of_search? {id : ModuleId} {m : Module}
    (hm : build.module.search? id = some m) :
  m.id = id ∧ (m = build.module ∨ ∃ other, build.Reaches other ∧ other.module = m)
  := by
  rw [Accepted.search?_eq _ h.accepted] at hm
  obtain ⟨hmem, hid⟩ := Module.mem_of_find? hm
  exact ⟨hid, hmem.imp_right fun hmem => h.reaches_of_mem m hmem⟩

variable (hidentifies : build.Identifies)

include hidentifies

/-- Where ids tell apart what stands below, all of it is reachable. -/
theorem Build.Valid.mem_reachable_iff {m : Module} :
  m ∈ build.module.reachable ↔ ∃ other, build.Reaches other ∧ other.module = m
  := by
  refine ⟨h.reaches_of_mem m, ?_⟩
  rintro ⟨other, hother, rfl⟩
  obtain ⟨m, hm, hid⟩ := h.mem_ids_of_reaches hother
  obtain ⟨c, hc, rfl⟩ := h.reaches_of_mem m hm
  rwa [← hidentifies c other hc hother hid]

/-- Where ids tell apart what stands below, whatever has an id is found under it. -/
theorem Build.Valid.search?_eq_some_iff {id : ModuleId} {m : Module} :
  build.module.search? id = some m
    ↔ m.id = id ∧ (m = build.module ∨ ∃ other, build.Reaches other ∧ other.module = m)
  := by
  refine ⟨h.of_search?, ?_⟩
  rintro ⟨rfl, hm⟩
  obtain ⟨found, hm'⟩ : ∃ found, build.module.find? m.id = some found :=
    Module.exists_find? (hm.imp_right (h.mem_reachable_iff hidentifies).mpr)
  rw [Accepted.search?_eq _ h.accepted, hm']
  obtain ⟨hfound, hid⟩ := Module.mem_of_find? hm'
  -- the module itself has another id than all that it reaches, which their ids tell apart
  obtain rfl | hfound := hfound <;> obtain rfl | hm := hm
  · rfl
  · exact absurd hid.symm (h.accepted.id_ne ((h.mem_reachable_iff hidentifies).mpr hm))
  · exact absurd hid (h.accepted.id_ne hfound)
  · obtain ⟨c, hc, rfl⟩ := (h.mem_reachable_iff hidentifies).mp hfound
    obtain ⟨d, hd, rfl⟩ := hm
    rw [hidentifies c d hc hd hid]

end Closed

/-- A module that is built keeps as reachable what stands below it: only modules of its
construction, in the order of ids and each id once, and for each module below one with the same id
that says the same of every module.  What a reachable module keeps is kept under the same id; a
module is found exactly under its own id and those of the modules below; and whatever the module
names is native, itself or reachable.  If moreover an id stands for one module only below, then the
reachable modules are exactly those below, each with all that it keeps, and what is found is exactly
the module with the id. -/
theorem graph_closed {build : Build} (h : build.Valid) :
  let module := build.module
  (∀ m ∈ module.reachable, ∃ other, build.Reaches other ∧ other.module = m)
    ∧ (∀ other, build.Reaches other → ∃ m ∈ module.reachable,
      m.id = other.module.id ∧ m.definitionsOf? = other.module.definitionsOf?)
    ∧ InIdOrder module.reachable
    ∧ (∀ m ∈ module.reachable, ∀ n ∈ m.reachable, ∃ n' ∈ module.reachable,
      n'.id = n.id ∧ n'.definitionsOf? = n.definitionsOf?)
    ∧ (∀ id m, module.search? id = some m →
      m.id = id ∧ (m = module ∨ ∃ other, build.Reaches other ∧ other.module = m))
    ∧ (∀ id, (module.search? id).isSome
      ↔ id = module.id ∨ ∃ other, build.Reaches other ∧ other.module.id = id)
    ∧ (∀ id, module.Names id → id = nativeModule ∨ id = module.id
      ∨ ∃ m ∈ module.reachable, m.id = id)
    ∧ (build.Identifies →
      (∀ m, m ∈ module.reachable ↔ ∃ other, build.Reaches other ∧ other.module = m)
        ∧ (∀ m ∈ module.reachable, ∀ n ∈ m.reachable, n ∈ module.reachable)
        ∧ ∀ id m, module.search? id = some m
          ↔ m.id = id ∧ (m = module ∨ ∃ other, build.Reaches other ∧ other.module = m))
  := by
  intro module
  refine ⟨h.reaches_of_mem, ?_, ?_, ?_, fun _ _ => h.of_search?, ?_, ?_, ?_⟩
  · intro other hother
    exact h.exists_reachable (h.of_reaches hother).accepted (h.mem_ids_of_reaches hother)
  · rw [h.reachable_eq]
    exact inIdOrder_reachableFrom _
  · intro m hm n hn
    have hm' := accepted_of_mem_reachable h.accepted m hm
    exact h.exists_reachable (accepted_of_mem_reachable hm' n hn)
      (reachable_trans h.accepted m hm n hn)
  · intro id
    rw [Accepted.search?_eq module h.accepted, Module.find?_isSome, h.mem_ids_iff]
  · exact fun id => h.accepted.reachable_of_names
  · intro hidentifies
    have hmem := fun m => @Build.Valid.mem_reachable_iff build h hidentifies m
    refine ⟨hmem, ?_, fun id m => h.search?_eq_some_iff hidentifies⟩
    intro m hm n hn
    obtain ⟨c, hc, rfl⟩ := h.reaches_of_mem m hm
    obtain ⟨d, hd, rfl⟩ := (h.of_reaches hc).reaches_of_mem n hn
    exact (hmem _).mpr ⟨d, hc.trans hd, rfl⟩

/-- A module that is made on two others, which are both made on one library, keeps all three as
reachable. -/
theorem graph_closed_diamond :
  ∃ base left right top : Build, top.Valid ∧ top.dependencies = [left, right]
    ∧ left.dependencies = [base] ∧ right.dependencies = [base]
    ∧ left.module.id ≠ right.module.id ∧ top.Identifies
    ∧ ∀ m, m ∈ top.module.reachable ↔ m = base.module ∨ m = left.module ∨ m = right.module
  := by
  have hdiamond : (validate 0 exportsOne ⟨"a", "base"⟩ [] {}).module?.any (fun base =>
      base.id.name == ⟨"a", "base"⟩
        && (validate 0 {} ⟨"a", "left"⟩ [base] {}).module?.any fun left =>
          left.id.name == ⟨"a", "left"⟩
            && (validate 0 {} ⟨"a", "right"⟩ [base] {}).module?.any fun right =>
              right.id.name == ⟨"a", "right"⟩
                && (validate 0 {} ⟨"a", "top"⟩ [left, right] {}).module?.any fun _ => true) = true := by
    decide +kernel
  obtain ⟨base, _, hbase, hdiamond⟩ := Verdict.exists_success hdiamond
  obtain ⟨hbaseName, hdiamond⟩ := (Bool.and_eq_true _ _).mp hdiamond
  obtain ⟨left, _, hleft, hdiamond⟩ := Verdict.exists_success hdiamond
  obtain ⟨hleftName, hdiamond⟩ := (Bool.and_eq_true _ _).mp hdiamond
  obtain ⟨right, _, hright, hdiamond⟩ := Verdict.exists_success hdiamond
  obtain ⟨hrightName, hdiamond⟩ := (Bool.and_eq_true _ _).mp hdiamond
  obtain ⟨top, _, htop, -⟩ := Verdict.exists_success hdiamond
  let baseBuild := Build.mk base []
  let leftBuild := Build.mk left [baseBuild]
  let rightBuild := Build.mk right [baseBuild]
  have hbaseValid : baseBuild.Valid := .mk (by simp) hbase
  have hleftValid : leftBuild.Valid := .mk (by simpa using hbaseValid) hleft
  have hrightValid : rightBuild.Valid := .mk (by simpa using hbaseValid) hright
  have htopValid : (Build.mk top [leftBuild, rightBuild]).Valid :=
    .mk (by simp [hleftValid, hrightValid]) htop
  have hbelow : ∀ c, (Build.mk top [leftBuild, rightBuild]).Reaches c
      ↔ c = baseBuild ∨ c = leftBuild ∨ c = rightBuild := by
    intro c
    simp [leftBuild, rightBuild, baseBuild]
    tauto
  have hne : ∀ {m n : Module} {name name' : ModuleName}, (m.id.name == name) = true →
      (n.id.name == name') = true → name ≠ name' → m.id ≠ n.id := by
    intro m n name name' hm hn hname e
    rw [beq_iff_eq] at hm hn
    exact hname (hm.symm.trans ((congrArg ModuleId.name e).trans hn))
  have hidentifies : (Build.mk top [leftBuild, rightBuild]).Identifies := by
    intro c d hc hd hid
    rw [hbelow] at hc hd
    have hbaseLeft := hne hbaseName hleftName (by decide)
    have hbaseRight := hne hbaseName hrightName (by decide)
    have hleftRight := hne hleftName hrightName (by decide)
    obtain rfl | rfl | rfl := hc <;> obtain rfl | rfl | rfl := hd
    · rfl
    · exact absurd hid hbaseLeft
    · exact absurd hid hbaseRight
    · exact absurd hid.symm hbaseLeft
    · rfl
    · exact absurd hid hleftRight
    · exact absurd hid.symm hbaseRight
    · exact absurd hid.symm hleftRight
    · rfl
  refine ⟨baseBuild, leftBuild, rightBuild, _, htopValid, rfl, rfl, rfl,
    hne hleftName hrightName (by decide), hidentifies, ?_⟩
  intro m
  obtain ⟨-, -, -, -, -, -, -, hexact⟩ := graph_closed htopValid
  rw [(hexact hidentifies).1 m]
  simp only [hbelow]
  constructor
  · rintro ⟨c, rfl | rfl | rfl, rfl⟩ <;> simp
  · rintro (rfl | rfl | rfl)
    · exact ⟨baseBuild, .inl rfl, rfl⟩
    · exact ⟨leftBuild, .inr (.inl rfl), rfl⟩
    · exact ⟨rightBuild, .inr (.inr rfl), rfl⟩

end TypedModules
