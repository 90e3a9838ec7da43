import TypedModules.Proofs.Declared.Native
import TypedModules.Proofs.Graph.Coherence
import TypedModules.Proofs.Ty.Proper

/-!
# Accepted modules declare formed things

What an accepted module says about ids is formed: its own declarations because their headers
passed, those of the modules that it reaches because they were accepted before it, and those
of the native module.  The types that it writes, in its bodies too, are proper.
-/

namespace TypedModules

open Check

/-! ### Written types -/

/-- Where the given type parameters are in scope, each with its constraint. -/
def Library.exactly (library : Library) (typeParams : List TypeParam) : TyScope :=
  ⟨library.Arity, (· ∈ typeParams)⟩

theorem Ty.Formed.byName {library : Library} {typeParams : List TypeParam} {type : Ty}
    {allowed : Nat} (h : type.Formed (library.exactly typeParams) allowed) :
  type.Formed (library.scopeOf typeParams) allowed
  := h.mono (fun _ _ => id) (fun _ => List.mem_map_of_mem) (Nat.le_refl _)

/-- Whether the headers of the types that a module sees are those of a library. -/
def Setting.TypesIn (setting : Setting) (library : Library) : Prop :=
  ∀ entry header, setting.typeHeader? entry = some header →
    library.Arity entry.entity header.typeParams.length

section Written

variable {setting : Setting} {library : Library}

/-- What an unqualified name stands for is in scope. -/
theorem proper_typeParam? {internal : List String} {reference : Reference} {hasArgs : Bool}
    {type : Ty} (hparam : setting.typeParam? internal reference hasArgs = some type) :
  type.Proper (library.exactly setting.typeParams) internal.length
  := by
  unfold Setting.typeParam? at hparam
  split at hparam
  · cases hparam
  · obtain ⟨name, -, hparam⟩ := Option.bind_eq_some_iff.mp hparam
    split at hparam
    next index hindex =>
      cases hparam
      exact ⟨(Ty.idxOf?_eq_some hindex).2, trivial⟩
    next =>
      obtain ⟨p, hp, rfl⟩ := Option.map_eq_some_iff.mp hparam
      exact Ty.proper_param.mpr (List.mem_of_find?_eq_some hp)

mutual

/-- A written type that passes is proper where the type parameters of the declaration are in
scope. -/
theorem proper_checkTyWithin (h : setting.TypesIn library) :
  (internal : List String) → (written : SourceTy) →
    {type : Ty} → (checkTyWithin setting internal written).Passes type →
      type.Proper (library.exactly setting.typeParams) internal.length
  | _, .integer, type, hp => by
    cases passes_pure.mp hp
    exact ⟨trivial, trivial⟩
  | _, .natural, type, hp => by
    cases passes_pure.mp hp
    exact ⟨trivial, trivial⟩
  | _, .boolean, type, hp => by
    cases passes_pure.mp hp
    exact ⟨trivial, trivial⟩
  | internal, .list element, type, hp => by
    obtain ⟨e, he, hvalue, rfl⟩ := passes_checkTyWithin_list.mp hp
    exact Ty.proper_list.mpr ⟨hvalue, proper_checkTyWithin h internal element he⟩
  | internal, .tryOf inner, type, hp => by
    obtain ⟨e, he, hvalue, rfl⟩ := passes_checkTyWithin_tryOf.mp hp
    exact Ty.proper_tryOf.mpr ⟨hvalue, proper_checkTyWithin h internal inner he⟩
  | internal, .function isReference typeParams args output location, type, hp => by
    obtain ⟨-, as, o, has, ho, rfl⟩ := passes_checkTyWithin_function.mp hp
    have hlength : (typeParams.map (·.name) ++ internal).length
        = internal.length + typeParams.length := by
      simp [Nat.add_comm]
    have hargs := proper_checkTysWithin h _ args has
    have houtput := proper_checkTyWithin h _ output ho
    rw [hlength] at hargs houtput
    exact Ty.proper_function.mpr ⟨hargs, houtput⟩
  | internal, .named isMarked reference params location, type, hp => by
    obtain hparam | ⟨-, ⟨entity, header⟩, ps, hheader, hps, rfl⟩ := passes_checkTyWithin_named.mp hp
    · exact proper_typeParam? hparam
    · obtain ⟨entry, -, hheader, rfl, -, hcount⟩ := passes_namedHeader.mp hheader
      have hps' := passes_checkTyArgsWithin.mp hps
      refine Ty.proper_named.mpr ⟨?_, proper_checkTyArgsWithin h internal location params hps⟩
      rw [← hps'.length_eq, hcount]
      exact h entry header hheader

/-- Written types that pass are proper. -/
theorem proper_checkTysWithin (h : setting.TypesIn library) :
  (internal : List String) → (written : List SourceTy) →
    {types : List Ty} → (checkTysWithin setting internal written).Passes types →
      ∀ type ∈ types, type.Proper (library.exactly setting.typeParams) internal.length
  | _, [], types, hp => by
    cases passes_pure.mp hp
    exact fun _ h => nomatch h
  | internal, first :: rest, types, hp => by
    simp only [checkTysWithin, passes_bind, passes_pure] at hp
    obtain ⟨type, htype, others, hothers, rfl⟩ := hp
    rw [List.forall_mem_cons]
    exact ⟨proper_checkTyWithin h internal first htype,
      proper_checkTysWithin h internal rest hothers⟩

/-- The arguments of a named type that pass are proper, and no references. -/
theorem proper_checkTyArgsWithin (h : setting.TypesIn library) :
  (internal : List String) → (location : Option Location) →
    (written : List SourceTy) → {types : List Ty} →
      (checkTyArgsWithin setting internal location written).Passes types →
        ∀ type ∈ types, type.isReference = false
          ∧ type.Proper (library.exactly setting.typeParams) internal.length
  | _, _, [], types, hp => by
    cases passes_pure.mp hp
    exact fun _ h => nomatch h
  | internal, location, first :: rest, types, hp => by
    simp only [checkTyArgsWithin, passes_bind, passes_pure, passes_requireValueType] at hp
    obtain ⟨type, htype, _, hvalue, others, hothers, rfl⟩ := hp
    rw [List.forall_mem_cons]
    exact ⟨⟨hvalue, proper_checkTyWithin h internal first htype⟩,
      proper_checkTyArgsWithin h internal location rest hothers⟩

end

variable (h : setting.TypesIn library)

include h

theorem proper_checkTy {written : SourceTy} {type : Ty}
    (hp : (checkTy setting written).Passes type) :
  type.Proper (library.exactly setting.typeParams) 0
  := proper_checkTyWithin h [] written hp

theorem formed_checkTy {written : SourceTy} {type : Ty}
    (hp : (checkTy setting written).Passes type) :
  type.Formed (library.scopeOf setting.typeParams) 0
  := (proper_checkTy h hp).formed.byName

theorem Setting.TypesIn.within (typeParams : List TypeParam) :
  (setting.within typeParams).TypesIn library
  := h

/-! ### Headers -/

theorem formed_checkStructHeader {declared : SourceStruct} {header : StructHeader}
    (hp : (checkStructHeader setting declared).Passes header) :
  header.module = setting.module ∧ header.Formed library
  := by
  obtain ⟨hparams, hnames, members, hmembers, rfl⟩ := passes_checkStructHeader.mp hp
  refine ⟨rfl, hparams, ?_, ?_⟩
  · have e := map_eq_map_of_related hmembers fun _ _ h => h.2
    exact e ▸ hnames
  · intro m hm
    obtain ⟨_, -, ⟨hty, -⟩, -⟩ := exists_related_left hmembers hm
    exact formed_checkTy (h.within declared.typeParams) hty

theorem formed_checkMethod {declared : SourceInterface} {written : SourceMethod}
    {method : Method} (hp : (checkMethod setting declared written).Passes method) :
  method.Formed library declared.typeParams
  := by
  obtain ⟨hparams, -, args, output, hargs, houtput, rfl⟩ := passes_checkMethod.mp hp
  refine ⟨hparams, ?_, formed_checkTy (h.within _) houtput⟩
  intro a ha
  obtain ⟨_, -, hty, -⟩ := exists_related_left hargs ha
  exact formed_checkTy (h.within _) hty

omit h in
theorem name_of_checkMethod {declared : SourceInterface} {written : SourceMethod}
    {method : Method} (hp : (checkMethod setting declared written).Passes method) :
  written.name = method.name
  := by
  obtain ⟨-, -, _, _, -, -, rfl⟩ := passes_checkMethod.mp hp
  rfl

theorem formed_checkInterface {declared : SourceInterface} {interface : Interface}
    (hp : (checkInterface setting declared).Passes interface) :
  interface.module = setting.module ∧ interface.Formed library
  := by
  obtain ⟨hparams, hnames, methods, hmethods, rfl⟩ := passes_checkInterface.mp hp
  refine ⟨rfl, hparams, ?_, ?_⟩
  · have e := map_eq_map_of_related hmethods fun _ _ h => name_of_checkMethod h
    exact e ▸ hnames
  · intro m hm
    obtain ⟨_, -, hpasses⟩ := exists_related_left hmethods hm
    exact formed_checkMethod h hpasses

theorem formed_checkUnion {declared : SourceUnion} {union : Union}
    (hp : (checkUnion setting declared).Passes union) :
  union.module = setting.module ∧ union.Formed library
  := by
  obtain ⟨hparams, -, hnames, options, hoptions, rfl⟩ := passes_checkUnion.mp hp
  refine ⟨rfl, hparams, ?_, ?_⟩
  · have e := map_eq_map_of_related hoptions fun _ _ h => (passes_checkOption.mp h).2.2
    exact e ▸ hnames
  · intro o ho type htype
    obtain ⟨⟨_, written, _⟩, -, hpasses⟩ := exists_related_left hoptions ho
    obtain ⟨-, hrel, -⟩ := passes_checkOption.mp hpasses
    simp only [htype] at hrel
    obtain ⟨hty, -⟩ := hrel
    exact formed_checkTy (h.within declared.typeParams) hty

theorem formed_checkFunctionHeader {declared : SourceFunction} {header : FunctionHeader}
    (hp : (checkFunctionHeader setting declared).Passes header) :
  header.module = setting.module ∧ header.signature.Formed library
  := by
  obtain ⟨hparams, -, args, hargs, output, houtput, rfl⟩ := passes_checkFunctionHeader.mp hp
  refine ⟨rfl, hparams, ?_, formed_checkTy (h.within _) houtput⟩
  simp only [FunctionHeader.signature, List.forall_mem_map]
  intro a ha
  obtain ⟨_, -, hty, -⟩ := exists_related_left hargs ha
  exact formed_checkTy (h.within _) hty

end Written

/-! ### Checked modules -/

/-- What a module says about the ids of modules. -/
abbrev Module.library (module : Module) : Library :=
  module.definitionsOf?

section Checked

variable {number : Nat} {context : Context} {name : ModuleName} {dependencies : List Module}
  {module : Module}

/-- Headers that pass declare the ids that the context claims. -/
theorem Headers.Pass.entries_ids {setting : Setting} {headers : Headers}
    (h : headers.Pass setting context) :
  headers.definitions.entries.map (·.1) = context.claims.map (·.id)
  := by
  have hfunctions := map_eq_map_of_related h.functions fun _ _ hp =>
    (id_of_checkFunctionHeader hp).symm
  have hstructs := map_eq_map_of_related h.structs fun _ _ hp => (id_of_checkStructHeader hp).symm
  have hinterfaces : context.interfaces.flatMap (fun i => [i.id, i.id.adapter])
      = headers.interfaces.flatMap fun i => [i.id, i.adapterId] := by
    apply flatMap_eq_flatMap_of_related h.interfaces
    intro declared interface hp
    obtain ⟨-, -, _, -, rfl⟩ := passes_checkInterface.mp hp
    rfl
  have hunions : context.unions.flatMap (fun u =>
        u.id :: u.options.map (fun o => u.id.child o.name) ++ [u.id.whenId])
      = headers.unions.flatMap fun u =>
        u.id :: u.options.map (fun o => u.id.child o.name) ++ [u.whenId] := by
    apply flatMap_eq_flatMap_of_related h.unions
    intro declared union hp
    obtain ⟨-, -, -, options, hoptions, rfl⟩ := passes_checkUnion.mp hp
    have e : declared.options.map (fun o => declared.id.child o.name)
        = options.map fun o => declared.id.child o.name :=
      map_eq_map_of_related hoptions fun _ _ ho => by rw [(passes_checkOption.mp ho).2.2]
    rw [e]
    rfl
  rw [claims_ids, hfunctions, hstructs, hinterfaces, hunions]
  simp [Definitions.entries, Headers.definitions, List.map_flatMap, Function.comp_def,
    FunctionHeader.signature]

/-- A checked module declares the ids that its context claims. -/
theorem Checked.entries_ids (h : Checked number context name dependencies module) :
  module.definitions.entries.map (·.1) = context.claims.map (·.id)
  := definitions_headers module ▸ h.pass.entries_ids

theorem Checked.distinct_definitions (h : Checked number context name dependencies module) :
  module.definitions.Distinct
  := by
  rw [Definitions.Distinct, h.entries_ids]
  exact h.distinct

/-- The named types of a context are those of the module that a check makes of it. -/
theorem Checked.arity_of_mem (h : Checked number context name dependencies module)
    (haccepted : Accepted module) {id : EntityId} {header : TypeHeader}
    (hmem : (id, header) ∈ context.typeHeaders) :
  module.library.Arity ⟨module.id, id⟩ header.typeParams.length
  := by
  have hd := definitionsOf?_self haccepted.not_native
  have hdistinct := h.distinct_definitions
  simp only [Context.typeHeaders, List.mem_append, List.mem_map, List.mem_flatMap, List.mem_cons,
    List.not_mem_nil, or_false, Prod.mk.injEq] at hmem
  obtain (⟨declared, hs, rfl, rfl⟩ | ⟨declared, hi, hmem⟩) | ⟨declared, hu, rfl, rfl⟩ := hmem
  · obtain ⟨struct, hstruct, hp⟩ := exists_related_right h.structHeaders hs
    obtain ⟨-, -, _, -, e⟩ := passes_checkStructHeader.mp hp
    have hheader : struct.toStructHeader ∈ module.definitions.structs :=
      List.mem_map_of_mem hstruct
    rw [← e] at hheader
    exact hdistinct.arity_struct hd hheader
  · obtain ⟨interface, hinterface, hp⟩ := exists_related_right h.interfaces hi
    obtain ⟨-, -, _, -, rfl⟩ := passes_checkInterface.mp hp
    obtain ⟨rfl, rfl⟩ | ⟨rfl, rfl⟩ := hmem
    · exact hdistinct.arity_interface hd hinterface
    · exact hdistinct.arity_adapter hd hinterface
  · obtain ⟨union, hunion, hp⟩ := exists_related_right h.unions hu
    obtain ⟨-, -, -, _, -, rfl⟩ := passes_checkUnion.mp hp
    exact hdistinct.arity_union hd hunion

/-- Of other modules a setting knows what the module says that is made in it. -/
theorem Checked.definitions?_eq (h : Checked number context name dependencies module)
    {id : ModuleId} (hid : id ≠ module.id) :
  (Setting.ofModule number module.id context dependencies).definitions? id
    = module.definitionsOf? id
  := by
  rw [definitionsOf?_of_checked h, definitions?_ofModule, if_neg hid, if_neg hid]

/-- In the setting for bodies everything is known that the module says. -/
theorem Checked.definitions?_ofBodies (h : Checked number context name dependencies module)
    (id : ModuleId) :
  (Setting.ofBodies number context dependencies module).definitions? id
    = module.definitionsOf? id
  := by
  rw [definitionsOf?_of_checked h]
  rfl

/-- The types of a setting are those of the module if it knows no other headers of its own
types, and of other modules what the module says. -/
theorem Checked.typesIn (h : Checked number context name dependencies module)
    (haccepted : Accepted module) {setting : Setting} (hmodule : setting.module = module.id)
    (hheaders : ∀ entry ∈ setting.typeHeaders, entry ∈ context.typeHeaders)
    (hothers : ∀ id, id ≠ module.id → setting.definitions? id = module.definitionsOf? id) :
  setting.TypesIn module.library
  := by
  intro entry header hheader
  unfold Setting.typeHeader? at hheader
  split at hheader
  next hown =>
    obtain ⟨⟨id, _⟩, hfind, rfl⟩ := Option.map_eq_some_iff.mp hheader
    have hid : id = entry.entity.id := by simpa using List.find?_some hfind
    have harity := h.arity_of_mem haccepted (hheaders _ (List.mem_of_find?_eq_some hfind))
    rwa [hid, ← hmodule, ← hown] at harity
  next hother =>
    obtain ⟨definitions, hd, hheader⟩ := Option.bind_eq_some_iff.mp hheader
    rw [hothers _ (hmodule ▸ hother)] at hd
    exact ⟨definitions, entry.kind, header, hd, hheader, rfl⟩

theorem Checked.typesIn_ofModule (h : Checked number context name dependencies module)
    (haccepted : Accepted module) :
  (Setting.ofModule number module.id context dependencies).TypesIn module.library
  := h.typesIn haccepted rfl (fun _ hmem => (List.mem_filter.mp hmem).1)
    fun _ => h.definitions?_eq

theorem Checked.typesIn_ofBodies (h : Checked number context name dependencies module)
    (haccepted : Accepted module) :
  (Setting.ofBodies number context dependencies module).TypesIn module.library
  := h.typesIn haccepted rfl (fun _ hmem => (List.mem_filter.mp hmem).1)
    fun id _ => h.definitions?_ofBodies id

/-- The definitions of a checked module are formed. -/
theorem Checked.formed_definitions (h : Checked number context name dependencies module)
    (haccepted : Accepted module) :
  module.definitions.Formed module.library module.id
  := by
  have htypes := h.typesIn_ofModule haccepted
  constructor
  case distinct => exact h.distinct_definitions
  case structs =>
    simp only [Module.definitions, List.forall_mem_map]
    intro struct hstruct
    obtain ⟨_, -, hp⟩ := exists_related_left h.structHeaders hstruct
    exact formed_checkStructHeader htypes hp
  case interfaces =>
    intro interface hinterface
    obtain ⟨_, -, hp⟩ := exists_related_left h.interfaces hinterface
    exact formed_checkInterface htypes hp
  case unions =>
    intro union hunion
    obtain ⟨_, -, hp⟩ := exists_related_left h.unions hunion
    exact formed_checkUnion htypes hp
  case functions =>
    simp only [Module.definitions, List.forall_mem_map]
    intro function hfunction
    obtain ⟨_, -, hp⟩ := exists_related_left h.functionHeaders hfunction
    exact (formed_checkFunctionHeader htypes hp).2

end Checked

/-- Everything that an accepted module says about ids is formed. -/
theorem Accepted.formed {module : Module} (h : Accepted module) :
  module.library.Formed
  := by
  intro id definitions hd
  unfold Module.library Module.definitionsOf? at hd
  split at hd
  next hnative =>
    cases hd
    have hid : id = nativeModule := by simpa [ModuleId.isNative] using hnative
    rw [hid]
    exact formed_nativeDefinitions (by simp [Module.definitionsOf?, ModuleId.isNative])
  next =>
    obtain ⟨other, hother, rfl⟩ := Option.map_eq_some_iff.mp hd
    obtain ⟨hreach, rfl⟩ := Module.mem_of_find? hother
    have haccepted : Accepted other := h.of_reached hreach
    obtain ⟨number, context, name, dependencies, -, hchecked⟩ := haccepted.checked
    exact (hchecked.formed_definitions haccepted).extend
      fun _ _ hd => definitionsOf?_of_mem h hreach hd

end TypedModules
