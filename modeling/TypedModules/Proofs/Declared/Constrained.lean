import TypedModules.Proofs.Declared.Grounding
import TypedModules.Proofs.Declared.Proper
import TypedModules.Proofs.Resolve.Encapsulated
import TypedModules.Proofs.Ty.Constrained

/-!
# Constrained declarations

If the types that declarations write are constrained, so are those of the signatures that they bring
along: of constructors, adapters, options and case distinctions.  What the native module declares is
constrained, as none of its types wants plain data.  Then what stands under a name in a constrained
type is constrained.
-/

namespace TypedModules

open Ty

/-- Whether the types of a signature are constrained. -/
structure Signature.Constrained (setting : Setting) (signature : Signature) : Prop where
  args : ∀ a ∈ signature.args, a.Constrained setting []
  output : signature.output.Constrained setting []

/-- Whether the types that declarations write are constrained. -/
structure Definitions.Constrained (setting : Setting) (definitions : Definitions) : Prop where
  members : ∀ s ∈ definitions.structs, ∀ m ∈ s.members, m.type.Constrained setting []
  methods : ∀ i ∈ definitions.interfaces, ∀ m ∈ i.methods,
    (∀ a ∈ m.args, a.type.Constrained setting []) ∧ m.output.Constrained setting []
  options : ∀ u ∈ definitions.unions, ∀ o ∈ u.options, ∀ type, o.type = some type →
    type.Constrained setting []
  functions : ∀ f ∈ definitions.functions, f.Constrained setting

/-- Where the given type parameters are in scope, whatever is declared. -/
def TyScope.only (typeParams : List TypeParam) : TyScope :=
  ⟨fun _ _ => True, (· ∈ typeParams)⟩

/-- Whether all that definitions say about ids is constrained. -/
structure Definitions.Tell (setting : Setting) (definitions : Definitions) : Prop where
  signatures : ∀ kind id signature, definitions.signature? kind id = some signature →
    signature.functionType.toTy.Constrained setting []
  members : ∀ s ∈ definitions.structs, ∀ m ∈ s.members,
    m.type.Formed (.only s.typeParams) 0 ∧ m.type.Constrained setting []
  adapters : ∀ i ∈ definitions.interfaces, ∀ m ∈ i.adapter.members,
    m.type.Formed (.only i.adapterParams) 0 ∧ m.type.Constrained setting []
  methods : ∀ i ∈ definitions.interfaces, ∀ m ∈ i.methods,
    m.functionType.toTy.Formed (.only i.typeParams) 0
      ∧ m.functionType.toTy.Constrained setting []

theorem Ty.Proper.only {library : Library} {typeParams : List TypeParam} {type : Ty}
    {allowed : Nat} (h : type.Proper (library.exactly typeParams) allowed) :
  type.Formed (.only typeParams) allowed
  := h.formed.mono (fun _ _ _ => trivial) (fun _ => id) (Nat.le_refl _)

/-- Among parameters with distinct names the name of one is at its position. -/
theorem getElem?_of_idxOf? {params : List TypeParam} {p : TypeParam} {index : Nat}
    (hnames : (params.map (·.name)).Nodup) (hp : p ∈ params)
    (h : (params.map (·.name)).idxOf? p.name = some index) :
  params[index]? = some p
  := by
  obtain ⟨hname, -⟩ := idxOf?_eq_some h
  rw [List.getElem?_map, Option.map_eq_some_iff] at hname
  obtain ⟨q, hq, e⟩ := hname
  rw [hq, List.inj_on_of_nodup_map hnames (List.mem_of_getElem? hq) hp e]

section Constrained

variable {setting : Setting}

/-! ### Named types -/

theorem Setting.Takes.unique (hformed : Library.Formed setting.definitions?) {entity : Entity}
    {params params' : List TypeParam} (h : setting.Takes entity params)
    (h' : setting.Takes entity params') :
  params = params'
  := by
  obtain ⟨definitions, kind, header, hd, hheader, rfl⟩ := h
  obtain ⟨definitions', kind', header', hd', hheader', rfl⟩ := h'
  obtain rfl := Option.some.inj (hd.symm.trans hd')
  obtain rfl := (hformed _ _ hd).distinct.kind_unique
    (Definitions.mem_entries_of_typeHeader? hheader)
    (Definitions.mem_entries_of_typeHeader? hheader')
  obtain rfl := Option.some.inj (hheader.symm.trans hheader')
  rfl

/-- The type of a declaration, applied to its own parameters, is constrained. -/
theorem constrained_declaredType (hformed : Library.Formed setting.definitions?)
    {isReference : Bool} {entity : Entity} {params : List TypeParam}
    (htakes : setting.Takes entity params) :
  (declaredType isReference entity.module entity.id params).Constrained setting []
  := by
  simp only [declaredType, Constrained, areConstrained_iff, List.forall_mem_map, implies_true,
    and_true]
  intro params' htakes'
  obtain rfl := htakes.unique hformed htakes'
  have hfits := (@FunctionType.mayChoose_byName setting .all (fun _ => trivial) params).fits
  rw [List.map_map] at hfits ⊢
  exact hfits

/-- What is put for the parameters of a declaration suits them if a constrained type puts it. -/
theorem suits_ofParams {scope : TyScope} {isReference : Bool} {entity : Entity}
    {written : Reference} {args : List Ty} {params : List TypeParam}
    (hnames : (params.map (·.name)).Nodup) (hlength : args.length = params.length)
    (htakes : setting.Takes entity params)
    (hformed : (Ty.named isReference entity written args).Formed scope 0)
    (h : (Ty.named isReference entity written args).Constrained setting []) {p : TypeParam} {c : Ty}
    (hp : p ∈ params) (hget : (Choices.ofParams params args).get? p.name = some c) :
  c.Formed scope 0 ∧ c.Suits setting [] p.typeClass
  := by
  simp only [Formed, areFormed_iff] at hformed
  simp only [Constrained, areConstrained_iff] at h
  rw [Choices.get?_ofParams_eq hnames hlength, Option.bind_eq_some_iff] at hget
  obtain ⟨index, hindex, hc⟩ := hget
  have hmem := List.mem_of_getElem? hc
  refine ⟨hformed.2 c hmem, h.2 c hmem, ?_⟩
  refine (h.1 params htakes).getElem? (getElem?_of_idxOf? hnames hp hindex) ?_
  rw [List.getElem?_map, hc, Option.map_some]

/-! ### Signatures -/

theorem Signature.Constrained.functionType {signature : Signature} {library library' : Library}
    (h : signature.Constrained setting) (hproper : signature.Proper library)
    (hformed : signature.Formed library') :
  signature.functionType.toTy.Constrained setting []
  := FunctionType.constrained_ofSignature
    (fun a ha => ⟨(hproper.args a ha).only, h.args a ha⟩) ⟨hproper.output.only, h.output⟩
    fun _ _ hp _ hindex => getElem?_of_idxOf? hformed.params hp hindex

/-- The function type of a method is constrained, also where parameters that want no plain data
stand before those of the interface. -/
theorem constrained_method {library : Library} {typeParams outer : List TypeParam} {args : List Ty}
    {method : Method} (hmethod : method.Formed library typeParams)
    (houter : ∀ p ∈ outer, p ∈ typeParams ∨ p.typeClass = none)
    (hargs : ∀ a ∈ args,
      a.Formed (.only (outer ++ method.typeParams)) 0 ∧ a.Constrained setting [])
    (houtput : method.output.Formed (.only (outer ++ method.typeParams)) 0
      ∧ method.output.Constrained setting []) :
  (FunctionType.ofSignature method.typeParams args method.output).toTy.Constrained setting []
  := by
  refine FunctionType.constrained_ofSignature hargs houtput fun p index hp hdata hindex => ?_
  have hnames := hmethod.params
  rw [List.map_append, List.nodup_append] at hnames
  obtain ⟨-, hown, hapart⟩ := hnames
  obtain hp | hp := List.mem_append.mp hp
  · obtain hp | hplain := houter p hp
    · -- a parameter of the interface has another name than those of the method
      have hname := List.mem_of_getElem? (idxOf?_eq_some hindex).1
      exact absurd rfl (hapart _ (List.mem_map_of_mem hp) _ hname)
    · rw [hplain] at hdata
      cases hdata
  · exact getElem?_of_idxOf? hown hp hindex

namespace Definitions.Constrained

variable {definitions : Definitions} {library : Library} {module : ModuleId}
  (h : definitions.Constrained setting) (hproper : definitions.Proper library)
  (hformed : Library.Formed setting.definitions?)
  (hd : setting.definitions? module = some definitions)

include h hproper hformed hd

theorem method {interface : Interface} (hinterface : interface ∈ definitions.interfaces)
    {method : Method} (hmethod : method ∈ interface.methods) :
  method.functionType.toTy.Formed (.only interface.typeParams) 0
    ∧ method.functionType.toTy.Constrained setting []
  := by
  obtain ⟨hargs, houtput⟩ := h.methods interface hinterface method hmethod
  obtain ⟨hproperArgs, hproperOutput⟩ := hproper.methods interface hinterface method hmethod
  have hm := (((hformed _ _ hd).interfaces interface hinterface).2).methods method hmethod
  constructor
  · have hargs : ∀ a ∈ method.args.map (·.type),
        a.Formed (.only (interface.typeParams ++ method.typeParams)) 0 :=
      List.forall_mem_map.mpr fun a ha => (hproperArgs a ha).only
    refine FunctionType.formed_ofSignature hargs hproperOutput.only (fun _ _ _ => trivial) ?_
    exact fun p hp => (List.mem_append.mp hp).symm.imp List.mem_map_of_mem id
  · exact constrained_method hm (fun p hp => .inl hp)
      (List.forall_mem_map.mpr fun a ha => ⟨(hproperArgs a ha).only, hargs a ha⟩)
      ⟨hproperOutput.only, houtput⟩

theorem adapterMember {interface : Interface} (hinterface : interface ∈ definitions.interfaces)
    {member : Argument} (hmember : member ∈ interface.adapter.members) :
  member.type.Formed (.only interface.adapterParams) 0 ∧ member.type.Constrained setting []
  := by
  refine ⟨(hproper.adapterMember hinterface member hmember).proper.only, ?_⟩
  obtain ⟨method, hmethod, rfl⟩ := List.mem_map.mp hmember
  obtain ⟨hargs, houtput⟩ := h.methods interface hinterface method hmethod
  obtain ⟨hproperArgs, hproperOutput⟩ := hproper.methods interface hinterface method hmethod
  have hm := (((hformed _ _ hd).interfaces interface hinterface).2).methods method hmethod
  have hsub : interface.typeParams ++ method.typeParams
      ⊆ interface.adapterParams ++ method.typeParams := List.subset_cons_self _ _
  refine constrained_method hm ?_ ?_ ⟨(hproperOutput.extend hsub).only, houtput⟩
  · exact fun p hp => (List.mem_cons.mp hp).symm.imp id fun e => congrArg TypeParam.typeClass e
  · rw [List.forall_mem_cons, List.forall_mem_map]
    exact ⟨⟨List.mem_append_left _ List.mem_cons_self, trivial⟩,
      fun a ha => ⟨((hproperArgs a ha).extend hsub).only, hargs a ha⟩⟩

/-- Everything callable has a constrained signature. -/
theorem signature {kind : EntityKind} {id : EntityId} {signature : Signature}
    (hsignature : definitions.signature? kind id = some signature) :
  signature.Constrained setting
  := by
  have hdistinct := (hformed _ _ hd).distinct
  have htakes : ∀ (kind : EntityKind) {id : EntityId} {header : TypeHeader},
      definitions.typeHeader? kind id = some header →
      setting.Takes ⟨module, id⟩ header.typeParams :=
    fun kind _ header hheader => ⟨definitions, kind, header, hd, hheader, rfl⟩
  have hconstructor : ∀ {header : StructHeader},
      setting.Takes header.entity header.typeParams →
      (∀ m ∈ header.members, m.type.Constrained setting []) →
      header.constructor.Constrained setting := by
    intro header htakes hmembers
    have htype : header.type.Constrained setting [] := constrained_declaredType hformed htakes
    refine ⟨by simpa [StructHeader.constructor] using hmembers, ?_⟩
    simp only [StructHeader.constructor]
    split <;> exact htype
  have hadapter : ∀ i ∈ definitions.interfaces,
      setting.Takes i.adapterEntity i.adapterParams := by
    intro i hmem
    rw [Interface.adapterEntity, ((hformed _ _ hd).interfaces i hmem).1]
    exact htakes .adapter (by rw [typeHeader?, hdistinct.adapterOwner?_of_mem hmem]; rfl)
  have hunion : ∀ u ∈ definitions.unions, u.type.Constrained setting [] := by
    intro u hmem
    refine @constrained_declaredType _ hformed _ u.entity _ ?_
    rw [Union.entity, ((hformed _ _ hd).unions u hmem).1]
    exact htakes .union (by rw [typeHeader?, hdistinct.union?_of_mem hmem]; rfl)
  cases brings_of_signature? hsignature with
  | native hmem | function hmem => exact h.functions _ hmem
  | @struct s hmem =>
    refine hconstructor ?_ (h.members s hmem)
    rw [StructHeader.entity, ((hformed _ _ hd).structs s hmem).1]
    exact htakes .struct (by rw [typeHeader?, hdistinct.struct?_of_mem hmem]; rfl)
  | @interface i hmem =>
    have hinterface : setting.Takes i.entity i.typeParams := by
      rw [Interface.entity, ((hformed _ _ hd).interfaces i hmem).1]
      exact htakes .interface (by rw [typeHeader?, hdistinct.interface?_of_mem hmem]; rfl)
    constructor
    · simp only [Interface.instanceConstructor, List.forall_mem_cons, List.not_mem_nil,
        false_imp_iff, implies_true, and_true]
      exact ⟨trivial, constrained_declaredType hformed (hadapter i hmem)⟩
    · exact constrained_declaredType hformed hinterface
  | @adapter i hmem =>
    exact hconstructor (hadapter i hmem) fun m hm =>
      (h.adapterMember hproper hformed hd hmem hm).2
  | @option u o hmem hoption =>
    constructor
    · simp only [Union.optionConstructor, Option.mem_toList]
      exact h.options u hmem o hoption
    · exact hunion u hmem
  | @when u hmem =>
    refine ⟨?_, trivial⟩
    simp only [Union.whenSignature, List.forall_mem_cons, List.forall_mem_map]
    refine ⟨hunion u hmem, fun o ho => ?_⟩
    simp only [Union.handlerType, Ty.Constrained, areConstrained_iff, Option.mem_toList]
    exact ⟨h.options u hmem o ho, trivial⟩

end Definitions.Constrained

/-- Definitions that write constrained types tell of constrained types only. -/
theorem Definitions.Constrained.tell {definitions : Definitions} {library : Library}
    {module : ModuleId} (h : definitions.Constrained setting) (hproper : definitions.Proper library)
    (hformed : Library.Formed setting.definitions?)
    (hd : setting.definitions? module = some definitions)
    (hsignatures : ∀ kind id signature, definitions.signature? kind id = some signature →
      signature.Proper library) :
  definitions.Tell setting
  := by
  constructor
  case signatures =>
    intro kind id signature hsignature
    exact (h.signature hproper hformed hd hsignature).functionType (hsignatures _ _ _ hsignature)
      ((hformed _ _ hd).signature hd hsignature)
  case members =>
    exact fun s hs m hm => ⟨(hproper.members s hs m hm).proper.only, h.members s hs m hm⟩
  case adapters => exact fun i hi m hm => h.adapterMember hproper hformed hd hi hm
  case methods => exact fun i hi m hm => h.method hproper hformed hd hi hm

/-! ### The native module -/

/-- No named type of the native module wants plain data. -/
theorem plain_of_typeHeader? {kind : EntityKind} {id : EntityId} {header : TypeHeader}
    (h : nativeDefinitions.typeHeader? kind id = some header) :
  ∀ p ∈ header.typeParams, p.typeClass = none
  := by
  cases Definitions.hasType_of_typeHeader? h with
  | struct hmem =>
    obtain rfl := List.mem_singleton.mp hmem
    decide
  | interface hmem | adapter hmem | union hmem => exact absurd hmem List.not_mem_nil
  | opaqueType hmem =>
    have hall : ∀ type ∈ nativeDefinitions.opaques, ∀ p ∈ type.typeParams, p.typeClass = none := by
      decide
    exact hall _ hmem

/-- A type that names native types only is constrained. -/
theorem constrained_of_native (hnative : setting.definitions? nativeModule = some nativeDefinitions)
    {type : Ty} (h : ∀ entity ∈ type.entities, entity.module = nativeModule)
    (outer : List TypeParam) :
  type.Constrained setting outer
  := by
  have hall : ∀ types : List Ty, entitiesOfAll types = types.flatMap entities := by
    intro types
    induction types with
    | nil => rfl
    | cons type rest ih => rw [entitiesOfAll, ih, List.flatMap_cons]
  induction type using type_induction generalizing outer with
  | integer | natural | boolean | param | internal => trivial
  | list element ih | tryOf element ih => exact ih h outer
  | function isReference typeParams args output ihArgs ihOutput =>
    simp only [entities, hall, List.forall_mem_append, List.mem_flatMap] at h
    simp only [Constrained, areConstrained_iff]
    exact ⟨fun arg harg => ihArgs arg harg (fun e he => h.1 e ⟨arg, harg, he⟩) _, ihOutput h.2 _⟩
  | named isReference entity written args ih =>
    simp only [entities, hall, List.forall_mem_cons, List.mem_flatMap] at h
    simp only [Constrained, areConstrained_iff]
    refine ⟨?_, fun arg harg => ih arg harg (fun e he => h.2 e ⟨arg, harg, he⟩) _⟩
    rintro _ ⟨definitions, kind, header, hd, hheader, rfl⟩ choice hchoice type _ hdata
    rw [h.1, hnative, Option.some.injEq] at hd
    subst hd
    rw [plain_of_typeHeader? hheader _ (List.of_mem_zip hchoice).1] at hdata
    cases hdata

/-- What the native module tells of is constrained. -/
theorem tell_nativeDefinitions
    (hnative : setting.definitions? nativeModule = some nativeDefinitions) :
  nativeDefinitions.Tell setting
  := by
  constructor
  case signatures =>
    intro kind id signature hsignature
    have hfunctions : ∀ f ∈ nativeDefinitions.functions,
        ∀ entity ∈ f.functionType.toTy.entities, entity.module = nativeModule := by decide
    have hsequence : ∀ entity ∈ Native.sequence.constructor.functionType.toTy.entities,
        entity.module = nativeModule := by decide
    obtain hmem | rfl := cases_signature_native hsignature
    · exact constrained_of_native hnative (hfunctions signature hmem) []
    · exact constrained_of_native hnative hsequence []
  case members =>
    have hmembers : ∀ m ∈ Native.sequence.members,
        ∀ entity ∈ m.type.entities, entity.module = nativeModule := by decide
    have hformed : ∀ m ∈ Native.sequence.members,
        m.type.Formed (.only Native.sequence.typeParams) 0 := by
      simp [Native.sequence, Native.tyT, Native.arrow, Ty.Formed, TyScope.only]
    exact List.forall_mem_singleton.mpr fun m hm =>
      ⟨hformed m hm, constrained_of_native hnative (hmembers m hm) []⟩
  case adapters => exact List.forall_mem_nil _
  case methods => exact List.forall_mem_nil _

/-! ### Members -/

/-- What stands under a name in a constrained type is constrained. -/
theorem Library.HasMember.constrained (hformed : Library.Formed setting.definitions?)
    (htell : ∀ id definitions, setting.definitions? id = some definitions →
      definitions.Tell setting)
    {scope : TyScope} {receiver type : Ty} {name : String}
    (hmember : Library.HasMember setting.definitions? receiver name type)
    (harity : ∀ entity n, scope.arity entity n → Library.Arity setting.definitions? entity n)
    (hreceiver : receiver.Formed scope 0) (h : receiver.Constrained setting []) :
  type.Constrained setting []
  := by
  have hfound := hmember
  obtain ⟨isReference, entity, written, args, _, rfl, -, -⟩ := hmember
  have hargs : Library.Arity setting.definitions? entity args.length := harity _ _ hreceiver.1
  have hsubstitute : ∀ {params : List TypeParam} {declared : Ty},
      (params.map (·.name)).Nodup → setting.Takes entity params →
      Library.Arity setting.definitions? entity params.length →
      declared.Formed (.only params) 0 ∧ declared.Constrained setting [] →
      (declared.substitute (.ofParams params args)).Constrained setting [] := by
    intro params declared hnames htakes hcount hdeclared
    have hput : ∀ p c, (TyScope.only params).allows p →
        (Choices.ofParams params args).get? p.name = some c →
        c.Formed scope 0 ∧ c.Suits setting [] p.typeClass := fun p c hp hget =>
      suits_ofParams hnames (hargs.unique hformed hcount) htakes hreceiver h hp hget
    exact hdeclared.2.substitute hdeclared.1 hput
  obtain ⟨header, hshape, htype⟩ | ⟨interface, hinterface, htype⟩ := hfound.cases
  · obtain ⟨m, hm, rfl⟩ := Option.map_eq_some_iff.mp htype
    have hm := List.mem_of_find?_eq_some hm
    obtain ⟨hheader, hcount⟩ := Library.formed_shape? hformed hshape
    obtain ⟨definitions, hd, hstruct | ⟨interface, howner, rfl⟩⟩ := Library.exists_of_shape? hshape
    · refine hsubstitute hheader.params ?_ hcount ?_
      · exact ⟨definitions, .struct, ⟨header.typeParams, false⟩, hd,
          by rw [Definitions.typeHeader?, hstruct]; rfl, rfl⟩
      · exact (htell _ _ hd).members header (Definitions.struct?_eq_some hstruct).1 m hm
    · refine hsubstitute hheader.params ?_ hcount ?_
      · exact ⟨definitions, .adapter, ⟨interface.adapterParams, false⟩, hd,
          by rw [Definitions.typeHeader?, howner]; rfl, rfl⟩
      · exact (htell _ _ hd).adapters interface (Definitions.adapterOwner?_eq_some howner).1 m hm
  · obtain ⟨m, hm, rfl⟩ := Option.map_eq_some_iff.mp htype
    obtain ⟨hheader, hcount⟩ := Library.formed_interface? hformed hinterface
    obtain ⟨definitions, hd, hinterface⟩ := Option.bind_eq_some_iff.mp hinterface
    refine hsubstitute hheader.params ?_ hcount ?_
    · exact ⟨definitions, .interface, ⟨interface.typeParams, false⟩, hd,
        by rw [Definitions.typeHeader?, hinterface]; rfl, rfl⟩
    · exact (htell _ _ hd).methods interface (Definitions.interface?_eq_some hinterface).1 m
        (List.mem_of_find?_eq_some hm)

end Constrained

end TypedModules
