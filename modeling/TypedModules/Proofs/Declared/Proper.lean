import TypedModules.Proofs.Declared.Accepted
import TypedModules.Proofs.Declared.Shapes

/-!
# Proper declarations

The types that a declaration of an accepted module writes are proper where its own type parameters
are in scope, and neither the members of structs nor the values of options are references.  So
are the types of the signatures that it brings along: those of constructors, adapters, options and
case distinctions.  What the native module declares is clean, so that an accepted module sees
clean signatures only, and what stands under a name in a clean type is clean.
-/

namespace TypedModules

open Check Ty

/-- Whether the types of a signature are clean. -/
structure Signature.Clean (signature : Signature) : Prop where
  args : ∀ a ∈ signature.args, a.Clean
  output : signature.output.Clean

/-- Whether everything that definitions say about ids is clean. -/
structure Definitions.Clean (definitions : Definitions) : Prop where
  signatures : ∀ kind id signature, definitions.signature? kind id = some signature →
    signature.Clean
  methods : ∀ i ∈ definitions.interfaces, ∀ m ∈ i.methods,
    (∀ a ∈ m.args, a.type.Clean) ∧ m.output.Clean

/-- Whether everything that a library says about ids is clean. -/
def Library.Clean (library : Library) : Prop :=
  ∀ id definitions, library id = some definitions → definitions.Clean

/-- Whether the types of a signature are proper where its type parameters are in scope. -/
structure Signature.Proper (library : Library) (signature : Signature) : Prop where
  args : ∀ a ∈ signature.args, a.Proper (library.exactly signature.typeParams) 0
  output : signature.output.Proper (library.exactly signature.typeParams) 0

/-- Whether the types that declarations write are proper where the type parameters of the
declaration are in scope, those of a method together with those of its interface. -/
structure Definitions.Proper (library : Library) (definitions : Definitions) : Prop where
  members : ∀ s ∈ definitions.structs, ∀ m ∈ s.members,
    m.type.Choosable (library.exactly s.typeParams)
  methods : ∀ i ∈ definitions.interfaces, ∀ m ∈ i.methods,
    (∀ a ∈ m.args, a.type.Proper (library.exactly (i.typeParams ++ m.typeParams)) 0)
      ∧ m.output.Proper (library.exactly (i.typeParams ++ m.typeParams)) 0
  options : ∀ u ∈ definitions.unions, ∀ o ∈ u.options, ∀ type, o.type = some type →
    type.Choosable (library.exactly u.typeParams)
  functions : ∀ f ∈ definitions.functions, f.Proper library

/-! ### Signatures -/

section Signatures

variable {library : Library}

theorem Ty.Proper.extend {type : Ty} {typeParams more : List TypeParam} {allowed : Nat}
    (h : type.Proper (library.exactly typeParams) allowed) (hsub : typeParams ⊆ more) :
  type.Proper (library.exactly more) allowed
  := h.widen (fun _ _ => id) fun _ hp => hsub hp

theorem proper_declaredType {isReference : Bool} {entity : Entity}
    {typeParams more : List TypeParam} (harity : library.Arity entity typeParams.length)
    (hsub : typeParams ⊆ more) :
  (declaredType isReference entity.module entity.id typeParams).Proper (library.exactly more) 0
  := by
  simp only [declaredType, proper_named, List.length_map, List.forall_mem_map, proper_param]
  exact ⟨harity, fun p hp => ⟨rfl, hsub hp⟩⟩

theorem proper_constructor {header : StructHeader}
    (harity : library.Arity header.entity header.typeParams.length)
    (hmembers : ∀ m ∈ header.members, m.type.Proper (library.exactly header.typeParams) 0) :
  header.constructor.Proper library
  := by
  have htype : header.type.Proper (library.exactly header.typeParams) 0 :=
    proper_declaredType harity (List.Subset.refl _)
  constructor
  case args => simpa [StructHeader.constructor] using hmembers
  case output =>
    simp only [StructHeader.constructor]
    split
    · exact proper_tryOf.mpr ⟨rfl, htype⟩
    · exact htype

namespace Definitions.Proper

variable {definitions : Definitions} (h : definitions.Proper library)

include h

/-- What an adapter holds is proper where the type parameter of the data is in scope. -/
theorem adapterMember {interface : Interface} (hmem : interface ∈ definitions.interfaces) :
  ∀ m ∈ interface.adapter.members, m.type.Choosable (library.exactly interface.adapterParams)
  := by
  simp only [Interface.adapter, List.forall_mem_map]
  intro method hmethod
  obtain ⟨hargs, houtput⟩ := h.methods interface hmem method hmethod
  have hsub : interface.typeParams ++ method.typeParams
      ⊆ interface.adapterParams ++ method.typeParams := List.subset_cons_self _ _
  have hargs : ∀ a ∈ Ty.param interface.dataParam :: method.args.map (·.type),
      a.Proper (library.exactly (interface.adapterParams ++ method.typeParams)) 0 := by
    rw [List.forall_mem_cons, List.forall_mem_map]
    exact ⟨proper_param.mpr (List.mem_append_left _ List.mem_cons_self),
      fun a ha => (hargs a ha).extend hsub⟩
  refine ⟨FunctionType.proper_ofSignature hargs (houtput.extend hsub) (fun _ _ => id) ?_, rfl⟩
  intro p hp
  exact (List.mem_append.mp hp).symm.imp List.mem_map_of_mem id

theorem handlerType {union : Union} (hmem : union ∈ definitions.unions) {option : UnionOption}
    (hoption : option ∈ union.options) :
  (union.handlerType option).Proper
    (library.exactly (union.typeParams ++ [union.resultParam])) 0
  := by
  simp only [Union.handlerType, proper_function, Option.mem_toList, List.length_nil, Nat.add_zero]
  constructor
  · intro type htype
    exact (h.options union hmem option hoption type htype).proper.extend
      (List.subset_append_left _ _)
  · exact proper_param.mpr (List.mem_append_right _ List.mem_cons_self)

variable {module : ModuleId} (hformed : definitions.Formed library module)
  (hd : library module = some definitions)

include hformed hd

/-- Everything callable has a proper signature. -/
theorem signature {kind : EntityKind} {id : EntityId} {signature : Signature}
    (hsignature : definitions.signature? kind id = some signature) :
  signature.Proper library
  := by
  cases brings_of_signature? hsignature with
  | native hmem | function hmem => exact h.functions _ hmem
  | struct hmem =>
    exact proper_constructor (hformed.arity_struct hd hmem)
      fun m hm => (h.members _ hmem m hm).proper
  | interface hmem =>
    constructor
    · simp only [Interface.instanceConstructor, List.forall_mem_cons, List.not_mem_nil,
        false_imp_iff, implies_true, and_true]
      exact ⟨proper_param.mpr List.mem_cons_self,
        proper_declaredType (hformed.arity_adapter hd hmem) (List.Subset.refl _)⟩
    · exact proper_declaredType (hformed.arity_interface hd hmem) (List.subset_cons_self _ _)
  | adapter hmem =>
    exact proper_constructor (hformed.arity_adapter hd hmem)
      fun m hm => (h.adapterMember hmem m hm).proper
  | option hmem hoption =>
    constructor
    · simp only [Union.optionConstructor, Option.mem_toList]
      exact fun type htype => (h.options _ hmem _ hoption type htype).proper
    · exact proper_declaredType (hformed.arity_union hd hmem) (List.Subset.refl _)
  | when hmem =>
    constructor
    · simp only [Union.whenSignature, List.forall_mem_cons, List.forall_mem_map]
      exact ⟨proper_declaredType (hformed.arity_union hd hmem) (List.subset_append_left _ _),
        fun option hoption => h.handlerType hmem hoption⟩
    · exact proper_param.mpr (List.mem_append_right _ List.mem_cons_self)

theorem clean :
  definitions.Clean
  := by
  constructor
  · intro kind id signature hsignature
    obtain ⟨hargs, houtput⟩ := h.signature hformed hd hsignature
    exact ⟨fun a ha => (hargs a ha).clean, houtput.clean⟩
  · intro i hi m hm
    obtain ⟨hargs, houtput⟩ := h.methods i hi m hm
    exact ⟨fun a ha => (hargs a ha).clean, houtput.clean⟩

end Definitions.Proper

end Signatures

/-- What the native module declares is clean. -/
theorem clean_nativeDefinitions :
  nativeDefinitions.Clean
  := by
  constructor
  case methods => exact List.forall_mem_nil _
  case signatures =>
    intro kind id signature hsignature
    obtain hmem | rfl := cases_signature_native hsignature
    · obtain ⟨function, -, rfl⟩ := List.mem_map.mp hmem
      constructor <;> cases function <;>
        simp [NativeFunction.signature, NativeFunction.declaration, Native.tyT, Native.tyU,
          Native.arrow, Native.sequence, Native.listBuilder, Native.string, StructHeader.type,
          Opaque.type, declaredType, Ty.Clean, Ty.isReference]
    · constructor <;>
        simp [StructHeader.constructor, Native.sequence, Native.tyT, Native.arrow,
          StructHeader.type, declaredType, Ty.Clean, Ty.isReference]

/-! ### What is seen of declarations -/

namespace Library

variable {library : Library} (hformed : library.Formed) (hclean : library.Clean)

include hclean

/-- What stands under a name in a clean type is clean. -/
theorem HasMember.clean {receiver type : Ty} {name : String}
    (hmember : library.HasMember receiver name type) (hreceiver : receiver.Clean) :
  type.Clean
  := by
  have hfound := hmember
  obtain ⟨isReference, entity, written, args, _, rfl, -, -⟩ := hmember
  simp only [Ty.Clean, areClean_iff] at hreceiver
  -- whatever is put for a parameter of the declaration is an argument of the receiver's type
  have hsubstitute : ∀ {params : List TypeParam} {declared : Ty}, declared.Clean →
      (declared.substitute (.ofParams params args)).Clean := by
    intro params declared hdeclared
    have harg : ∀ name c, (Choices.ofParams params args).get? name = some c → c ∈ args := by
      intro name c hc
      obtain ⟨⟨_, _⟩, hfound, rfl⟩ := Option.map_eq_some_iff.mp hc
      exact (List.of_mem_zip (List.mem_reverse.mp (List.mem_of_find?_eq_some hfound))).2
    exact hdeclared.substitute (fun name c hc => hreceiver.2 c (harg name c hc))
      fun name c hc => hreceiver.1 c (harg name c hc)
  obtain ⟨header, hshape, htype⟩ | ⟨interface, hinterface, htype⟩ := hfound.cases
  · obtain ⟨m, hm, rfl⟩ := Option.map_eq_some_iff.mp htype
    have hconstructor : header.constructor.Clean := by
      obtain ⟨definitions, hd, hstruct | ⟨interface, howner, rfl⟩⟩ := exists_of_shape? hshape
      · exact (hclean _ _ hd).signatures .struct _ _ (by rw [Definitions.signature?, hstruct]; rfl)
      · exact (hclean _ _ hd).signatures .adapter _ _ (by rw [Definitions.signature?, howner]; rfl)
    exact hsubstitute (hconstructor.args _ (List.mem_map_of_mem (List.mem_of_find?_eq_some hm)))
  · obtain ⟨m, hm, rfl⟩ := Option.map_eq_some_iff.mp htype
    obtain ⟨definitions, hd, hinterface⟩ := Option.bind_eq_some_iff.mp hinterface
    obtain ⟨hargs, houtput⟩ := (hclean _ _ hd).methods interface
      (Definitions.interface?_eq_some hinterface).1 m (List.mem_of_find?_eq_some hm)
    exact hsubstitute (FunctionType.clean_ofSignature (List.forall_mem_map.mpr hargs) houtput)

include hformed

/-- What stands under a name in a proper type is proper. -/
theorem HasMember.proper {receiver type : Ty} {name : String} {typeParams : List TypeParam}
    (hmember : library.HasMember receiver name type)
    (hreceiver : receiver.Proper (library.exactly typeParams) 0) :
  type.Proper (library.exactly typeParams) 0
  := by
  refine ⟨?_, hmember.clean hclean hreceiver.clean⟩
  obtain ⟨isReference, entity, written, args, definitions, rfl, hd, hmember⟩ := hmember
  obtain ⟨harity, hargs⟩ := proper_named.mp hreceiver
  exact (hformed _ _ hd).memberType hd harity (fun _ _ => id) (fun a ha => (hargs a ha).2.formed)
    hmember

/-- The function that a signature describes has a proper type, wherever it is used. -/
theorem proper_functionType {entry : Visible} {signature : Signature}
    (hsignature : library.signature? entry = some signature) (typeParams : List TypeParam) :
  signature.functionType.toTy.Proper (library.exactly typeParams) 0
  := by
  obtain ⟨definitions, hd, hsignature⟩ := Option.bind_eq_some_iff.mp hsignature
  obtain ⟨hargs, houtput⟩ := (hclean _ _ hd).signatures _ _ _ hsignature
  have hfunction := ((hformed _ _ hd).signature hd hsignature).functionType
  exact ⟨hfunction.mono (fun _ _ => id) (fun _ => False.elim) (Nat.le_refl _),
    FunctionType.clean_ofSignature hargs houtput⟩

end Library

/-! ### Headers -/

section Headers

variable {setting : Setting} {library : Library} (h : setting.TypesIn library)

include h

theorem proper_checkStructHeader {declared : SourceStruct} {header : StructHeader}
    (hp : (checkStructHeader setting declared).Passes header) :
  ∀ m ∈ header.members, m.type.Choosable (library.exactly header.typeParams)
  := by
  obtain ⟨-, -, members, hmembers, rfl⟩ := passes_checkStructHeader.mp hp
  intro m hm
  obtain ⟨_, -, ⟨htype, hvalue⟩, -⟩ := exists_related_left hmembers hm
  exact ⟨proper_checkTy (h.within declared.typeParams) htype, hvalue⟩

theorem proper_checkInterface {declared : SourceInterface} {interface : Interface}
    (hp : (checkInterface setting declared).Passes interface) :
  ∀ m ∈ interface.methods,
    (∀ a ∈ m.args, a.type.Proper (library.exactly (interface.typeParams ++ m.typeParams)) 0)
      ∧ m.output.Proper (library.exactly (interface.typeParams ++ m.typeParams)) 0
  := by
  obtain ⟨-, -, methods, hmethods, rfl⟩ := passes_checkInterface.mp hp
  intro m hm
  obtain ⟨_, -, hmethod⟩ := exists_related_left hmethods hm
  obtain ⟨-, -, args, output, hargs, houtput, rfl⟩ := passes_checkMethod.mp hmethod
  refine ⟨fun a ha => ?_, proper_checkTy (h.within _) houtput⟩
  obtain ⟨_, -, htype, -⟩ := exists_related_left hargs ha
  exact proper_checkTy (h.within _) htype

theorem proper_checkUnion {declared : SourceUnion} {union : Union}
    (hp : (checkUnion setting declared).Passes union) :
  ∀ o ∈ union.options, ∀ type, o.type = some type →
    type.Choosable (library.exactly union.typeParams)
  := by
  obtain ⟨-, -, -, options, hoptions, rfl⟩ := passes_checkUnion.mp hp
  intro o ho type htype
  obtain ⟨⟨_, written, _⟩, -, hpasses⟩ := exists_related_left hoptions ho
  obtain ⟨-, hrel, -⟩ := passes_checkOption.mp hpasses
  simp only [htype] at hrel
  obtain ⟨hpasses, hvalue⟩ := hrel
  exact ⟨proper_checkTy (h.within declared.typeParams) hpasses, hvalue⟩

theorem proper_checkFunctionHeader {declared : SourceFunction} {header : FunctionHeader}
    (hp : (checkFunctionHeader setting declared).Passes header) :
  header.signature.Proper library
  := by
  obtain ⟨-, -, args, hargs, output, houtput, rfl⟩ := passes_checkFunctionHeader.mp hp
  refine ⟨?_, proper_checkTy (h.within declared.typeParams) houtput⟩
  simp only [FunctionHeader.signature, List.forall_mem_map]
  intro a ha
  obtain ⟨_, -, htype, -⟩ := exists_related_left hargs ha
  exact proper_checkTy (h.within declared.typeParams) htype

end Headers

/-! ### Accepted modules -/

theorem Checked.proper_definitions {number : Nat} {context : Context} {name : ModuleName}
    {dependencies : List Module} {module : Module}
    (h : Checked number context name dependencies module) (haccepted : Accepted module) :
  module.definitions.Proper module.library
  := by
  have htypes := h.typesIn_ofModule haccepted
  constructor
  case members =>
    simp only [Module.definitions, List.forall_mem_map]
    intro struct hstruct
    obtain ⟨_, -, hp⟩ := exists_related_left h.structHeaders hstruct
    exact proper_checkStructHeader htypes hp
  case methods =>
    intro interface hinterface
    obtain ⟨_, -, hp⟩ := exists_related_left h.interfaces hinterface
    exact proper_checkInterface htypes hp
  case options =>
    intro union hunion
    obtain ⟨_, -, hp⟩ := exists_related_left h.unions hunion
    exact proper_checkUnion htypes hp
  case functions =>
    simp only [Module.definitions, List.forall_mem_map]
    intro function hfunction
    obtain ⟨_, -, hp⟩ := exists_related_left h.functionHeaders hfunction
    exact proper_checkFunctionHeader htypes hp

namespace Accepted

variable {module : Module} (h : Accepted module)

include h

theorem proper_definitions :
  module.definitions.Proper module.library
  := by
  obtain ⟨number, context, name, dependencies, -, hchecked⟩ := h.checked
  exact hchecked.proper_definitions h

/-- Everything callable that an accepted module declares has a proper signature. -/
theorem proper_signature {kind : EntityKind} {id : EntityId} {signature : Signature}
    (hsignature : module.definitions.signature? kind id = some signature) :
  signature.Proper module.library
  := by
  have hd := definitionsOf?_self h.not_native
  exact h.proper_definitions.signature (h.formed _ _ hd) hd hsignature

/-- Everything that an accepted module says about ids is clean. -/
theorem clean :
  module.library.Clean
  := by
  intro id definitions hd
  unfold Module.library Module.definitionsOf? at hd
  split at hd
  · cases hd
    exact clean_nativeDefinitions
  · obtain ⟨other, hother, rfl⟩ := Option.map_eq_some_iff.mp hd
    have haccepted : Accepted other := h.find? hother
    have hd := definitionsOf?_self haccepted.not_native
    exact haccepted.proper_definitions.clean (haccepted.formed _ _ hd) hd

end Accepted

end TypedModules
