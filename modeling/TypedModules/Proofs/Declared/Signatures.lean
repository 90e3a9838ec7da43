import TypedModules.Check.Member
import TypedModules.Proofs.Declared.Formed

/-!
# Formed signatures

What definitions say about an id is formed where the definitions are: the type of a
declaration, the adapter of an interface, the signature of anything callable, and the type of
what stands under a name.
-/

namespace TypedModules

open Ty

/-! ### Replacing the parameters of a declaration -/

/-- Every parameter of a declaration has an argument. -/
theorem Choices.get?_ofParams {params : List TypeParam} {args : List Ty}
    (hlength : args.length = params.length) {name : String}
    (hname : name ∈ params.map (·.name)) :
  ∃ arg ∈ args, (Choices.ofParams params args).get? name = some arg
  := by
  have hsome : ((Choices.ofParams params args).reverse.find? (·.1 == name)).isSome := by
    rw [List.find?_isSome]
    obtain ⟨param, hparam, rfl⟩ := List.mem_map.mp hname
    obtain ⟨i, hi, rfl⟩ := List.mem_iff_getElem.mp hparam
    refine ⟨(params[i].name, args[i]), ?_, by simp⟩
    rw [List.mem_reverse, List.mem_iff_getElem]
    exact ⟨i, by simp [Choices.ofParams, hlength, hi], by simp [Choices.ofParams]⟩
  obtain ⟨⟨name, arg⟩, hfound⟩ := Option.isSome_iff_exists.mp hsome
  have hmem := List.mem_reverse.mp (List.mem_of_find?_eq_some hfound)
  exact ⟨arg, (List.of_mem_zip hmem).2, by rw [Choices.get?, hfound, Option.map_some]⟩

/-- With formed arguments for the parameters of a declaration, its types are formed. -/
theorem formed_substitute_ofParams {library : Library} {scope : TyScope}
    {typeParams : List TypeParam} {args : List Ty} {type : Ty} {allowed : Nat}
    (htype : type.Formed (library.scopeOf typeParams) allowed)
    (harity : ∀ entity n, library.Arity entity n → scope.arity entity n)
    (hlength : args.length = typeParams.length) (hargs : ∀ a ∈ args, a.Formed scope 0) :
  (type.substitute (.ofParams typeParams args)).Formed scope allowed
  := by
  apply htype.substitute harity
  intro p hp
  obtain ⟨arg, harg, e⟩ := Choices.get?_ofParams hlength hp
  rw [e, Option.getD_some]
  exact hargs arg harg

section Formed

variable {library : Library}

theorem formed_param {typeParams : List TypeParam} {p : TypeParam} {allowed : Nat}
    (h : p ∈ typeParams) :
  (Ty.param p).Formed (library.scopeOf typeParams) allowed
  := List.mem_map_of_mem h

theorem allows_append {a b : List TypeParam} {p : TypeParam}
    (h : (library.scopeOf (a ++ b)).allows p) :
  p.name ∈ b.map (·.name) ∨ (library.scopeOf a).allows p
  := by
  rw [Library.scopeOf, List.map_append] at h
  exact (List.mem_append.mp h).symm

theorem formed_declaredType {isReference : Bool} {entity : Entity}
    {typeParams more : List TypeParam} (harity : library.Arity entity typeParams.length)
    (hsub : typeParams ⊆ more) :
  (declaredType isReference entity.module entity.id typeParams).Formed (library.scopeOf more) 0
  := by
  simp only [declaredType, Ty.Formed, areFormed_iff, List.length_map, List.forall_mem_map]
  exact ⟨harity, fun p hp => List.map_subset _ hsub (List.mem_map_of_mem hp)⟩

/-- A signature whose types are formed makes a function type that leaves nothing open. -/
theorem Signature.Formed.functionType {signature : Signature} (h : signature.Formed library) :
  signature.functionType.toTy.Formed library.closedScope 0
  := by
  apply FunctionType.formed_ofSignature h.args h.output
  · exact fun _ _ h => h
  · exact fun p hp => .inl hp

theorem Method.Formed.functionType {typeParams : List TypeParam} {method : Method}
    (h : method.Formed library typeParams) :
  method.functionType.toTy.Formed (library.scopeOf typeParams) 0
  := by
  have hargs : ∀ a ∈ method.args.map (·.type),
      a.Formed (library.scopeOf (typeParams ++ method.typeParams)) 0 := by
    simpa using h.args
  apply FunctionType.formed_ofSignature hargs h.output
  · exact fun _ _ h => h
  · exact fun _ => allows_append

/-- The types of an adapter are formed where the type parameter of the data is in scope. -/
theorem Interface.Formed.adapter {interface : Interface} (h : interface.Formed library) :
  interface.adapter.Formed library
  := by
  constructor
  case params => exact nodup_adapterParams h.params
  case names => simpa [Interface.adapter, Function.comp_def] using h.names
  case members =>
    simp only [Interface.adapter, List.forall_mem_map]
    intro method hmethod
    have hm := h.methods method hmethod
    have hargs : ∀ a ∈ Ty.param interface.dataParam :: method.args.map (·.type),
        a.Formed (library.scopeOf (interface.adapterParams ++ method.typeParams)) 0 := by
      rw [List.forall_mem_cons, List.forall_mem_map]
      constructor
      · exact formed_param (List.mem_append_left _ List.mem_cons_self)
      · exact fun a ha => (hm.args a ha).extend (.refl library) (List.subset_cons_self _ _)
    apply FunctionType.formed_ofSignature hargs
    · exact hm.output.extend (.refl library) (List.subset_cons_self _ _)
    · exact fun _ _ h => h
    · exact fun _ => allows_append

theorem StructHeader.Formed.constructor {header : StructHeader} (h : header.Formed library)
    (harity : library.Arity header.entity header.typeParams.length) :
  header.constructor.Formed library
  := by
  have htype : header.type.Formed (library.scopeOf header.typeParams) 0 :=
    formed_declaredType harity (List.Subset.refl _)
  constructor
  case params => exact h.params
  case args => simpa [StructHeader.constructor] using h.members
  case output =>
    simp only [StructHeader.constructor]
    split
    · simpa only [Ty.Formed] using htype
    · exact htype

theorem Interface.Formed.instanceConstructor {interface : Interface}
    (h : interface.Formed library)
    (harity : library.Arity interface.entity interface.typeParams.length)
    (hadapter : library.Arity interface.adapterEntity interface.adapterParams.length) :
  interface.instanceConstructor.Formed library
  := by
  constructor
  case params => exact nodup_adapterParams h.params
  case args =>
    simp only [Interface.instanceConstructor, List.forall_mem_cons, List.not_mem_nil,
      false_imp_iff, implies_true, and_true]
    exact ⟨List.mem_cons_self, formed_declaredType hadapter (List.Subset.refl _)⟩
  case output => exact formed_declaredType harity (List.subset_cons_self _ _)

theorem Union.Formed.optionConstructor {union : Union} (h : union.Formed library)
    (harity : library.Arity union.entity union.typeParams.length) {option : UnionOption}
    (hoption : option ∈ union.options) :
  (union.optionConstructor option).Formed library
  := by
  constructor
  case params => exact h.params
  case args => simpa [Union.optionConstructor] using h.options option hoption
  case output => exact formed_declaredType harity (List.Subset.refl _)

theorem Union.Formed.handlerType {union : Union} (h : union.Formed library)
    {option : UnionOption} (hoption : option ∈ union.options) :
  (union.handlerType option).Formed
    (library.scopeOf (union.typeParams ++ [union.resultParam])) 0
  := by
  simp only [Union.handlerType, Ty.Formed, areFormed_iff, Option.mem_toList]
  constructor
  · intro type htype
    exact (h.options option hoption type htype).extend (.refl library)
      (List.subset_append_left _ _)
  · exact List.mem_map_of_mem (List.mem_append_right _ List.mem_cons_self)

theorem Union.Formed.whenSignature {union : Union} (h : union.Formed library)
    (harity : library.Arity union.entity union.typeParams.length) :
  union.whenSignature.Formed library
  := by
  constructor
  case params => exact nodup_whenParams h.params
  case args =>
    simp only [Union.whenSignature, List.forall_mem_cons, List.forall_mem_map]
    exact ⟨formed_declaredType harity (List.subset_append_left _ _),
      fun option hoption => h.handlerType hoption⟩
  case output => exact formed_param (List.mem_append_right _ List.mem_cons_self)

end Formed

namespace Definitions.Distinct

variable {library : Library} {definitions : Definitions} (h : definitions.Distinct)

include h

theorem arity_struct {header : StructHeader} (hd : library header.module = some definitions)
    (hmem : header ∈ definitions.structs) :
  library.Arity header.entity header.typeParams.length
  := ⟨definitions, .struct, ⟨header.typeParams, false⟩, hd,
    by simp [typeHeader?, StructHeader.entity, h.struct?_of_mem hmem], rfl⟩

theorem arity_interface {interface : Interface} (hd : library interface.module = some definitions)
    (hmem : interface ∈ definitions.interfaces) :
  library.Arity interface.entity interface.typeParams.length
  := ⟨definitions, .interface, ⟨interface.typeParams, false⟩, hd,
    by simp [typeHeader?, Interface.entity, h.interface?_of_mem hmem], rfl⟩

theorem arity_adapter {interface : Interface} (hd : library interface.module = some definitions)
    (hmem : interface ∈ definitions.interfaces) :
  library.Arity interface.adapterEntity interface.adapterParams.length
  := ⟨definitions, .adapter, ⟨interface.adapterParams, false⟩, hd,
    by simp [typeHeader?, Interface.adapterEntity, h.adapterOwner?_of_mem hmem], rfl⟩

theorem arity_union {union : Union} (hd : library union.module = some definitions)
    (hmem : union ∈ definitions.unions) :
  library.Arity union.entity union.typeParams.length
  := ⟨definitions, .union, ⟨union.typeParams, false⟩, hd,
    by simp [typeHeader?, Union.entity, h.union?_of_mem hmem], rfl⟩

end Definitions.Distinct

namespace Definitions.Formed

variable {library : Library} {module : ModuleId} {definitions : Definitions}
  (h : definitions.Formed library module) (hd : library module = some definitions)

include h hd

theorem arity_struct {header : StructHeader} (hmem : header ∈ definitions.structs) :
  library.Arity header.entity header.typeParams.length
  := h.distinct.arity_struct ((h.structs header hmem).1 ▸ hd) hmem

theorem arity_interface {interface : Interface} (hmem : interface ∈ definitions.interfaces) :
  library.Arity interface.entity interface.typeParams.length
  := h.distinct.arity_interface ((h.interfaces interface hmem).1 ▸ hd) hmem

theorem arity_adapter {interface : Interface} (hmem : interface ∈ definitions.interfaces) :
  library.Arity interface.adapterEntity interface.adapterParams.length
  := h.distinct.arity_adapter ((h.interfaces interface hmem).1 ▸ hd) hmem

theorem arity_union {union : Union} (hmem : union ∈ definitions.unions) :
  library.Arity union.entity union.typeParams.length
  := h.distinct.arity_union ((h.unions union hmem).1 ▸ hd) hmem

/-- Everything callable has a formed signature. -/
theorem signature {kind : EntityKind} {id : EntityId} {signature : Signature}
    (hsignature : definitions.signature? kind id = some signature) :
  signature.Formed library
  := by
  cases brings_of_signature? hsignature with
  | native hmem | function hmem => exact h.functions _ hmem
  | struct hmem => exact (h.structs _ hmem).2.constructor (h.arity_struct hd hmem)
  | interface hmem =>
    exact (h.interfaces _ hmem).2.instanceConstructor (h.arity_interface hd hmem)
      (h.arity_adapter hd hmem)
  | adapter hmem => exact (h.interfaces _ hmem).2.adapter.constructor (h.arity_adapter hd hmem)
  | option hmem hoption =>
    exact (h.unions _ hmem).2.optionConstructor (h.arity_union hd hmem) hoption
  | when hmem => exact (h.unions _ hmem).2.whenSignature (h.arity_union hd hmem)

/-- What stands under a name in a formed type has a formed type. -/
theorem memberType {scope : TyScope} {id : EntityId} {args : List Ty} {name : String} {type : Ty}
    (harity : library.Arity ⟨module, id⟩ args.length)
    (hscope : ∀ entity n, library.Arity entity n → scope.arity entity n)
    (hargs : ∀ a ∈ args, a.Formed scope 0)
    (htype : definitions.memberType id args name = .found type) :
  type.Formed scope 0
  := by
  have hlength : ∀ (kind : EntityKind) {header : TypeHeader},
      definitions.typeHeader? kind id = some header → args.length = header.typeParams.length :=
    fun _ _ hheader => harity.length_eq hd h.distinct hheader
  have hmember : ∀ {header : StructHeader}, header.Formed library →
      args.length = header.typeParams.length →
      MemberLookup.ofMember? (header.memberType? args name) = .found type →
      type.Formed scope 0 := by
    intro header hformed hlength htype
    unfold StructHeader.memberType? at htype
    cases hfind : header.members.find? (·.name == name) with
    | none => rw [hfind] at htype; cases htype
    | some m =>
      rw [hfind] at htype
      cases htype
      exact formed_substitute_ofParams (hformed.members m (List.mem_of_find?_eq_some hfind))
        hscope hlength hargs
  unfold Definitions.memberType at htype
  split at htype
  next header hs =>
    have hmem := (struct?_eq_some hs).1
    apply hmember (h.structs header hmem).2 _ htype
    exact hlength .struct (by rw [typeHeader?, hs, Option.map_some])
  next =>
    split at htype
    next interface hi =>
      have hmem := (adapterOwner?_eq_some hi).1
      apply hmember (h.interfaces interface hmem).2.adapter _ htype
      exact hlength .adapter (by rw [typeHeader?, hi, Option.map_some])
    next =>
      split at htype
      next interface hi =>
        have hmem := (interface?_eq_some hi).1
        unfold Interface.methodType? at htype
        cases hfind : interface.methods.find? (·.name == name) with
        | none => rw [hfind] at htype; cases htype
        | some m =>
          rw [hfind] at htype
          cases htype
          have hm := (h.interfaces interface hmem).2.methods m (List.mem_of_find?_eq_some hfind)
          exact formed_substitute_ofParams hm.functionType hscope
            (hlength .interface (by rw [typeHeader?, hi, Option.map_some])) hargs
      next => cases htype

end Definitions.Formed

end TypedModules
