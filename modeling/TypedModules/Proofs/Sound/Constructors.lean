import TypedModules.Proofs.Declared.Adapter
import TypedModules.Proofs.Sound.Literal

/-!
# Constructors keep to their signatures

What a struct, an interface or a union brings along takes inhabitants of the types of its
arguments and yields an inhabitant of the type of its result, whatever types are assigned to its
parameters.  An instance is where this depends on names: binding the data to the members of an
adapter makes the methods of the interface only if no method has a parameter with the name that
is invented for the data.
-/

namespace TypedModules

open Ty

/-! ### Declarations applied to their own parameters -/

section Applied

variable {library : Library}

/-- With types assigned to its parameters, a struct has members of the types that are assigned. -/
theorem StructHeader.Formed.substitute_assigned {header : StructHeader}
    (h : header.Formed library) (σ : Assignment) :
  (header.members.map fun m => m.type.substitute
      (.ofParams header.typeParams (header.typeParams.map fun p => σ p.name)))
    = header.members.map fun m => m.type.assign σ
  := List.map_congr_left fun m hm => TypedModules.substitute_assigned (h.members m hm) σ

/-- With types assigned to its parameters, an option holds what is assigned to its type. -/
theorem Union.Formed.substitute_assigned {union : Union} (h : union.Formed library)
    {option : UnionOption} (hoption : option ∈ union.options) (σ : Assignment) :
  (option.type.toList.map fun type => type.substitute
      (.ofParams union.typeParams (union.typeParams.map fun p => σ p.name)))
    = option.type.toList.map (Ty.assign σ)
  := by
  apply List.map_congr_left
  intro type htype
  have hformed := h.options option hoption type (Option.mem_toList.mp htype)
  exact TypedModules.substitute_assigned hformed σ

end Applied

/-! ### Methods of instances -/

namespace FunctionType

/-- What takes closed data first still takes it when types are chosen. -/
theorem ground_takingFirst {scope : TyScope} {data : Ty} (hdata : data.Formed scope 0)
    (function : FunctionType) (chosen : List Ty) :
  (function.takingFirst data).ground chosen = (function.ground chosen).takingFirst data
  := by
  unfold ground
  split
  next hground => rw [if_pos (show function.isGround = true from hground)]
  next hground =>
    rw [if_neg (show ¬function.isGround = true from hground)]
    simp only [takingFirst, List.map_cons, hdata.instantiate_eq]

end FunctionType

namespace Realm

variable {realm : Realm} {world : World}

section Methods

variable {data : Value} {dataType : Ty} (hdata : realm.Inhabits world dataType data)
  (hclosed : dataType.Formed realm.library.closedScope 0)

include hdata hclosed

/-- What takes data first becomes what takes the rest when it is bound to data. -/
theorem exists_bindMethod {function : FunctionType} {member : Value}
    (h : realm.Inhabits world (function.takingFirst dataType).toTy member) :
  ∃ method, bindMethod data member = pure method
    ∧ realm.Inhabits world function.toTy (.function method)
  := by
  obtain ⟨binding, rfl, happlies⟩ := inhabits_toTy_iff.mp h
  have happlies : ∀ chosen, realm.Choice function.typeParams.length chosen →
      realm.Applies world binding (dataType :: (function.ground chosen).args)
        (function.ground chosen).output := by
    intro chosen hchosen
    have hfirst := happlies chosen hchosen
    rwa [FunctionType.ground_takingFirst hclosed] at hfirst
  have hopen : binding.slots.countP (·.isNone) = function.args.length + 1 := by
    have hslots := (happlies _ (realm.choice_integers function.typeParams.length)).openSlots
    rwa [List.length_cons, FunctionType.length_args_ground] at hslots
  have hfilled := @Binding.fillFirst?_eq _ data _ hopen
  let method := Binding.mk binding.target (Binding.fillSlots binding.slots
    (some data :: List.replicate function.args.length none)) binding.chosen
  refine ⟨method, ?_, ?_⟩
  · simp only [bindMethod, Value.asBinding, pure_bind, Binding.bindFirst?, hfilled, Option.map_some]
    rfl
  · refine inhabits_toTy_iff.mpr ⟨_, rfl, fun chosen hchosen => ?_⟩
    have hlength := function.length_args_ground chosen
    have hfit : SlotsFit (realm.Inhabits world)
        (some data :: List.replicate function.args.length none)
        (dataType :: (function.ground chosen).args) := by
      rw [← hlength]
      exact .cons (fun v e => Option.some.inj e ▸ hdata) (SlotsFit.replicate _)
    have hrest := @Applies.fill _ _ _ method _ _ (happlies chosen hchosen) _ hfit rfl rfl
    rwa [FunctionType.unbound_some, ← hlength, FunctionType.unbound_replicate] at hrest

/-- What takes data first becomes what takes the rest when it is bound to data, one member after
another. -/
theorem exists_bindMethods {functions : List FunctionType} {members : List Value}
    (h : realm.InhabitAll world members
      (functions.map fun function => (function.takingFirst dataType).toTy)) :
  ∃ methods, members.mapM (bindMethod data) = pure methods
    ∧ realm.InhabitAll world (methods.map .function) (functions.map FunctionType.toTy)
  := by
  induction functions generalizing members with
  | nil =>
    cases h
    exact ⟨[], rfl, .nil⟩
  | cons function rest ih =>
    obtain _ | ⟨hmember, hmembers⟩ := h
    obtain ⟨method, hmethod, hinhabits⟩ := exists_bindMethod hdata hclosed hmember
    obtain ⟨methods, hmethods, hall⟩ := ih hmembers
    refine ⟨method :: methods, ?_, .cons hinhabits hall⟩
    rw [List.mapM_cons, hmethod, pure_bind, hmethods, pure_bind]

end Methods

/-! ### What constructors make -/

section Constructors

variable {σ : Assignment} {args : List Value}

/-- The struct that inhabitants of the types of its members make. -/
theorem inhabits_declared {header : StructHeader}
    (hshape : realm.library.shape? header.entity = some header)
    (hargs : realm.InhabitAll world args (header.members.map fun m => m.type.assign σ)) :
  realm.Inhabits world (header.type.assign σ) (.struct header args)
  := by
  obtain ⟨hheader, -⟩ := Library.formed_shape? realm.formed hshape
  rw [StructHeader.type, assign_declaredType]
  apply inhabits_struct hshape
  rwa [hheader.substitute_assigned]

/-- The value of an option that an inhabitant of its type makes, if it has one. -/
theorem inhabits_option {union : Union} (hunion : realm.library.union? union.entity = some union)
    {index : Nat} {option : UnionOption} (hoption : union.options[index]? = some option)
    (hargs : realm.InhabitAll world args (option.type.toList.map (Ty.assign σ))) :
  realm.Inhabits world (union.type.assign σ) (.union union index args.head?)
  := by
  obtain ⟨hformed, -⟩ := Library.formed_union? realm.formed hunion
  have hpayload : args.head?.toList = args := by
    have hlength := hargs.length_eq
    cases htype : option.type with
    | none =>
      rw [htype] at hlength
      obtain rfl := List.eq_nil_of_length_eq_zero hlength
      rfl
    | some type =>
      rw [htype] at hlength
      obtain ⟨value, rfl⟩ := List.length_eq_one_iff.mp hlength
      rfl
  rw [← hformed.substitute_assigned (List.mem_of_getElem? hoption), ← hpayload] at hargs
  obtain ⟨hlength, hargs⟩ := inhabitAll_map_iff.mp hargs
  rw [Union.type, assign_declaredType]
  exact .union hunion hoption hlength hargs

/-- What an adapter holds takes the data of an instance first, if each method leaves the name that
is invented for the data free. -/
theorem members_of_adapter {interface : Interface} (hformed : interface.Formed realm.library)
    (hfresh : ∀ m ∈ interface.methods, interface.Fresh m) {header : StructHeader}
    {members : List Value} (hshape : realm.library.shape? interface.adapterEntity
      = some interface.adapter)
    (hadapter : realm.Inhabits world (interface.adapter.type.assign σ) (.struct header members)) :
  realm.InhabitAll world members ((interface.methods.map fun m =>
    m.functionType.assign (.ofArgs interface.typeParams
      (interface.typeParams.map fun p => σ p.name))).map fun function =>
        (function.takingFirst (σ interface.dataParam.name)).toTy)
  := by
  rw [StructHeader.type, assign_declaredType] at hadapter
  obtain ⟨found, e, hmembers⟩ := hadapter.exists_struct hshape
  cases e
  simp only [Interface.adapter, List.map_map, Function.comp_def] at hmembers
  have htypes : (interface.methods.map fun m =>
      (m.adapterType (.param interface.dataParam)).substitute (.ofParams interface.adapterParams
        (interface.adapterParams.map fun p => σ p.name)))
      = interface.methods.map fun m => ((m.functionType.assign (.ofArgs interface.typeParams
        (interface.typeParams.map fun p => σ p.name))).takingFirst
          (σ interface.dataParam.name)).toTy := by
    apply List.map_congr_left
    intro method hmethod
    exact Interface.substitute_adapterType (hformed.methods method hmethod) (by simp)
      (hfresh method hmethod)
  rw [htypes] at hmembers
  rwa [List.map_map]

/-- The instance that data and an adapter make. -/
theorem yields_instance (hσ : σ.Formed realm.library.closedScope) {interface : Interface}
    (hinterface : realm.library.interface? interface.entity = some interface)
    (hshape : realm.library.shape? interface.adapterEntity = some interface.adapter)
    (hfresh : ∀ m ∈ interface.methods, interface.Fresh m) {data : Value} {header : StructHeader}
    {members : List Value} (hdata : realm.Inhabits world (σ interface.dataParam.name) data)
    (hadapter : realm.Inhabits world (interface.adapter.type.assign σ) (.struct header members))
    {allows : EvalCause → Prop} :
  realm.Yields allows world (return .object interface (← members.mapM (bindMethod data)))
    (interface.type.assign σ)
  := by
  obtain ⟨hformed, -⟩ := Library.formed_interface? realm.formed hinterface
  have hmembers := members_of_adapter hformed hfresh hshape hadapter
  obtain ⟨methods, hmethods, hall⟩ := exists_bindMethods hdata (hσ _) hmembers
  rw [hmethods, pure_bind, Interface.type, assign_declaredType]
  have htypes : (interface.methods.map fun m => m.functionType.toTy.substitute
      (.ofParams interface.typeParams (interface.typeParams.map fun p => σ p.name)))
      = (interface.methods.map fun m => m.functionType.assign (.ofArgs interface.typeParams
        (interface.typeParams.map fun p => σ p.name))).map FunctionType.toTy := by
    rw [List.map_map]
    apply List.map_congr_left
    intro method hmethod
    exact Interface.substitute_functionType (hformed.methods method hmethod) (by simp)
  rw [← htypes] at hall
  obtain ⟨hlength, hall⟩ := inhabitAll_map_iff.mp hall
  rw [List.zip_map_right, List.forall_mem_map] at hall
  exact yields_pure (.object hinterface (by simpa using hlength) hall)

end Constructors

/-! ### Case distinctions -/

/-- What a case distinction makes of a value of its union: the result of the handler. -/
theorem yields_distinguish {σ : Assignment} {union : Union}
    (hunion : realm.library.union? union.entity = some union) {ask : Request → Eval Value}
    {allows : EvalCause → Prop} (hask : realm.Answers allows ask) {owner : Union} {index : Nat}
    {payload : Option Value} {handlers : List Value} {handler : Value}
    (hvalue : realm.Inhabits world (union.type.assign σ) (.union owner index payload))
    (hhandlers : realm.InhabitAll world handlers
      (union.options.map fun option => (union.handlerType option).assign σ))
    (hhandler : handlers[index]? = some handler) :
  realm.Yields allows world (do ask (.apply (← handler.asBinding) payload.toList))
    (σ union.resultParam.name)
  := by
  obtain ⟨hformed, -⟩ := Library.formed_union? realm.formed hunion
  rw [Union.type, assign_declaredType] at hvalue
  obtain ⟨_, option, _, e, hoption, hpayload⟩ := hvalue.exists_union hunion
  cases e
  rw [hformed.substitute_assigned (List.mem_of_getElem? hoption)] at hpayload
  have htype : (union.options.map fun option => (union.handlerType option).assign σ)[index]?
      = some ((union.handlerType option).assign σ) := by
    rw [List.getElem?_map, hoption, Option.map_some]
  obtain ⟨found, hfound, hinhabits⟩ := exists_related_getElem? hhandlers htype
  obtain rfl : found = handler := Option.some.inj (hfound.symm.trans hhandler)
  rw [Union.handlerType, Ty.assign, Ty.assignAll_eq_map] at hinhabits
  obtain ⟨binding, rfl, happlies⟩ := hinhabits.exists_function
  rw [Value.asBinding, pure_bind]
  exact hask world binding _ _ _ happlies hpayload

end Realm
end TypedModules
