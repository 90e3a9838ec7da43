import TypedModules.Proofs.Declared.Accepted
import TypedModules.Proofs.Declared.Arguments
import TypedModules.Proofs.Ty.Congruent
import TypedModules.Proofs.Typing.Module

/-!
# Adapters

The member of an adapter that implements a method takes the data of an instance first.  Three
kinds of names meet in its type: that of the parameter that stands for the data, which is
invented, those of the interface's parameters, and those of the method's own parameters, which
become internal.  The invented name avoids the parameters of the interface; where it avoids
those of the method as well, the member has the type of the method with the data in front
(`adapter_hygiene`).  Where it does not, the method's own parameter captures the data, and no
choice of data is what the member takes first (`captured_data`).
-/

namespace TypedModules

open Ty

namespace FunctionType

/-- The function type with one more argument in front. -/
def takingFirst (data : Ty) (function : FunctionType) : FunctionType :=
  { function with args := data :: function.args }

/-- What fills the first slot of a function type and leaves the others open. -/
def firstSlot (given : Ty) (function : FunctionType) : List (Option Ty) :=
  some given :: List.replicate function.args.length none

@[simp]
theorem assign_takingFirst (σ : Assignment) (data : Ty) (function : FunctionType) :
  (function.takingFirst data).assign σ = (function.assign σ).takingFirst (data.assign σ)
  := rfl

/-- Binding a value that is no reference to the first slot takes the first argument away. -/
theorem rebindArgs_takingFirst {given : Ty} (hgiven : given.isReference = false) (data : Ty)
    (function : FunctionType) :
  (function.takingFirst data).rebindArgs (function.firstSlot given) = function
  := by
  have hopen : (List.replicate function.args.length (none : Option Ty)).any
      (·.any Ty.isReference) = false := by
    simp
  simp only [rebindArgs, takingFirst, firstSlot, List.any_cons, Option.any_some, hgiven, hopen,
    Bool.or_false, unbound_some, unbound_replicate]

/-- A function that takes the data first and is otherwise like another one is like it once
the data is bound. -/
theorem same_rebindArgs_firstSlot {implementation function : FunctionType} {given data : Ty}
    (h : implementation.toTy.same (function.takingFirst data).toTy = true)
    (hgiven : given.isReference = false) :
  (implementation.rebindArgs (function.firstSlot given)).toTy.same function.toTy = true
  := by
  have hrebound := same_rebindArgs h (sameOptions_refl (function.firstSlot given))
  rwa [rebindArgs_takingFirst hgiven] at hrebound

end FunctionType

/-! ### The parameter that stands for the data -/

namespace Choices

variable {param : TypeParam} {params : List TypeParam} {arg : Ty} {args : List Ty}

theorem get?_ofParams_cons (name : String) :
  (ofParams (param :: params) (arg :: args)).get? name
    = ((ofParams params args).get? name).or (if param.name = name then some arg else none)
  := by
  simp only [get?, ofParams, List.map_cons, List.zip_cons_cons, List.reverse_cons,
    List.find?_append, Option.map_or]
  congr 1
  by_cases h : param.name = name <;> simp [h]

theorem get?_ofParams_of_not_mem {name : String} (h : name ∉ params.map (·.name)) :
  (ofParams params args).get? name = none
  := by
  rw [get?, Option.map_eq_none_iff, List.find?_eq_none]
  rintro ⟨other, _⟩ hmem
  have hother : other ∈ params.map (·.name) := (List.of_mem_zip (List.mem_reverse.mp hmem)).1
  simp only [beq_iff_eq]
  rintro rfl
  exact h hother

end Choices

namespace Interface

/-- Whether the name that is invented for the parameter of the data is none of the method's
own. -/
def Fresh (interface : Interface) (method : Method) : Prop :=
  interface.dataParam.name ∉ method.typeParams.map (·.name)

instance (interface : Interface) (method : Method) : Decidable (interface.Fresh method) :=
  inferInstanceAs (Decidable (_ ∉ _))

variable {interface : Interface} {method : Method}

/-- With arguments for the parameters of an adapter, its first is the data. -/
theorem assigned_dataParam (interface : Interface) (data : Ty) (args : List Ty) :
  Assignment.ofArgs interface.adapterParams (data :: args) interface.dataParam.name = data
  := by
  have hnone : (Choices.ofParams interface.typeParams args).get?
      (unusedName "A" interface.typeParams) = none :=
    Choices.get?_ofParams_of_not_mem (unusedName_not_mem "A" interface.typeParams)
  rw [Assignment.ofArgs, adapterParams, Choices.get?_ofParams_cons, dataParam, hnone]
  simp

/-- The data does not matter for the parameters of the interface. -/
theorem assigned_param (interface : Interface) (data : Ty) (args : List Ty) {name : String}
    (hname : name ∈ interface.typeParams.map (·.name)) :
  Assignment.ofArgs interface.adapterParams (data :: args) name
    = Assignment.ofArgs interface.typeParams args name
  := by
  have hother : interface.dataParam.name ≠ name := by
    rintro rfl
    exact unusedName_not_mem "A" interface.typeParams hname
  rw [Assignment.ofArgs, adapterParams, Choices.get?_ofParams_cons, if_neg hother, Option.or_none]
  rfl

/-- Where the parameter of the data has a name of its own, the member of an adapter takes the
data and then what the method takes. -/
theorem adapterType_of_fresh (hfresh : interface.Fresh method) :
  method.adapterType (.param interface.dataParam)
    = (method.functionType.takingFirst (.param interface.dataParam)).toTy
  := by
  have hnone : (method.typeParams.map (·.name)).idxOf? interface.dataParam.name = none :=
    List.idxOf?_eq_none_iff.mpr hfresh
  simp only [Method.adapterType, Method.functionType, FunctionType.ofSignature,
    FunctionType.takingFirst, List.map_cons, Ty.internalize, hnone]

/-- Where a parameter of the method has the name, the member takes what is chosen for that
parameter first, whatever the data is. -/
theorem captured_data (hcaptured : ¬interface.Fresh method) (data : Ty) (args : List Ty) :
  ∃ index < method.typeParams.length, ∃ others output,
    (method.adapterType (.param interface.dataParam)).substitute
        (.ofParams interface.adapterParams (data :: args))
      = .function false method.typeParams (.internal index :: others) output
  := by
  obtain ⟨index, hindex⟩ : ∃ index,
      (method.typeParams.map (·.name)).idxOf? interface.dataParam.name = some index := by
    rw [← Option.isSome_iff_exists, List.isSome_idxOf?]
    exact not_not.mp hcaptured
  have hfirst : (Ty.param interface.dataParam).internalize (method.typeParams.map (·.name)) 0
      = .internal index := by
    simp [Ty.internalize, hindex]
  refine ⟨index, by simpa using (idxOf?_eq_some hindex).2, ?others, ?output, ?type⟩
  case type =>
    rw [Method.adapterType, FunctionType.ofSignature, List.map_cons, hfirst]
    simp only [FunctionType.toTy, Ty.substitute, substituteAll_eq_map, List.map_cons]
    rfl

section Formed

variable {library : Library} {data : Ty} {args : List Ty}
  (hm : method.Formed library interface.typeParams) (hlength : args.length = interface.typeParams.length)

include hm hlength

/-- The type of a method on an instance, for given arguments of the interface. -/
theorem substitute_functionType :
  method.functionType.toTy.substitute (.ofParams interface.typeParams args)
    = (method.functionType.assign (.ofArgs interface.typeParams args)).toTy
  := by
  rw [substitute_eq_assign hm.functionType hlength, FunctionType.assign_toTy]

/-- The type of the member that implements a method, for given data and given arguments of
the interface, is that of the method on an instance with the data in front. -/
theorem substitute_adapterType (hfresh : interface.Fresh method) :
  (method.adapterType (.param interface.dataParam)).substitute
      (.ofParams interface.adapterParams (data :: args))
    = ((method.functionType.assign (.ofArgs interface.typeParams args)).takingFirst data).toTy
  := by
  have hmember : (method.functionType.takingFirst (.param interface.dataParam)).toTy.Formed
      (library.scopeOf interface.adapterParams) 0 := by
    have hfunction := hm.functionType.extend (.refl library)
      (List.subset_cons_self interface.dataParam interface.typeParams)
    rw [FunctionType.formed_toTy] at hfunction ⊢
    refine ⟨?_, hfunction.2⟩
    rw [FunctionType.takingFirst, List.forall_mem_cons]
    exact ⟨formed_param List.mem_cons_self, hfunction.1⟩
  rw [adapterType_of_fresh hfresh, substitute_eq_assign hmember (by simpa [adapterParams] using hlength),
    FunctionType.assign_toTy, FunctionType.assign_takingFirst]
  have hagree : (method.functionType.assign (.ofArgs interface.adapterParams (data :: args))).toTy
      = (method.functionType.assign (.ofArgs interface.typeParams args)).toTy := by
    rw [← FunctionType.assign_toTy, ← FunctionType.assign_toTy]
    exact hm.functionType.assign_congr fun p hp => assigned_param interface data args hp
  rw [FunctionType.toTy_inj hagree, Ty.assign, assigned_dataParam]

end Formed

end Interface

/-! ### What stands under the name of a method -/

namespace Definitions.Distinct

variable {definitions : Definitions} (h : definitions.Distinct)

include h

variable {interface : Interface} (hmem : interface ∈ definitions.interfaces)

include hmem

theorem memberType_interface (args : List Ty) (name : String) :
  definitions.memberType interface.id args name = .ofMember? (interface.methodType? args name)
  := by
  have hfound := h.interface?_of_mem hmem
  have hheader : definitions.typeHeader? .interface interface.id
      = some ⟨interface.typeParams, false⟩ := by
    rw [typeHeader?, hfound, Option.map_some]
  have hstruct := Option.map_eq_none_iff.mp (h.typeHeader?_eq_none hheader .struct (by simp))
  have howner := Option.map_eq_none_iff.mp (h.typeHeader?_eq_none hheader .adapter (by simp))
  simp only [memberType, hstruct, howner, hfound]

theorem memberType_adapter (args : List Ty) (name : String) :
  definitions.memberType interface.adapterId args name
    = .ofMember? (interface.adapter.memberType? args name)
  := by
  have hfound := h.adapterOwner?_of_mem hmem
  have hheader : definitions.typeHeader? .adapter interface.adapterId
      = some ⟨interface.adapterParams, false⟩ := by
    rw [typeHeader?, hfound, Option.map_some]
  have hstruct := Option.map_eq_none_iff.mp (h.typeHeader?_eq_none hheader .struct (by simp))
  simp only [memberType, hstruct, hfound]

end Definitions.Distinct

/-- A parameter has the same type whether arguments are found by its name or by its position,
if no other parameter has the name. -/
theorem Assignment.ofChosen_eq_ofArgs {params : List TypeParam} {args : List Ty} {name : String}
    (h : (params.map (·.name)).Nodup) (hlength : args.length = params.length) :
  ofChosen params args name = ofArgs params args name
  := by
  induction params generalizing args with
  | nil => rfl
  | cons param rest ih =>
    cases args with
    | nil => simp at hlength
    | cons arg args =>
      rw [List.map_cons, List.nodup_cons] at h
      have hrest := ih h.2 (by simpa using hlength)
      rw [ofArgs, Choices.get?_ofParams_cons]
      by_cases hname : param.name = name
      · subst hname
        rw [Choices.get?_ofParams_of_not_mem h.1]
        simp [ofChosen, choose, List.idxOf?_cons]
      · rw [if_neg hname, Option.or_none]
        rw [ofArgs] at hrest
        rw [← hrest]
        simp only [ofChosen, choose, List.map_cons, List.idxOf?_cons, beq_iff_eq, hname, if_false]
        cases (rest.map (·.name)).idxOf? name <;> rfl

namespace Interface

/-- The type of the implementation of a method that the constructor of an adapter takes is
that of the member. -/
theorem ground_adapterConstructor {library : Library} {interface : Interface}
    (h : interface.Formed library)
    (harity : library.Arity interface.adapterEntity interface.adapterParams.length) {data : Ty}
    {args : List Ty} (hlength : args.length = interface.typeParams.length) :
  (interface.adapterConstructor.functionType.ground (data :: args)).args
    = interface.methods.map fun method =>
        (method.adapterType (.param interface.dataParam)).substitute
          (.ofParams interface.adapterParams (data :: args))
  := by
  have hlength' : (data :: args).length = interface.adapterParams.length := by
    simpa [adapterParams] using hlength
  have hsignature : interface.adapterConstructor.Formed library := h.adapter.constructor harity
  have hchosen := hsignature.ground hlength'
  rw [hchosen]
  simp only [adapterConstructor, StructHeader.constructor, adapter, List.map_map]
  apply List.map_congr_left
  intro method hmethod
  have hmember : (method.adapterType (.param interface.dataParam)).Formed
      (library.scopeOf interface.adapterParams) 0 :=
    h.adapter.members ⟨method.name, _⟩ (List.mem_map_of_mem hmethod)
  rw [substitute_eq_assign hmember hlength']
  exact hmember.assign_congr fun _ _ =>
    Assignment.ofChosen_eq_ofArgs (nodup_adapterParams h.params) hlength'

end Interface

/-- The types that an adapter derives from a method whose own parameters leave the invented
name free.  For given data and given arguments of the interface there is a function type, with
the method's own parameters, that a follow of the method on an instance has.  The member of the
adapter has this type with the data in front, and that is the type that the constructor of the
adapter expects of an implementation.  An implementation that it accepts has the type of the
method on an instance as soon as data fills its first slot. -/
theorem adapter_hygiene {module : Module} (haccepted : Accepted module) {interface : Interface}
    (hinterface : interface ∈ module.interfaces) {index : Nat} {method : Method}
    (hmethod : interface.methods[index]? = some method) (hfresh : interface.Fresh method)
    {data : Ty} (hdata : data.isReference = false) {args : List Ty}
    (hlength : args.length = interface.typeParams.length) :
  ∃ function : FunctionType, function.typeParams = method.typeParams
    ∧ module.definitions.memberType interface.id args method.name = .found function.toTy
    ∧ module.definitions.memberType interface.adapterId (data :: args) method.name
      = .found (function.takingFirst data).toTy
    ∧ (interface.adapterConstructor.functionType.ground (data :: args)).args[index]?
      = some (function.takingFirst data).toTy
    ∧ ∀ implementation : FunctionType,
      implementation.toTy.same (function.takingFirst data).toTy = true →
      ∀ given : Ty, given.same data = true →
        (implementation.rebindArgs (function.firstSlot given)).toTy.same function.toTy = true
  := by
  have hd := definitionsOf?_self haccepted.not_native
  have hdefinitions : module.definitions.Formed module.library module.id :=
    haccepted.formed _ _ hd
  have hformed := (hdefinitions.interfaces interface hinterface).2
  have hmem := List.mem_of_getElem? hmethod
  have hmember := @Interface.substitute_adapterType _ _ _ data _ (hformed.methods method hmem)
    hlength hfresh
  refine ⟨method.functionType.assign (.ofArgs interface.typeParams args), rfl, ?_, ?_, ?_, ?_⟩
  · have hfind : interface.methods.find? (·.name == method.name) = some method :=
      @find?_of_nodup _ _ _ _ Method.name _ hformed.names _ hmem
    rw [hdefinitions.distinct.memberType_interface hinterface, Interface.methodType?, hfind,
      Option.map_some, Interface.substitute_functionType (hformed.methods method hmem) hlength]
    rfl
  · have hmem' : (⟨method.name, method.adapterType (.param interface.dataParam)⟩ : Argument)
        ∈ interface.adapter.members := List.mem_map_of_mem hmem
    have hfind := @find?_of_nodup _ _ _ _ Argument.name _ hformed.adapter.names _ hmem'
    rw [hdefinitions.distinct.memberType_adapter hinterface, StructHeader.memberType?, hfind,
      Option.map_some]
    exact congrArg MemberLookup.found hmember
  · rw [Interface.ground_adapterConstructor hformed (hdefinitions.arity_adapter hd hinterface)
      hlength, List.getElem?_map, hmethod, Option.map_some, hmember]
  · intro implementation himplementation given hgiven
    exact FunctionType.same_rebindArgs_firstSlot himplementation
      ((isReference_of_same hgiven).trans hdata)

/-- A context with the interface `Cell<T>`.  Its method `replace<B>(old: T, new: B): B` leaves
the name that is invented for the data free, its method `pick<A>(item: A): A` takes it. -/
def cellContext : Context where
  interfaces := [{
      id := ⟨["Cell"]⟩
      typeParams := [⟨"T", none⟩]
      methods := [{
          name := "replace"
          typeParams := [⟨"B", none⟩]
          args := [⟨"old", .named false ⟨none, ⟨["T"]⟩⟩ [] none, none⟩,
            ⟨"new", .named false ⟨none, ⟨["B"]⟩⟩ [] none, none⟩]
          output := .named false ⟨none, ⟨["B"]⟩⟩ [] none },
        { name := "pick"
          typeParams := [⟨"A", none⟩]
          args := [⟨"item", .named false ⟨none, ⟨["A"]⟩⟩ [] none, none⟩]
          output := .named false ⟨none, ⟨["A"]⟩⟩ [] none }]
      annotations := []
      location := none }]

theorem adapter_hygiene_cell :
  ∃ (module : Module) (interface : Interface) (method : Method) (function : FunctionType),
    Accepted module ∧ interface ∈ module.interfaces ∧ interface.methods[0]? = some method
    ∧ interface.Fresh method
    ∧ module.definitions.memberType interface.id [.natural] method.name = .found function.toTy
    ∧ module.definitions.memberType interface.adapterId [.boolean, .natural] method.name
      = .found (function.takingFirst .boolean).toTy
  := by
  have hcell : (validate 0 cellContext ⟨"example", "cell"⟩ [] {}).module?.any (fun module =>
      module.interfaces.any fun interface => interface.typeParams.length == 1
        && interface.methods.head?.any fun method => decide (interface.Fresh method)) = true := by
    decide +kernel
  obtain ⟨module, warnings, h, hcell⟩ := Verdict.exists_success hcell
  have haccepted := Accepted.alone h
  simp only [List.any_eq_true, Bool.and_eq_true, beq_iff_eq, Option.any_eq_true,
    decide_eq_true_eq, List.head?_eq_getElem?] at hcell
  obtain ⟨interface, hinterface, hparams, method, hmethod, hfresh⟩ := hcell
  have hlength : [Ty.natural].length = interface.typeParams.length := hparams.symm
  obtain ⟨function, -, hfollow, hmember, -⟩ := adapter_hygiene haccepted hinterface hmethod hfresh
    (rfl : Ty.boolean.isReference = false) hlength
  exact ⟨module, interface, method, function, haccepted, hinterface, hmethod, hfresh, hfollow,
    hmember⟩

/-- Whether what a lookup finds is a function type that starts with a parameter of its own. -/
def MemberLookup.takesParameter : MemberLookup → Bool
  | found (.function _ _ (.internal _ :: _) _) => true
  | _ => false

theorem captured_pick :
  ∃ (module : Module) (interface : Interface) (method : Method),
    Accepted module ∧ interface ∈ module.interfaces ∧ method ∈ interface.methods
    ∧ ∀ function : FunctionType,
      module.definitions.memberType interface.adapterId [.boolean, .natural] method.name
        ≠ .found (function.takingFirst .boolean).toTy
  := by
  have hpick : (validate 0 cellContext ⟨"example", "cell"⟩ [] {}).module?.any (fun module =>
      module.interfaces.any fun interface => interface.methods.any fun method =>
        (module.definitions.memberType interface.adapterId [.boolean, .natural]
          method.name).takesParameter) = true := by
    decide +kernel
  obtain ⟨module, warnings, h, hpick⟩ := Verdict.exists_success hpick
  have haccepted := Accepted.alone h
  simp only [List.any_eq_true] at hpick
  obtain ⟨interface, hinterface, method, hmethod, hpick⟩ := hpick
  refine ⟨module, interface, method, haccepted, hinterface, hmethod, ?_⟩
  intro function hfound
  rw [hfound] at hpick
  cases hpick

end TypedModules
