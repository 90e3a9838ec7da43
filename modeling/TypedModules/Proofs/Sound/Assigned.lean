import TypedModules.Proofs.Sound.Realm

/-!
# Calls and bindings with types assigned

A tree is judged with type parameters by name, and evaluated where types without parameters are
assigned to them.  A call whose types fit by the judgement still fits when types are assigned, and
a function that is made by binding what fits inhabits the type that the judgement gives it:
`inhabits_of_binds`.
-/

namespace TypedModules

open FunctionType

/-- With types without parameters assigned to its parameters, a type has none. -/
theorem Ty.Formed.assigned {library : Library} {type : Ty} {allowed : Nat} {σ : Assignment}
    (h : type.Formed library.openScope allowed) (hσ : σ.Formed library.closedScope) :
  (type.assign σ).Formed library.closedScope allowed
  := h.assign (fun _ _ h => h) hσ

/-- Nothing is assigned in the type of a signature, whose parameters have become internal. -/
theorem Signature.Formed.assign_functionType {library : Library} {signature : Signature}
    (h : signature.Formed library) (σ : Assignment) :
  signature.functionType.assign σ = signature.functionType
  := by
  have hassign := h.functionType.assign_eq (fun _ hp => hp) σ
  rw [assign_toTy] at hassign
  exact toTy_inj hassign

theorem FunctionType.rebindArgs_nil (function : FunctionType) :
  function.rebindArgs [] = function
  := by
  simp [rebindArgs]

/-- What is not bound depends on what is bound, and not on with what. -/
theorem FunctionType.unbound_congr {α β γ : Type} {R : α → β → Prop} {entries : List (Option α)}
    {others : List (Option β)} (h : List.Forall₂ (Option.Rel R) entries others) (items : List γ) :
  unbound entries items = unbound others items
  := by
  induction h generalizing items with
  | nil => rfl
  | @cons entry other entries others hentry _ ih =>
    cases items with
    | nil => rfl
    | cons item items =>
      cases hentry with
      | some => rw [unbound_some, unbound_some, ih]
      | none => rw [unbound_none, unbound_none, ih]

namespace Realm

/-- Whether values are supplied, or not, as they should be for types. -/
def Supplies (realm : Realm) (σ : Assignment) (world : World) (values : List (Option Value))
    (supplied : List (Option Ty)) : Prop :=
  List.Forall₂ (Option.Rel fun value type => realm.Inhabits world (type.assign σ) value) values
    supplied

variable {realm : Realm} {world : World} {σ : Assignment} {function : FunctionType}
  (hσ : σ.Formed realm.library.closedScope)

include hσ

theorem choice_assign {n : Nat} {chosen : List Ty} (hlength : chosen.length = n)
    (hchosen : ∀ c ∈ chosen, c.Formed realm.library.openScope 0) :
  realm.Choice n (chosen.map (Ty.assign σ))
  := by
  constructor
  case count => rwa [List.length_map]
  case formed =>
    rw [List.forall_mem_map]
    exact fun c hc => (hchosen c hc).assigned hσ

section Calls

variable {chosen args : List Ty} {type : Ty} (h : function.Calls realm.library chosen args type)

include h

theorem choice_of_calls :
  realm.Choice (function.assign σ).typeParams.length (chosen.map (Ty.assign σ))
  := choice_assign hσ h.count h.formed

variable (hformed : function.toTy.Formed realm.library.openScope 0)

include hformed

/-- What is given in a call has the types that the function takes. -/
theorem sameAll_of_calls :
  Ty.sameAll (args.map (Ty.assign σ)) ((function.assign σ).ground (chosen.map (Ty.assign σ))).args
    = true
  := by
  rw [← assign_ground hσ hformed fun _ _ h => h]
  exact Ty.sameAll_assign h.args σ

theorem output_of_calls :
  ((function.assign σ).ground (chosen.map (Ty.assign σ))).output = type.assign σ
  := by
  rw [← assign_ground hσ hformed fun _ _ h => h, h.output]
  rfl

end Calls

section Binds

variable {chosen supplied : List (Option Ty)} {type : Ty}
  (hformed : function.toTy.Formed realm.library.openScope 0)
  (h : function.Binds realm.library chosen supplied type) {later : List Ty}
  (hlater : later.length = Ty.openCount chosen)

include hformed h hlater

/-- The types of the slots of a function, with types chosen for all its parameters, are what the
later ones make of those with the first ones chosen. -/
theorem args_ground_complete :
  ((function.assign σ).ground (complete (chosen.map (·.map (Ty.assign σ))) later)).args
    = (function.rebindTypes chosen).args.map
        fun slot => (slot.assign σ).instantiate (later.map some)
  := by
  have hrebound := formed_rebindTypes hformed h.count h.formed
  have hground := ground_rebind hσ hformed (fun _ _ h => h) h.count h.formed [] hlater
  rw [rebindArgs_nil, ground_eq (formed_assign hσ hrebound fun _ _ h => h)] at hground
  have hargs := congrArg FunctionType.args hground
  simp only [unbound_nil, FunctionType.assign, List.map_map, Function.comp_def] at hargs
  exact hargs.symm

/-- What is supplied has the types of the slots for which it is supplied, whatever is chosen
later. -/
theorem slotsFit_of_binds {values : List (Option Value)}
    (hvalues : realm.Supplies σ world values supplied) :
  SlotsFit (realm.Inhabits world) values
    ((function.assign σ).ground (complete (chosen.map (·.map (Ty.assign σ))) later)).args
  := by
  have hrebound := (formed_toTy.mp (formed_rebindTypes hformed h.count h.formed)).1
  rw [args_ground_complete hσ hformed h hlater, SlotsFit, List.forall₂_map_right_iff]
  refine related_trans hvalues h.slots fun value supply slot hslot hvalue hfits => ?_
  rintro v rfl
  obtain ⟨type, rfl⟩ : ∃ type, supply = some type := by
    cases hvalue
    exact ⟨_, rfl⟩
  rw [Option.rel_some_some] at hvalue
  obtain ⟨hsame, hbindable⟩ := hfits type rfl
  -- a slot that depends on nothing that is open is as it is whatever is chosen later
  have hclosed := ((hrebound slot hslot).restrict hbindable).assigned hσ
  rw [hclosed.instantiate_eq]
  exact hvalue.same (Ty.same_assign hsame σ)

omit hlater

omit hformed in
/-- What is chosen and what is left to be chosen make a choice for all parameters. -/
theorem choice_complete (hlater : realm.Choice (Ty.openCount chosen) later) :
  realm.Choice (function.assign σ).typeParams.length
    (complete (chosen.map (·.map (Ty.assign σ))) later)
  := by
  constructor
  case count =>
    rw [length_complete (hlater.count.trans (Ty.openCount_map chosen _).symm), List.length_map]
    exact h.count
  case formed =>
    refine formed_complete (fun c hc => ?_) hlater.formed
    obtain ⟨first, hfirst, e⟩ := List.mem_map.mp hc
    obtain ⟨type, rfl, rfl⟩ := Option.map_eq_some_iff.mp e
    exact (h.formed type hfirst).assigned hσ

variable {binding filled : Binding} {values : List (Option Value)}
  (happlies : ∀ all, realm.Choice (function.assign σ).typeParams.length all →
    realm.Applies world binding ((function.assign σ).ground all).args
      ((function.assign σ).ground all).output)
  (hvalues : realm.Supplies σ world values supplied)

include happlies hvalues

/-- Something is supplied, or left out, for each open slot. -/
theorem openSlots_of_binds :
  binding.openSlots = values.length
  := by
  have hany := realm.choice_integers (Ty.openCount chosen)
  have hfit := slotsFit_of_binds hσ hformed h hany.count hvalues
  exact (happlies _ (choice_complete hσ h hany)).openSlots.trans hfit.length_eq.symm

/-- What binding makes of a binding that can be applied with all types chosen can be applied with
those chosen that were left. -/
theorem inhabits_of_binds (htarget : filled.target = binding.target)
    (hslots : filled.slots = Binding.fillSlots binding.slots values) :
  realm.Inhabits world (type.assign σ) (.function filled)
  := by
  rw [h.output, assign_toTy]
  refine inhabits_toTy_iff.mpr ⟨filled, rfl, fun later hlater => ?_⟩
  have hopen : (FunctionType.unbound chosen function.typeParams).length = Ty.openCount chosen :=
    length_unbound h.count
  rw [rebindTypes_eq hformed] at hlater
  replace hlater : realm.Choice (Ty.openCount chosen) later := hopen ▸ hlater
  have hfit := slotsFit_of_binds hσ hformed h hlater.count hvalues
  have hfilled := (happlies _ (choice_complete hσ h hlater)).fill hfit htarget hslots
  rw [ground_rebind hσ hformed (fun _ _ h => h) h.count h.formed supplied hlater.count]
  rwa [unbound_congr hvalues] at hfilled

end Binds

end Realm
end TypedModules
