import Mathlib.Data.List.Forall2
import TypedModules.Proofs.Ty.Function
import TypedModules.Value.Basic

/-!
# Slots

Filling slots of a binding in several steps comes to filling them in one.  Slots fit items if
what they are filled with is as the items at their positions want it, and they still do after
open ones are filled with what fits the items that are not bound.
-/

namespace TypedModules

open FunctionType

namespace Binding

variable {slots filled values : List (Option Value)}

/-- As many slots stay open as nothing was supplied for. -/
theorem countP_fillSlots (h : filled.length = slots.countP (·.isNone)) :
  (fillSlots slots filled).countP (·.isNone) = filled.countP (·.isNone)
  := by
  induction slots, filled using fillSlots.induct with
  | case1 filled =>
    rw [List.countP_nil, List.length_eq_zero_iff] at h
    simp [fillSlots, h]
  | case2 value slots filled ih => simpa [fillSlots] using ih (by simpa using h)
  | case3 slots first filled ih =>
    have ih := ih (by simpa using h)
    simp [fillSlots, List.countP_cons, ih]
  | case4 slots ih => simp at h

/-- Filling the slots that the first time left open comes to filling with what the second time
fills the first supply with. -/
theorem fillSlots_fillSlots (h : filled.length = slots.countP (·.isNone))
    (values : List (Option Value)) :
  fillSlots (fillSlots slots filled) values = fillSlots slots (fillSlots filled values)
  := by
  induction slots, filled using fillSlots.induct generalizing values with
  | case1 filled => simp [fillSlots]
  | case2 value slots filled ih => simp [fillSlots, ih (by simpa using h)]
  | case3 slots first filled ih =>
    have ih := ih (by simpa using h)
    cases first with
    | some value => simp [fillSlots, ih]
    | none => cases values <;> simp [fillSlots, ih]
  | case4 slots ih => simp at h

/-- Where all slots are open, they hold what is supplied. -/
theorem fillSlots_replicate (values : List (Option Value)) :
  fillSlots (List.replicate values.length none) values = values
  := by
  induction values with
  | nil => rfl
  | cons first rest ih => rw [List.length_cons, List.replicate_succ, fillSlots, ih]

/-- Where nothing is supplied for the open slots, they stay open. -/
theorem fillSlots_open (slots : List (Option Value)) :
  fillSlots slots (List.replicate (slots.countP (·.isNone)) none) = slots
  := by
  induction slots with
  | nil => rfl
  | cons slot rest ih => cases slot <;> simp [fillSlots, List.replicate_succ, ih]

/-- With a value for each open slot, all slots are filled. -/
theorem exists_fillSlots {args : List Value} (h : args.length = slots.countP (·.isNone)) :
  ∃ all : List Value, fillSlots slots (args.map some) = all.map some
  := by
  apply exists_map_some
  rw [countP_fillSlots (by simpa using h)]
  simp

/-- To fill the first open slot is to leave the others open. -/
theorem fillFirst?_eq {value : Value} {n : Nat} (h : slots.countP (·.isNone) = n + 1) :
  fillFirst? value slots = some (fillSlots slots (some value :: List.replicate n none))
  := by
  induction slots generalizing n with
  | nil => simp at h
  | cons slot rest ih =>
    cases slot with
    | some first => simp [fillFirst?, fillSlots, ih (by simpa using h)]
    | none =>
      have hn : rest.countP (·.isNone) = n := by simpa using h
      rw [fillFirst?, fillSlots, ← hn, fillSlots_open]

end Binding

/-- What is not bound after two steps. -/
theorem FunctionType.unbound_fillSlots {β : Type} {filled : List (Option Value)} {items : List β}
    (h : filled.length = items.length) (values : List (Option Value)) :
  unbound (Binding.fillSlots filled values) items = unbound values (unbound filled items)
  := by
  induction items generalizing filled values with
  | nil => simp
  | cons item items ih =>
    match filled with
    | some value :: filled => simpa [Binding.fillSlots] using ih (by simpa using h) values
    | none :: filled =>
      have ih := @ih filled (by simpa using h)
      match values with
      | [] => simpa [Binding.fillSlots] using ih []
      | some value :: values => simpa [Binding.fillSlots] using ih values
      | none :: values => simpa [Binding.fillSlots] using ih values

/-- Whether slots fit items: what a slot is filled with is as its item wants it. -/
def SlotsFit {β : Type} (wanted : β → Value → Prop) (slots : List (Option Value))
    (items : List β) : Prop :=
  List.Forall₂ (fun slot item => ∀ value, slot = some value → wanted item value) slots items

namespace SlotsFit

variable {β γ : Type} {wanted : β → Value → Prop} {slots values : List (Option Value)}
  {items : List β}

theorem replicate (items : List β) :
  SlotsFit wanted (List.replicate items.length none) items
  := by
  induction items with
  | nil => exact .nil
  | cons item items ih => exact .cons (fun _ h => nomatch h) ih

theorem imp {wanted' : β → Value → Prop} (h : SlotsFit wanted slots items)
    (himp : ∀ item value, wanted item value → wanted' item value) :
  SlotsFit wanted' slots items
  := List.Forall₂.imp (fun _ _ h value e => himp _ value (h value e)) h

/-- Slots still fit after open ones are filled with what fits. -/
theorem fillSlots (h : SlotsFit wanted slots items)
    (hvalues : SlotsFit wanted values (unbound slots items)) :
  SlotsFit wanted (Binding.fillSlots slots values) items
  := by
  induction h generalizing values with
  | nil => exact .nil
  | @cons slot item slots items hslot _ ih =>
    cases slot with
    | some value => exact .cons hslot (ih (by simpa using hvalues))
    | none =>
      rw [unbound_none] at hvalues
      cases hvalues with
      | cons hvalue hvalues => exact .cons hvalue (ih hvalues)

/-- Filled slots that fit hold values as wanted. -/
theorem map_some_iff {vs : List Value} :
  SlotsFit wanted (vs.map some) items ↔ List.Forall₂ (fun v item => wanted item v) vs items
  := by
  rw [SlotsFit, List.forall₂_map_left_iff]
  constructor
  · exact List.Forall₂.imp fun _ _ h => h _ rfl
  · exact List.Forall₂.imp fun _ _ h _ e => Option.some.inj e ▸ h

/-- Slots of which none is open hold values as wanted. -/
theorem exists_values (h : SlotsFit wanted slots items) (hopen : slots.countP (·.isNone) = 0) :
  ∃ vs : List Value, slots = vs.map some ∧ List.Forall₂ (fun v item => wanted item v) vs items
  := by
  obtain ⟨vs, rfl⟩ := exists_map_some hopen
  exact ⟨vs, rfl, map_some_iff.mp h⟩

end SlotsFit
end TypedModules
