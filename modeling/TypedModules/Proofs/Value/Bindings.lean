import TypedModules.Proofs.Value.Inhabits

/-!
# Bindings that are applied and filled

A binding that can be applied has an open slot for each value that it takes.  With some of the
slots filled it can be applied to the others, and with all of them filled its target has what it
takes.
-/

namespace TypedModules

theorem FunctionType.sameAll_unbound {α : Type} (entries : List (Option α)) {as bs : List Ty}
    (h : Ty.sameAll as bs = true) :
  Ty.sameAll (unbound entries as) (unbound entries bs) = true
  := by
  rw [Ty.sameAll_iff] at h ⊢
  rw [← unbound_map, ← unbound_map, h]

namespace Realm

/-- Whether values inhabit types, position by position. -/
def InhabitAll (realm : Realm) (world : World) (values : List Value) (types : List Ty) : Prop :=
  List.Forall₂ (fun value type => realm.Inhabits world type value) values types

variable {realm : Realm} {world later : World}

theorem InhabitAll.grow (hgrows : world <+: later) {values : List Value} {types : List Ty}
    (h : realm.InhabitAll world values types) :
  realm.InhabitAll later values types
  := List.Forall₂.imp (fun _ _ h => h.grow hgrows) h

theorem InhabitAll.exists_two {values : List Value} {first second : Ty}
    (h : realm.InhabitAll world values [first, second]) :
  ∃ a b, values = [a, b] ∧ realm.Inhabits world first a ∧ realm.Inhabits world second b
  := by
  obtain _ | ⟨ha, _ | ⟨hb, _ | _⟩⟩ := h
  exact ⟨_, _, rfl, ha, hb⟩

/-- What values that inhabit types of items are, as it is said of structs, instances and options. -/
theorem inhabitAll_map_iff {β : Type} {values : List Value} {items : List β} {f : β → Ty} :
  realm.InhabitAll world values (items.map f)
    ↔ items.length = values.length ∧ ∀ p ∈ items.zip values, realm.Inhabits world (f p.1) p.2
  := by
  rw [InhabitAll, List.forall₂_map_right_iff]
  constructor
  · intro h
    have hflip := List.forall₂_iff_zip.mp h.flip
    exact ⟨hflip.1, fun p hp => hflip.2 hp⟩
  · intro h
    have hzip : List.Forall₂ (fun item value => realm.Inhabits world (f item) value) items values :=
      List.forall₂_iff_zip.mpr ⟨h.1, fun hp => h.2 _ hp⟩
    exact hzip.flip

theorem slotsFit_of_sameAll {types types' : List Ty} {values : List (Option Value)}
    (h : SlotsFit (realm.Inhabits world) values types) (hsame : Ty.sameAll types types' = true) :
  SlotsFit (realm.Inhabits world) values types'
  := by
  replace hsame := Ty.forall₂_of_sameAll hsame
  unfold SlotsFit at h ⊢
  induction h generalizing types' with
  | nil =>
    cases hsame
    exact .nil
  | cons hvalue _ ih =>
    cases hsame with
    | cons hfirst hrest => exact .cons (fun v e => (hvalue v e).same hfirst) (ih hrest)

theorem InhabitAll.same {types types' : List Ty} {values : List Value}
    (h : realm.InhabitAll world values types) (hsame : Ty.sameAll types types' = true) :
  realm.InhabitAll world values types'
  := SlotsFit.map_some_iff.mp (slotsFit_of_sameAll (SlotsFit.map_some_iff.mpr h) hsame)

/-- What can be called can be applied to the same values. -/
theorem applies_of_callable {base : Binding} {params : List Ty} {result : Ty}
    (h : realm.callable world base params result) :
  realm.Applies world base params result
  := by
  refine .intro h rfl ?_ (.replicate params) ?_ (Ty.same_refl result)
  · rw [← realm.counted h, Binding.openSlots, Binding.fillSlots_open]
  · rw [FunctionType.unbound_replicate]
    exact Ty.sameAll_refl params

section Applies

variable {binding filled : Binding} {types : List Ty} {output : Ty}

/-- A binding has an open slot for each value that it takes. -/
theorem Applies.openSlots (h : realm.Applies world binding types output) :
  binding.openSlots = types.length
  := by
  obtain ⟨hbase, -, hslots, hfit, hargs, -⟩ := h
  have hlength := hfit.length_eq
  rw [Binding.openSlots, hslots,
    Binding.countP_fillSlots (hlength.trans (realm.counted hbase).symm),
    ← FunctionType.length_unbound hlength]
  exact (Ty.forall₂_of_sameAll hargs).length_eq

/-- With some open slots filled, a binding takes values for the others. -/
theorem Applies.fill (h : realm.Applies world binding types output) {values : List (Option Value)}
    (hvalues : SlotsFit (realm.Inhabits world) values types)
    (htarget : filled.target = binding.target)
    (hslots : filled.slots = Binding.fillSlots binding.slots values) :
  realm.Applies world filled (FunctionType.unbound values types) output
  := by
  obtain ⟨hbase, htarget', hslots', hfit, hargs, houtput⟩ := h
  have hlength := hfit.length_eq
  have hvalues' := slotsFit_of_sameAll hvalues (Ty.sameAll_symm hargs)
  refine .intro hbase (htarget.trans htarget') ?_ (hfit.fillSlots hvalues') ?_ houtput
  · rw [hslots, hslots', Binding.fillSlots_fillSlots (hlength.trans (realm.counted hbase).symm)]
  · rw [FunctionType.unbound_fillSlots hlength]
    exact FunctionType.sameAll_unbound values hargs

/-- With all open slots filled, the target has the values that it takes. -/
theorem Applies.exists_values (h : realm.Applies world binding types output) {args : List Value}
    (hargs : realm.InhabitAll world args types) :
  ∃ base params result values, realm.callable world base params result
    ∧ binding.target = base.target ∧ realm.InhabitAll world values params
    ∧ Binding.fillSlots binding.slots (args.map some)
      = Binding.fillSlots base.slots (values.map some)
    ∧ result.same output = true
  := by
  obtain @⟨base, params, result, filled, hbase, htarget, hslots, hfit, hsame, houtput⟩ := h
  have hlength := hfit.length_eq
  have hargs' := SlotsFit.map_some_iff.mpr (hargs.same (Ty.sameAll_symm hsame))
  have hcount : (args.map some).length = filled.countP (·.isNone) :=
    hargs'.length_eq.trans (FunctionType.length_unbound hlength)
  have hnone : (Binding.fillSlots filled (args.map some)).countP (·.isNone) = 0 :=
    (Binding.countP_fillSlots hcount).trans (by simp)
  obtain ⟨values, hvalues, hall⟩ := (hfit.fillSlots hargs').exists_values hnone
  refine ⟨base, params, result, values, hbase, htarget, hall, ?_, houtput⟩
  rw [hslots, Binding.fillSlots_fillSlots (hlength.trans (realm.counted hbase).symm), hvalues]

end Applies

end Realm
end TypedModules
