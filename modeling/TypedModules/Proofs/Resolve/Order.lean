import TypedModules.Name.Reference

/-!
# The order of entities

Entities are ordered by module and id, modules by name and version, and ids by their segments.
Each of these orders compares one part after another, so it is total and transitive, and sorting
entities puts them in order.
-/

namespace TypedModules

/-- An order that compares one part after another is as transitive as the orders of the parts. -/
theorem transOrd_of_parts {α β γ : Type} [Ord α] [Ord β] [Ord γ] [Std.TransOrd β]
    [Std.TransOrd γ] {f : α → β} {g : α → γ}
    (h : ∀ a b : α, compare a b = (compare (f a) (f b)).then (compare (g a) (g b))) :
  Std.TransOrd α
  := by
  have hparts : (compare : α → α → Ordering) = compareLex (compareOn f) (compareOn g) := by
    funext a b
    exact h a b
  unfold Std.TransOrd
  rw [hparts]
  infer_instance

instance : Std.TransOrd ModuleName :=
  transOrd_of_parts (f := (·.group)) (g := (·.module)) fun a b => by
    simp [compare, instOrdModuleName.ord]

instance : Std.TransOrd ModuleId :=
  transOrd_of_parts (f := (·.name)) (g := (·.version)) fun a b => by
    simp [compare, instOrdModuleId.ord]

instance : Std.TransOrd EntityId :=
  transOrd_of_parts (f := (·.segments)) (g := (·.segments)) fun a b => by
    cases h : compare a.segments b.segments <;> simp_all [compare, instOrdEntityId.ord]

instance : Std.TransOrd Entity :=
  transOrd_of_parts (f := (·.module)) (g := (·.id)) fun a b => by
    simp [compare, instOrdEntity.ord]

theorem Entity.le_total (a b : Entity) :
  (a.le b || b.le a) = true
  := by
  have hswap : compare b a = (compare a b).swap := Std.OrientedCmp.eq_swap
  rw [le, le, hswap]
  cases compare a b <;> rfl

theorem Entity.le_trans (a b c : Entity) (hab : a.le b = true) (hbc : b.le c = true) :
  a.le c = true
  := Std.TransCmp.isLE_trans hab hbc

/-- Sorted entities are in order. -/
theorem pairwise_mergeSort_le (entities : List Entity) :
  (entities.mergeSort Entity.le).Pairwise fun a b => a.le b = true
  := List.pairwise_mergeSort Entity.le_trans Entity.le_total entities

end TypedModules
