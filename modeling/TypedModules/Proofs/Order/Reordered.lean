import Mathlib.Data.List.Perm.Basic
import TypedModules.Proofs.Declared.Formed
import TypedModules.Proofs.Graph.Accepted

/-!
# Contexts in another order

A context is reordered if its functions, structs, interfaces and unions are listed in another order,
each kind for itself.  Then the same ids are claimed, as often as before, and the same ones are
duplicated; what is left without these are declarations with distinct ids.
-/

namespace TypedModules

/-- Whether the declarations of two contexts are the same, each kind in an order of its own. -/
structure Context.Reordered (context other : Context) : Prop where
  functions : context.functions.Perm other.functions
  structs : context.structs.Perm other.structs
  interfaces : context.interfaces.Perm other.interfaces
  unions : context.unions.Perm other.unions

theorem nodup_duplicateIds (context : Context) :
  context.duplicateIds.Nodup
  := (nodup_eraseDups _).filter _

namespace Context.Reordered

variable {context other : Context} (h : context.Reordered other)
include h

theorem claims :
  context.claims.Perm other.claims
  := (((h.functions.map _).append (h.structs.map _)).append (h.interfaces.flatMap_right _)).append
    (h.unions.flatMap_right _)

/-- An id is claimed as often as before. -/
theorem length_sites (id : EntityId) :
  (other.sites id).length = (context.sites id).length
  := by
  simp only [sites, List.length_map]
  exact (h.claims.filter _).length_eq.symm

theorem duplicateIds :
  context.duplicateIds.Perm other.duplicateIds
  := by
  apply (List.perm_ext_iff_of_nodup (nodup_duplicateIds context) (nodup_duplicateIds other)).mpr
  intro id
  simp only [Context.duplicateIds, List.mem_filter, List.mem_eraseDups, h.length_sites,
    (h.claims.map (·.id)).mem_iff]

theorem contains_duplicateIds (id : EntityId) :
  other.duplicateIds.contains id = context.duplicateIds.contains id
  := by
  rw [Bool.eq_iff_iff, List.contains_iff_mem, List.contains_iff_mem, h.duplicateIds.mem_iff]

/-- What is left without the duplicated ids is reordered too. -/
theorem unique :
  (Scope.unique context context.duplicateIds).Reordered (Scope.unique other other.duplicateIds)
  := by
  constructor <;> simp only [Scope.unique, h.contains_duplicateIds]
  · exact h.functions.filter _
  · exact h.structs.filter _
  · exact h.interfaces.filter _
  · exact h.unions.filter _

theorem typeHeaders :
  context.typeHeaders.Perm other.typeHeaders
  := ((h.structs.map _).append (h.interfaces.flatMap_right _)).append (h.unions.map _)

theorem declaredTypes (module : ModuleId) :
  (Scope.declaredTypes module context).Perm (Scope.declaredTypes module other)
  := ((h.structs.map _).append (h.interfaces.flatMap_right _)).append (h.unions.map _)

theorem declaredFunctions (module : ModuleId) :
  (Scope.declaredFunctions module context).Perm (Scope.declaredFunctions module other)
  := (((h.functions.map _).append (h.structs.map _)).append (h.interfaces.flatMap_right _)).append
    (h.unions.flatMap_right _)

end Context.Reordered

/-! ### Distinct ids -/

/-- Of ids that are claimed those that are not duplicated are distinct. -/
theorem nodup_filter_of_claims {context : Context} {ids : List EntityId}
    (h : ids.Sublist (context.claims.map (·.id))) :
  (ids.filter fun id => !context.duplicateIds.contains id).Nodup
  := by
  rw [List.nodup_iff_count_le_one]
  intro id
  by_cases hid : id ∈ context.duplicateIds
  · have hnot : id ∉ ids.filter fun id => !context.duplicateIds.contains id := by
      simp [hid]
    rw [List.count_eq_zero_of_not_mem hnot]
    exact Nat.zero_le 1
  · calc (ids.filter fun id => !context.duplicateIds.contains id).count id
        ≤ ids.count id := List.filter_sublist.count_le id
      _ ≤ (context.claims.map (·.id)).count id := h.count_le id
      _ ≤ 1 := count_claims_le_one hid

/-- The ids of the declarations of a context, of each kind, that are not duplicated are distinct. -/
theorem nodup_unique (context : Context) :
  let unique := Scope.unique context context.duplicateIds
  (unique.functions.map (·.id)).Nodup ∧ (unique.structs.map (·.id)).Nodup
    ∧ (unique.interfaces.map (·.id)).Nodup ∧ (unique.unions.map (·.id)).Nodup
  := by
  have hids := claims_ids context
  have hpart : ∀ {α : Type} {idOf : α → EntityId} {items : List α},
      (items.map idOf).Sublist (context.claims.map (·.id)) →
        ((items.filter fun item => !context.duplicateIds.contains (idOf item)).map idOf).Nodup := by
    intro α idOf items hsublist
    have hdistinct := nodup_filter_of_claims hsublist
    rwa [List.filter_map] at hdistinct
  rw [hids] at hpart
  refine ⟨hpart (List.sublist_append_left _ _), hpart ?_, hpart ?_, hpart ?_⟩
  · exact (List.sublist_append_left _ _).trans (List.sublist_append_right _ _)
  · exact ((map_sublist_flatMap _ (by simp)).trans (List.sublist_append_left _ _)).trans
      ((List.sublist_append_right _ _).trans (List.sublist_append_right _ _))
  · exact ((map_sublist_flatMap _ (by simp)).trans (List.sublist_append_right _ _)).trans
      ((List.sublist_append_right _ _).trans (List.sublist_append_right _ _))

/-- The headers of the named types whose ids are not duplicated have distinct ids. -/
theorem nodup_typeHeaders (context : Context) :
  ((context.typeHeaders.filter fun h => !context.duplicateIds.contains h.1).map (·.1)).Nodup
  := by
  have hsublist : (context.typeHeaders.map (·.1)).Sublist (context.claims.map (·.id)) := by
    have hunions : (context.unions.map (·.id)).Sublist (context.unions.flatMap fun u =>
        u.id :: u.options.map (fun o => u.id.child o.name) ++ [u.id.whenId]) :=
      map_sublist_flatMap _ (by simp)
    simp only [claims_ids, Context.typeHeaders, List.map_append, List.map_map, List.map_flatMap,
      Function.comp_def, List.map_cons, List.map_nil, List.append_assoc]
    exact (((List.Sublist.refl _).append ((List.Sublist.refl _).append hunions)).trans
      (List.sublist_append_right _ _))
  have hdistinct := nodup_filter_of_claims hsublist
  rwa [List.filter_map] at hdistinct

end TypedModules
