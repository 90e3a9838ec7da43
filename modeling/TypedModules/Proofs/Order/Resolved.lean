import TypedModules.Proofs.Graph.Reachable
import TypedModules.Proofs.Renamed.Types
import TypedModules.Proofs.Resolve.Order

/-!
# Resolution among entries in another order

A scope holds what is visible in some order, but what a reference stands for depends on which entries
it may mean and not on where they stand: if there is more than one, then they are named in their own
order.  So two scopes resolve references alike if they hold the same entries, with modules renamed,
as far as a reference does not tell a module from the renamed one.

The main statements are `resolve_mirrors` and `hasName_mirrors`.
-/

namespace TypedModules

/-! ### Sorting -/

instance : Std.LawfulEqOrd ModuleId where
  eq_of_compare := eq_of_compare_moduleId

instance : Std.LawfulEqOrd Entity where
  eq_of_compare {a b} h := by
    obtain ⟨m, ⟨s⟩⟩ := a
    obtain ⟨m', ⟨s'⟩⟩ := b
    simp only [compare, instOrdEntity.ord, instOrdEntityId.ord, Ordering.then_eq_eq,
      and_true] at h
    obtain rfl : m = m' := eq_of_compare_moduleId h.1
    obtain rfl : s = s' := Std.LawfulEqOrd.eq_of_compare h.2
    rfl

/-- Lists of the same items are sorted into the same list. -/
theorem mergeSort_eq_of_perm {α : Type} [Ord α] [Std.TransOrd α] [Std.LawfulEqOrd α]
    {as bs : List α} (h : as.Perm bs) :
  as.mergeSort (fun a b => (compare a b).isLE) = bs.mergeSort fun a b => (compare a b).isLE
  := by
  have hsorted : ∀ items : List α, (items.mergeSort fun a b => (compare a b).isLE).Pairwise
      fun a b => (compare a b).isLE = true := by
    apply List.pairwise_mergeSort
    · exact fun a b c => Std.TransCmp.isLE_trans
    · intro a b
      have hswap : compare b a = (compare a b).swap := Std.OrientedCmp.eq_swap
      rw [hswap]
      cases compare a b <;> rfl
  have hperm : (as.mergeSort fun a b => (compare a b).isLE).Perm
      (bs.mergeSort fun a b => (compare a b).isLE) :=
    (List.mergeSort_perm as _).trans (h.trans (List.mergeSort_perm bs _).symm)
  refine hperm.eq_of_pairwise ?_ (hsorted as) (hsorted bs)
  intro a b _ _ hab hba
  exact Std.LawfulEqOrd.eq_of_compare (Std.OrientedCmp.isLE_antisymm hab hba)

/-! ### Scopes -/

theorem Visible.rename_refl (entry : Visible) :
  entry.rename .refl = entry
  := rfl

section Scopes

variable {σ : Renaming} {scope other : Scope}
  (hentries : ∀ space, ((scope.entries space).map (Visible.rename σ)).Perm (other.entries space))
  (hduplicates : ∀ id, other.duplicates.contains id = scope.duplicates.contains id)
include hentries hduplicates

/-- A stable reference stands for the same thing among renamed entries in another order. -/
theorem resolve_mirrors (hhome : other.home = σ.module scope.home) (space : Namespace)
    {reference : Reference} (hstable : reference.Stable σ) :
  ResolutionMirrors σ (scope.resolve space reference) (other.resolve space reference)
  := by
  have hmeans : other.meansDuplicate reference = scope.meansDuplicate reference := by
    rw [Scope.meansDuplicate, Scope.meansDuplicate, hduplicates, hhome, hstable]
  have hcandidates : ((scope.candidates space reference).map (Visible.rename σ)).Perm
      (other.candidates space reference) := by
    have hperm := (hentries space).filter fun entry =>
      entry.entity.id == reference.id && reference.admits entry.entity.module
    rw [List.filter_map] at hperm
    simpa only [Function.comp_def, Visible.rename, Entity.rename, hstable _, Scope.candidates]
      using hperm
  unfold Scope.resolve
  rw [hmeans]
  generalize scope.candidates space reference = candidates at hcandidates
  generalize other.candidates space reference = others at hcandidates
  split
  · exact .error rfl fun _ => rfl
  · rcases candidates with _ | ⟨first, _ | ⟨second, rest⟩⟩
    · obtain rfl := List.nil_perm.mp hcandidates
      exact .error rfl fun _ => rfl
    · obtain rfl := List.singleton_perm.mp hcandidates
      exact .ok first
    · rcases others with _ | ⟨first', _ | ⟨second', rest'⟩⟩
      · cases hcandidates.eq_nil
      · cases List.perm_singleton.mp hcandidates
      · refine .error rfl ?_
        rintro rfl
        rw [map_eq_self fun entry _ => entry.rename_refl] at hcandidates
        have hsorted : ((first' :: second' :: rest').map (·.entity)).mergeSort Entity.le
            = ((first :: second :: rest).map (·.entity)).mergeSort Entity.le :=
          mergeSort_eq_of_perm (hcandidates.map (·.entity)).symm
        rw [ResolutionError.message, ResolutionError.message, hsorted]

theorem hasName_mirrors (space : Namespace) (id : EntityId) :
  other.hasName space id = scope.hasName space id
  := by
  rw [Scope.hasName, Scope.hasName, hduplicates, ← (hentries space).any_eq, List.any_map]
  rfl

end Scopes

end TypedModules
