import Mathlib.Data.List.Nodup
import Mathlib.Data.List.Perm.Subperm
import Std.Data.String.ToNat
import TypedModules.Typed.Entity

/-!
# Unused names

Among one more candidate than there are names one is unused, so the type parameter that stands
for the data of an instance or for the result of a case distinction has a name of its own.
-/

namespace TypedModules

theorem nodup_candidateNames (base : String) (n : Nat) :
  (candidateNames base n).Nodup
  := by
  rw [candidateNames, List.nodup_cons]
  constructor
  · intro h
    obtain ⟨i, -, e⟩ := List.mem_map.mp h
    simp at e
  · apply List.nodup_range.map
    intro i j e
    have hsame : Nat.repr (i + 2) = Nat.repr (j + 2) := by simpa using e
    have := Nat.repr_injective hsame
    omega

/-- The name that is chosen is not taken. -/
theorem unusedName_not_mem (base : String) (taken : List TypeParam) :
  unusedName base taken ∉ taken.map (·.name)
  := by
  unfold unusedName
  cases hfind : (candidateNames base taken.length).find?
      fun name => taken.all (·.name != name) with
  | some name =>
    intro hmem
    obtain ⟨param, hparam, hname⟩ := List.mem_map.mp hmem
    have hfree : taken.all (·.name != name) = true := by simpa using List.find?_some hfind
    simpa [hname] using List.all_eq_true.mp hfree param hparam
  | none =>
    -- otherwise all candidates are taken, though there is one more of them
    rw [List.find?_eq_none] at hfind
    have hsub : candidateNames base taken.length ⊆ taken.map (·.name) := by
      intro name hname
      have htaken := hfind name hname
      simp only [List.all_eq_true, not_forall, bne_iff_ne, ne_eq, not_not] at htaken
      obtain ⟨param, hparam, rfl⟩ := htaken
      exact List.mem_map_of_mem hparam
    have hle := ((nodup_candidateNames base taken.length).subperm hsub).length_le
    simp only [candidateNames, List.length_cons, List.length_map, List.length_range] at hle
    omega

theorem nodup_adapterParams {interface : Interface}
    (h : (interface.typeParams.map (·.name)).Nodup) :
  (interface.adapterParams.map (·.name)).Nodup
  := List.nodup_cons.mpr ⟨unusedName_not_mem "A" interface.typeParams, h⟩

theorem nodup_whenParams {union : Union} (h : (union.typeParams.map (·.name)).Nodup) :
  ((union.typeParams ++ [union.resultParam]).map (·.name)).Nodup
  := by
  rw [List.map_append, List.nodup_append]
  refine ⟨h, List.nodup_singleton _, ?_⟩
  intro name hname other hother
  rw [List.map_singleton, List.mem_singleton] at hother
  rintro rfl
  rw [hother] at hname
  exact unusedName_not_mem "Result" union.typeParams hname

end TypedModules
