import TypedModules.Proofs.Check.Data
import TypedModules.Proofs.Declared.Adapter

/-!
# Instances of plain data

A type has another one as an instance if something is put in the second for the type parameters
that stand in the first, and plain data for those of plain data.  What the expansion of an instance
holds comes from the type or from what is put in, so that instances of plain data are plain data:
`isData_of_instance`.
-/

namespace TypedModules

/-- Related arguments put what is related for the parameters of a declaration. -/
theorem Choices.related_get?_ofParams {R : Ty → Ty → Prop} {params : List TypeParam}
    {args args' : List Ty} (hargs : List.Forall₂ R args args') (name : String) :
  Option.Rel R ((ofParams params args).get? name) ((ofParams params args').get? name)
  := by
  induction params generalizing args args' with
  | nil => exact .none
  | cons param params ih =>
    cases hargs with
    | nil => exact .none
    | @cons arg arg' args args' harg hargs =>
      rw [get?_ofParams_cons, get?_ofParams_cons]
      have hrest := ih hargs
      generalize (ofParams params args).get? name = found at hrest ⊢
      generalize (ofParams params args').get? name = found' at hrest ⊢
      cases hrest with
      | some hfound => exact .some hfound
      | none =>
        rw [Option.none_or, Option.none_or]
        split
        · exact .some harg
        · exact .none

namespace Setting

/-- Whether a type has another one as an instance.  What is no plain data anyway, a function type or
an internal parameter, has any. -/
inductive HasInstance (setting : Setting) : Ty → Ty → Prop
  | integer : HasInstance setting .integer .integer
  | natural : HasInstance setting .natural .natural
  | boolean : HasInstance setting .boolean .boolean
  | list {element element' : Ty} :
    HasInstance setting element element' →
    HasInstance setting (.list element) (.list element')
  | tryOf {inner inner' : Ty} :
    HasInstance setting inner inner' →
    HasInstance setting (.tryOf inner) (.tryOf inner')
  | named {isReference : Bool} {entity : Entity} {written written' : Reference}
      {args args' : List Ty} :
    List.Forall₂ (HasInstance setting) args args' →
    HasInstance setting (.named isReference entity written args)
      (.named isReference entity written' args')
  | param {p : TypeParam} {type : Ty} :
    (p.typeClass = some .data → setting.isData type = true) →
    HasInstance setting (.param p) type
  | function {isReference : Bool} {typeParams : List TypeParam} {args : List Ty}
      {output type : Ty} :
    HasInstance setting (.function isReference typeParams args output) type
  | internal {index : Nat} {type : Ty} : HasInstance setting (.internal index) type

variable {setting : Setting}

@[simp]
theorem isData_param (p : TypeParam) :
  setting.isData (.param p) = (p.typeClass == some .data)
  := rfl

/-- A type is an instance of itself. -/
theorem HasInstance.refl (type : Ty) :
  setting.HasInstance type type
  := by
  induction type using type_induction with
  | integer => exact .integer
  | natural => exact .natural
  | boolean => exact .boolean
  | list element ih => exact .list ih
  | tryOf inner ih => exact .tryOf ih
  | function => exact .function
  | named isReference entity written params ih => exact .named (List.forall₂_same.mpr ih)
  | param p => exact .param fun hdata => by simp [hdata]
  | internal => exact .internal

/-- Types of a declaration have the instances that their arguments have. -/
theorem hasInstance_substitute {params : List TypeParam} {args args' : List Ty}
    (hargs : List.Forall₂ setting.HasInstance args args') (type : Ty) :
  setting.HasInstance (type.substitute (.ofParams params args))
    (type.substitute (.ofParams params args'))
  := by
  induction type using type_induction with
  | integer => exact .integer
  | natural => exact .natural
  | boolean => exact .boolean
  | list element ih => exact .list ih
  | tryOf inner ih => exact .tryOf ih
  | function => exact .function
  | internal => exact .internal
  | named isReference entity written params ih =>
    refine .named ?_
    rw [Ty.substituteAll_eq_map, Ty.substituteAll_eq_map, List.forall₂_map_left_iff,
      List.forall₂_map_right_iff, List.forall₂_same]
    exact ih
  | param p =>
    have hfound := @Choices.related_get?_ofParams _ params _ _ hargs p.name
    rw [Ty.substitute, Ty.substitute]
    generalize (Choices.ofParams params args).get? p.name = found at hfound ⊢
    generalize (Choices.ofParams params args').get? p.name = found' at hfound ⊢
    cases hfound with
    | some hinstance => exact hinstance
    | none => exact .refl (.param p)

/-- The parts of an entity have the instances that its arguments have. -/
theorem exists_parts_of_instance {entity : Entity} {args args' parts' : List Ty}
    (hargs : List.Forall₂ setting.HasInstance args args')
    (h : setting.parts? entity args' = some parts') :
  ∃ parts, setting.parts? entity args = some parts
    ∧ ∀ part' ∈ parts', ∃ part ∈ parts, setting.HasInstance part part'
  := by
  obtain ⟨params, written, hparts⟩ := setting.parts?_eq_written entity
  rw [hparts, Option.map_eq_some_iff] at h
  obtain ⟨types, rfl, rfl⟩ := h
  refine ⟨_, hparts args, ?_⟩
  rw [List.forall_mem_map]
  exact fun type hmem => ⟨_, List.mem_map_of_mem hmem, hasInstance_substitute hargs type⟩

/-- Nothing is barred in what the expansion of an instance of plain data holds, on a path that
repeats nothing and avoids what is being unfolded. -/
theorem not_barred_of_instance {path visiting : List Entity} {type type' inner : Ty}
    (hinner : setting.Expands path type' inner) (hinstance : setting.HasInstance type type')
    (hclean : setting.Clean visiting type) (hnodup : path.Nodup)
    (hfree : List.Disjoint path visiting) :
  ¬setting.Barred inner
  := by
  have hput : ∀ {p : TypeParam} {path : List Entity} {type' inner : Ty},
      (p.typeClass = some .data → setting.isData type' = true) → ¬setting.Barred (.param p) →
      setting.Expands path type' inner → path.Nodup → ¬setting.Barred inner := by
    intro p path type' inner hdata hparam hinner hnodup
    refine (setting.isData_iff _).mp (hdata ?_) path inner hinner hnodup
    by_contra hclass
    exact hparam (.param hclass)
  induction hinner generalizing type visiting with
  | refl type' =>
    have htype := hclean.not_barred
    cases hinstance with
    | integer | natural | boolean | list | tryOf => exact nofun
    | @named _ entity _ _ args args' hargs =>
      have hparts : setting.parts? entity args' = none → setting.parts? entity args = none := by
        rw [← Option.not_isSome_iff_eq_none, ← Option.not_isSome_iff_eq_none,
          isSome_parts? args args']
        exact id
      rw [barred_named] at htype ⊢
      exact fun h => htype (h.imp_right (Or.imp_right (And.imp_right hparts)))
    | param hdata => exact hput hdata htype (.refl _) List.nodup_nil
    | function => exact absurd .function htype
    | internal => exact absurd .internal htype
  | list hrest ih =>
    cases hinstance with
    | list hinstance => exact ih hinstance (clean_list.mp hclean) hnodup hfree
    | param hdata => exact hput hdata hclean.not_barred hrest.list hnodup
    | function => exact absurd .function hclean.not_barred
    | internal => exact absurd .internal hclean.not_barred
  | tryOf hrest ih =>
    cases hinstance with
    | tryOf hinstance => exact ih hinstance (clean_tryOf.mp hclean) hnodup hfree
    | param hdata => exact hput hdata hclean.not_barred hrest.tryOf hnodup
    | function => exact absurd .function hclean.not_barred
    | internal => exact absurd .internal hclean.not_barred
  | arg hnative harg hrest ih =>
    cases hinstance with
    | named hargs =>
      obtain ⟨arg, hmem, hinstance⟩ := exists_related_left hargs harg
      exact ih hinstance (((clean_native hnative).mp hclean).2.2 arg hmem) hnodup hfree
    | param hdata => exact hput hdata hclean.not_barred (.arg hnative harg hrest) hnodup
    | function => exact absurd .function hclean.not_barred
    | internal => exact absurd .internal hclean.not_barred
  | part hnative hparts hpart hrest ih =>
    cases hinstance with
    | named hargs =>
      obtain ⟨parts, hparts, hrelated⟩ := exists_parts_of_instance hargs hparts
      obtain ⟨part, hmem, hinstance⟩ := hrelated _ hpart
      rw [List.nodup_cons] at hnodup
      rw [List.disjoint_cons_left] at hfree
      have hclean := ((clean_shape hnative hparts).mp hclean).2.resolve_left hfree.1 part hmem
      exact ih hinstance hclean hnodup.2 (List.disjoint_cons_right.mpr ⟨hnodup.1, hfree.2⟩)
    | param hdata => exact hput hdata hclean.not_barred (.part hnative hparts hpart hrest) hnodup
    | function => exact absurd .function hclean.not_barred
    | internal => exact absurd .internal hclean.not_barred

/-- Instances of plain data are plain data. -/
theorem isData_of_instance {type type' : Ty} (hinstance : setting.HasInstance type type')
    (h : setting.isData type = true) :
  setting.isData type' = true
  := by
  rw [isData_iff] at h ⊢
  intro path inner hinner hnodup
  refine not_barred_of_instance hinner hinstance (fun path inner hinner hnodup _ => ?_) hnodup
    (List.disjoint_nil_right path)
  exact h path inner hinner hnodup

end Setting
end TypedModules
