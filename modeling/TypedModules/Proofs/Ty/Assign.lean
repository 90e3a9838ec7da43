import TypedModules.Proofs.Ty.Same

/-!
# Types for named parameters

An assignment gives a type to every name of a type parameter.  Assigning types to the named
parameters of a type commutes with choosing types for its internal ones, and it respects
sameness.  Internalizing named parameters and choosing types for them comes to assigning them
these types.
-/

namespace TypedModules

/-- A type for every name of a type parameter. -/
abbrev Assignment := String → Ty

namespace Assignment

/-- Whether all types of an assignment are formed. -/
def Formed (scope : TyScope) (σ : Assignment) : Prop :=
  ∀ name, (σ name).Formed scope 0

/-- The assignment that gives the types of a list to the names at the same positions, and is
another one elsewhere. -/
def choose (σ : Assignment) (names : List String) (types : List Ty) : Assignment :=
  fun name => ((names.idxOf? name).bind (types[·]?)).getD (σ name)

theorem Formed.choose {scope : TyScope} {σ : Assignment} (h : σ.Formed scope)
    {names : List String} {types : List Ty} (htypes : ∀ type ∈ types, type.Formed scope 0) :
  (σ.choose names types).Formed scope
  := by
  intro name
  unfold Assignment.choose
  cases e : (names.idxOf? name).bind (types[·]?) with
  | none => exact h name
  | some type =>
    obtain ⟨index, -, hget⟩ := Option.bind_eq_some_iff.mp e
    exact htypes type (List.mem_of_getElem? hget)

end Assignment

namespace Ty

mutual

/-- The type with every named parameter replaced. -/
def assign (σ : Assignment) : Ty → Ty
  | .integer => .integer
  | .natural => .natural
  | .boolean => .boolean
  | .list element => .list (element.assign σ)
  | .tryOf inner => .tryOf (inner.assign σ)
  | .function isReference typeParams args output =>
    .function isReference typeParams (assignAll σ args) (output.assign σ)
  | .named isReference entity written params =>
    .named isReference entity written (assignAll σ params)
  | .param p => σ p.name
  | .internal index => .internal index

/-- The types with every named parameter replaced. -/
def assignAll (σ : Assignment) : List Ty → List Ty
  | [] => []
  | type :: rest => type.assign σ :: assignAll σ rest

end

@[simp]
theorem assignAll_eq_map (σ : Assignment) (types : List Ty) :
  assignAll σ types = types.map (assign σ)
  := by
  induction types with
  | nil => rfl
  | cons type rest ih => simp [assignAll, ih]

section Assign

variable {scope scope' : TyScope} {σ : Assignment} {type : Ty} {allowed : Nat}

/-- Assigned types are formed, so the type stays formed. -/
theorem Formed.assign (h : type.Formed scope allowed)
    (harity : ∀ entity n, scope.arity entity n → scope'.arity entity n)
    (hσ : σ.Formed scope') :
  (type.assign σ).Formed scope' allowed
  := by
  induction type using type_induction generalizing allowed with
  | integer | natural | boolean => trivial
  | list element ih | tryOf element ih =>
    simp only [Formed, Ty.assign] at h ⊢
    exact ih h
  | function isReference typeParams args output ihArgs ihOutput =>
    simp only [Formed, areFormed_iff, Ty.assign, assignAll_eq_map, List.forall_mem_map] at h ⊢
    exact ⟨fun arg harg => ihArgs arg harg (h.1 arg harg), ihOutput h.2⟩
  | named isReference entity written params ih =>
    simp only [Formed, areFormed_iff, Ty.assign, assignAll_eq_map, List.length_map,
      List.forall_mem_map] at h ⊢
    exact ⟨harity _ _ h.1, fun param hparam => ih param hparam (h.2 param hparam)⟩
  | param p => exact (hσ p.name).weaken (Nat.zero_le allowed)
  | internal index => exact h

/-- Only the named parameters in scope count. -/
theorem Formed.assign_congr (h : type.Formed scope allowed) {σ' : Assignment}
    (hσ : ∀ p, scope.allows p → σ p.name = σ' p.name) :
  type.assign σ = type.assign σ'
  := by
  induction type using type_induction generalizing allowed with
  | integer | natural | boolean | internal => rfl
  | list element ih | tryOf element ih =>
    simp only [Formed] at h
    simp only [Ty.assign, ih h]
  | function isReference typeParams args output ihArgs ihOutput =>
    simp only [Formed, areFormed_iff] at h
    simp only [Ty.assign, assignAll_eq_map, ihOutput h.2]
    rw [List.map_congr_left fun arg harg => ihArgs arg harg (h.1 arg harg)]
  | named isReference entity written params ih =>
    simp only [Formed, areFormed_iff] at h
    simp only [Ty.assign, assignAll_eq_map]
    rw [List.map_congr_left fun param hparam => ih param hparam (h.2 param hparam)]
  | param p => exact hσ p h

/-- Where no named parameter is in scope there is nothing to replace. -/
theorem Formed.assign_eq (h : type.Formed scope allowed) (hnone : ∀ p, ¬scope.allows p)
    (σ : Assignment) :
  type.assign σ = type
  := by
  induction type using type_induction generalizing allowed with
  | integer | natural | boolean | internal => rfl
  | list element ih | tryOf element ih =>
    simp only [Formed] at h
    simp only [Ty.assign, ih h]
  | function isReference typeParams args output ihArgs ihOutput =>
    simp only [Formed, areFormed_iff] at h
    simp only [Ty.assign, assignAll_eq_map, ihOutput h.2]
    rw [List.map_congr_left fun arg harg => ihArgs arg harg (h.1 arg harg), List.map_id']
  | named isReference entity written params ih =>
    simp only [Formed, areFormed_iff] at h
    simp only [Ty.assign, assignAll_eq_map]
    rw [List.map_congr_left fun param hparam => ih param hparam (h.2 param hparam), List.map_id']
  | param p => exact absurd h (hnone p)

/-- What replaces a named parameter is assigned its types itself. -/
theorem assign_substitute (type : Ty) (choices : Choices) (σ : Assignment) :
  (type.substitute choices).assign σ
    = type.assign fun name => ((choices.get? name).map (Ty.assign σ)).getD (σ name)
  := by
  induction type using type_induction with
  | integer | natural | boolean | internal => rfl
  | list element ih | tryOf element ih => simp only [Ty.substitute, Ty.assign, ih]
  | function isReference typeParams args output ihArgs ihOutput =>
    simp only [Ty.substitute, Ty.assign, substituteAll_eq_map, assignAll_eq_map, ihOutput,
      List.map_map, Function.comp_def]
    rw [List.map_congr_left fun arg harg => ihArgs arg harg]
  | named isReference entity written params ih =>
    simp only [Ty.substitute, Ty.assign, substituteAll_eq_map, assignAll_eq_map, List.map_map,
      Function.comp_def]
    rw [List.map_congr_left fun param hparam => ih param hparam]
  | param p =>
    simp only [Ty.substitute, Ty.assign]
    cases choices.get? p.name <;> rfl

/-- Assigned types have no internal parameters, so it does not matter whether types are chosen
for internal parameters before or after. -/
theorem assign_instantiate (type : Ty) (chosen : List (Option Ty)) (hσ : σ.Formed scope) :
  (type.instantiate chosen).assign σ
    = (type.assign σ).instantiate (chosen.map (·.map (Ty.assign σ)))
  := by
  induction type using type_induction generalizing chosen with
  | integer | natural | boolean => rfl
  | list element ih | tryOf element ih => simp only [Ty.instantiate, Ty.assign, ih]
  | function isReference typeParams args output ihArgs ihOutput =>
    simp only [Ty.instantiate, Ty.assign, instantiateAll_eq_map, assignAll_eq_map, ihOutput,
      List.map_map, List.map_append, Function.comp_def, Option.map_none]
    rw [List.map_congr_left fun arg harg => ihArgs arg harg _]
    simp only [List.map_append, List.map_map, Function.comp_def, Option.map_none]
  | named isReference entity written params ih =>
    simp only [Ty.instantiate, Ty.assign, instantiateAll_eq_map, assignAll_eq_map, List.map_map,
      Function.comp_def]
    rw [List.map_congr_left fun param hparam => ih param hparam chosen]
  | param p => exact ((hσ p.name).instantiate_eq _).symm
  | internal index =>
    simp only [Ty.instantiate, Ty.assign, instantiateIndex, List.getElem?_map, ← List.map_take,
      openCount_map, List.length_map]
    cases chosen[index]? with
    | none => rfl
    | some c => cases c <;> rfl

/-- Choosing types for named parameters that have become internal comes to assigning these
types to them. -/
theorem instantiate_internalize {names : List String} {chosen : List Ty} {offset : Nat}
    (h : type.Formed scope offset) (hallows : ∀ p, scope.allows p → p.name ∈ names)
    (hlength : chosen.length = names.length) (σ : Assignment) :
  (type.internalize names offset).instantiate (List.replicate offset none ++ chosen.map some)
    = type.assign (σ.choose names chosen)
  := by
  induction type using type_induction generalizing offset with
  | integer | natural | boolean => rfl
  | list element ih | tryOf element ih =>
    simp only [Formed] at h
    simp only [Ty.internalize, Ty.instantiate, Ty.assign, ih h]
  | function isReference typeParams args output ihArgs ihOutput =>
    simp only [Formed, areFormed_iff] at h
    simp only [Ty.internalize, Ty.instantiate, Ty.assign, internalizeAll_eq_map,
      instantiateAll_eq_map, assignAll_eq_map, map_none_append_replicate, ihOutput h.2,
      List.map_map, Function.comp_def]
    rw [List.map_congr_left fun arg harg => ihArgs arg harg (h.1 arg harg)]
  | named isReference entity written params ih =>
    simp only [Formed, areFormed_iff] at h
    simp only [Ty.internalize, Ty.instantiate, Ty.assign, internalizeAll_eq_map,
      instantiateAll_eq_map, assignAll_eq_map, List.map_map, Function.comp_def]
    rw [List.map_congr_left fun param hparam => ih param hparam (h.2 param hparam)]
  | param p =>
    obtain ⟨index, hindex⟩ : ∃ index, names.idxOf? p.name = some index := by
      rw [← Option.isSome_iff_exists, List.isSome_idxOf?]
      exact hallows p h
    obtain ⟨c, hc⟩ : ∃ c, chosen[index]? = some c :=
      ⟨_, List.getElem?_eq_getElem (hlength ▸ (idxOf?_eq_some hindex).2)⟩
    have hlookup : (List.replicate offset none ++ chosen.map some)[offset + index]?
        = some (some c) := by
      rw [List.getElem?_append_right (by simp), List.length_replicate, Nat.add_sub_cancel_left,
        List.getElem?_map, hc, Option.map_some]
    simp only [Ty.internalize, hindex, Ty.instantiate, instantiateIndex, hlookup, Ty.assign,
      Assignment.choose, Option.bind_some, hc, Option.getD_some]
  | internal index => exact instantiate_of_formed h _

end Assign

/-- The core of a type with assigned types is made of cores. -/
theorem core_assign (type : Ty) (σ : Assignment) :
  (type.assign σ).core = type.core.assign fun name => (σ name).core
  := by
  induction type using type_induction with
  | integer | natural | boolean | internal | param => rfl
  | list element ih | tryOf element ih => simp only [Ty.assign, core, ih]
  | function isReference typeParams args output ihArgs ihOutput =>
    simp only [Ty.assign, core, assignAll_eq_map, cores_eq_map, ihOutput, List.map_map,
      Function.comp_def]
    rw [List.map_congr_left fun arg harg => ihArgs arg harg]
  | named isReference entity written params ih =>
    simp only [Ty.assign, core, assignAll_eq_map, cores_eq_map, List.map_map, Function.comp_def]
    rw [List.map_congr_left fun param hparam => ih param hparam]

/-- Same types stay the same when types are assigned to their named parameters. -/
theorem same_assign {a b : Ty} (h : a.same b = true) (σ : Assignment) :
  (a.assign σ).same (b.assign σ) = true
  := by
  rw [same_iff] at h ⊢
  rw [core_assign, core_assign, h]

theorem sameAll_assign {as bs : List Ty} (h : sameAll as bs = true) (σ : Assignment) :
  sameAll (as.map (assign σ)) (bs.map (assign σ)) = true
  := by
  rw [sameAll_iff] at h ⊢
  have hcore : ∀ types : List Ty, (types.map (assign σ)).map core
      = (types.map core).map (assign fun name => (σ name).core) := by
    intro types
    simp [core_assign, Function.comp_def]
  rw [hcore, hcore, h]

end Ty
end TypedModules
