import TypedModules.Ty.Function

/-!
# Formed types

A type is formed within `allowed` internal parameters if each internal parameter belongs to
one of its own function types or is one of those around it, each named type has as many
arguments as its declaration has parameters, and each named parameter is in scope.  The
operations on types keep types formed.
-/

namespace TypedModules

/-- What types depend on: with how many arguments an entity is a type, and which named type
parameters are in scope. -/
structure TyScope where
  arity : Entity → Nat → Prop
  allows : TypeParam → Prop

/-- The scope in which every closed type is formed. -/
def TyScope.all : TyScope where
  arity _ _ := True
  allows _ := True

/-- Induction over a type and the lists of types inside it. -/
theorem type_induction {P : Ty → Prop} (integer : P .integer) (natural : P .natural)
    (boolean : P .boolean) (list : ∀ element, P element → P (.list element))
    (tryOf : ∀ inner, P inner → P (.tryOf inner))
    (function : ∀ isReference typeParams args output, (∀ arg ∈ args, P arg) → P output →
      P (.function isReference typeParams args output))
    (named : ∀ isReference entity written params, (∀ param ∈ params, P param) →
      P (.named isReference entity written params))
    (param : ∀ p, P (.param p)) (internal : ∀ index, P (.internal index)) (type : Ty) :
  P type
  := @Ty.rec P (fun types => ∀ type ∈ types, P type) integer natural boolean list tryOf function
    named param internal (by simp) (fun _ _ h hs => List.forall_mem_cons.mpr ⟨h, hs⟩) type

namespace Ty

mutual

/-- Whether a type is formed within `allowed` internal parameters. -/
def Formed (scope : TyScope) (allowed : Nat) : Ty → Prop
  | .integer => True
  | .natural => True
  | .boolean => True
  | .list element => element.Formed scope allowed
  | .tryOf inner => inner.Formed scope allowed
  | .function _ typeParams args output =>
    AreFormed scope (allowed + typeParams.length) args
      ∧ output.Formed scope (allowed + typeParams.length)
  | .named _ entity _ params => scope.arity entity params.length ∧ AreFormed scope allowed params
  | .param p => scope.allows p
  | .internal index => index < allowed

/-- Whether all types of a list are formed. -/
def AreFormed (scope : TyScope) (allowed : Nat) : List Ty → Prop
  | [] => True
  | type :: rest => type.Formed scope allowed ∧ AreFormed scope allowed rest

end

@[simp]
theorem areFormed_iff {scope : TyScope} {allowed : Nat} {types : List Ty} :
  AreFormed scope allowed types ↔ ∀ type ∈ types, type.Formed scope allowed
  := by
  induction types with
  | nil => simp [AreFormed]
  | cons type rest ih => simp [AreFormed, ih]

section Formed

variable {scope scope' : TyScope} {allowed allowed' : Nat}

/-- A type stays formed in a scope that holds more. -/
theorem Formed.mono {type : Ty} (h : type.Formed scope allowed)
    (harity : ∀ entity n, scope.arity entity n → scope'.arity entity n)
    (hallows : ∀ p, scope.allows p → scope'.allows p) (hle : allowed ≤ allowed') :
  type.Formed scope' allowed'
  := by
  induction type using type_induction generalizing allowed allowed' with
  | integer | natural | boolean => trivial
  | list element ih | tryOf element ih =>
    simp only [Formed] at h ⊢
    exact ih h hle
  | function isReference typeParams args output ihArgs ihOutput =>
    simp only [Formed, areFormed_iff] at h ⊢
    exact ⟨fun arg harg => ihArgs arg harg (h.1 arg harg) (by omega),
      ihOutput h.2 (by omega)⟩
  | named isReference entity written params ih =>
    simp only [Formed, areFormed_iff] at h ⊢
    exact ⟨harity _ _ h.1, fun param hparam => ih param hparam (h.2 param hparam) hle⟩
  | param p =>
    simp only [Formed] at h ⊢
    exact hallows p h
  | internal index =>
    simp only [Formed] at h ⊢
    omega

theorem Formed.weaken {type : Ty} (h : type.Formed scope allowed) (hle : allowed ≤ allowed') :
  type.Formed scope allowed'
  := h.mono (fun _ _ => id) (fun _ => id) hle

/-- What is formed is closed. -/
theorem Formed.isClosedWithin {type : Ty}
    (h : type.Formed scope allowed) :
  type.isClosedWithin allowed = true
  := by
  induction type using type_induction generalizing allowed with
  | integer | natural | boolean | param => rfl
  | list element ih | tryOf element ih => exact ih h
  | function isReference typeParams args output ihArgs ihOutput =>
    simp only [Formed, areFormed_iff] at h
    simp only [Ty.isClosedWithin, areClosedWithin_eq_all, Bool.and_eq_true, List.all_eq_true]
    exact ⟨fun arg harg => ihArgs arg harg (h.1 arg harg), ihOutput h.2⟩
  | named isReference entity written params ih =>
    simp only [Formed, areFormed_iff] at h
    simp only [Ty.isClosedWithin, areClosedWithin_eq_all, List.all_eq_true]
    exact fun param hparam => ih param hparam (h.2 param hparam)
  | internal index => simpa [Formed, Ty.isClosedWithin] using h

theorem formed_all_iff {type : Ty} :
  type.Formed .all allowed ↔ type.isClosedWithin allowed = true
  := by
  refine ⟨Formed.isClosedWithin, fun h => ?_⟩
  induction type using type_induction generalizing allowed with
  | integer | natural | boolean | param => trivial
  | list element ih | tryOf element ih => exact ih h
  | function isReference typeParams args output ihArgs ihOutput =>
    simp only [isClosedWithin, areClosedWithin_eq_all, Bool.and_eq_true, List.all_eq_true] at h
    simp only [Formed, areFormed_iff]
    exact ⟨fun arg harg => ihArgs arg harg (h.1 arg harg), ihOutput h.2⟩
  | named isReference entity written params ih =>
    simp only [isClosedWithin, areClosedWithin_eq_all, List.all_eq_true] at h
    simp only [Formed, areFormed_iff]
    exact ⟨trivial, fun param hparam => ih param hparam (h param hparam)⟩
  | internal index => simpa [Formed, isClosedWithin] using h

/-- A formed type is formed within as many parameters as it is closed within. -/
theorem Formed.restrict {type : Ty} (h : type.Formed scope allowed)
    (hclosed : type.isClosedWithin allowed' = true) :
  type.Formed scope allowed'
  := by
  induction type using type_induction generalizing allowed allowed' with
  | integer | natural | boolean => trivial
  | param => exact h
  | list element ih | tryOf element ih => exact ih h hclosed
  | function isReference typeParams args output ihArgs ihOutput =>
    simp only [Ty.isClosedWithin, areClosedWithin_eq_all, Bool.and_eq_true, List.all_eq_true]
      at hclosed
    simp only [Formed, areFormed_iff] at h ⊢
    exact ⟨fun arg harg => ihArgs arg harg (h.1 arg harg) (hclosed.1 arg harg),
      ihOutput h.2 hclosed.2⟩
  | named isReference entity written params ih =>
    simp only [Ty.isClosedWithin, areClosedWithin_eq_all, List.all_eq_true] at hclosed
    simp only [Formed, areFormed_iff] at h ⊢
    exact ⟨h.1, fun param hparam => ih param hparam (h.2 param hparam) (hclosed param hparam)⟩
  | internal index => simpa [Formed, Ty.isClosedWithin] using hclosed

/-- Whatever replaces named parameters is formed without internal ones, so the type stays
formed. -/
theorem Formed.substitute {type : Ty} {choices : Choices} (h : type.Formed scope allowed)
    (harity : ∀ entity n, scope.arity entity n → scope'.arity entity n)
    (hchoices : ∀ p, scope.allows p → ((choices.get? p.name).getD (.param p)).Formed scope' 0) :
  (type.substitute choices).Formed scope' allowed
  := by
  induction type using type_induction generalizing allowed with
  | integer | natural | boolean => trivial
  | list element ih | tryOf element ih =>
    simp only [Formed, Ty.substitute] at h ⊢
    exact ih h
  | function isReference typeParams args output ihArgs ihOutput =>
    simp only [Formed, areFormed_iff, Ty.substitute, substituteAll_eq_map,
      List.forall_mem_map] at h ⊢
    exact ⟨fun arg harg => ihArgs arg harg (h.1 arg harg), ihOutput h.2⟩
  | named isReference entity written params ih =>
    simp only [Formed, areFormed_iff, Ty.substitute, substituteAll_eq_map, List.length_map,
      List.forall_mem_map] at h ⊢
    exact ⟨harity _ _ h.1, fun param hparam => ih param hparam (h.2 param hparam)⟩
  | param p =>
    simp only [Formed, Ty.substitute] at h ⊢
    exact (hchoices p h).weaken (Nat.zero_le allowed)
  | internal index => exact h

end Formed

theorem openCount_append (a b : List (Option Ty)) :
  openCount (a ++ b) = openCount a + openCount b
  := List.countP_append

theorem openCount_le (chosen : List (Option Ty)) :
  openCount chosen ≤ chosen.length
  := List.countP_le_length

@[simp]
theorem openCount_map_none {α : Type} (items : List α) :
  openCount (items.map fun _ => none) = items.length
  := by
  rw [openCount, List.countP_map]
  exact congrFun List.countP_true items

theorem openCount_map (chosen : List (Option Ty)) (f : Ty → Ty) :
  openCount (chosen.map (·.map f)) = openCount chosen
  := by
  simp [openCount, List.countP_map, Function.comp_def]

@[simp]
theorem openCount_map_some (types : List Ty) :
  openCount (types.map some) = 0
  := by
  simp [openCount]

/-- The number of an open parameter is less than that of all open ones. -/
theorem openCount_take_lt {chosen : List (Option Ty)} {index : Nat}
    (h : chosen[index]? = some none) :
  openCount (chosen.take index) < openCount chosen
  := by
  obtain ⟨hlt, h⟩ := List.getElem?_eq_some_iff.mp h
  have e := openCount_append (chosen.take index) (chosen.drop index)
  rw [List.take_append_drop, List.drop_eq_getElem_cons hlt, h] at e
  rw [e]
  simp [openCount]

section Instantiate

variable {scope : TyScope} {allowed : Nat} {chosen : List (Option Ty)}

/-- Whatever is chosen for internal parameters is formed without any, so the type is formed
within those that stay open. -/
theorem Formed.instantiate {type : Ty} (h : type.Formed scope allowed)
    (hchosen : ∀ c, some c ∈ chosen → c.Formed scope 0) (hlength : chosen.length ≤ allowed) :
  (type.instantiate chosen).Formed scope (allowed - chosen.length + openCount chosen)
  := by
  induction type using type_induction generalizing allowed chosen with
  | integer | natural | boolean => trivial
  | list element ih | tryOf element ih =>
    simp only [Formed, Ty.instantiate] at h ⊢
    exact ih h hchosen hlength
  | function isReference typeParams args output ihArgs ihOutput =>
    simp only [Formed, areFormed_iff, Ty.instantiate, instantiateAll_eq_map,
      List.forall_mem_map] at h ⊢
    have hchosen' : ∀ c, some c ∈ typeParams.map (fun _ => none) ++ chosen → c.Formed scope 0 := by
      intro c hc
      apply hchosen
      simpa using hc
    have hcount : allowed + typeParams.length
        - (typeParams.map (fun _ => (none : Option Ty)) ++ chosen).length
        + openCount (typeParams.map (fun _ => none) ++ chosen)
        = allowed - chosen.length + openCount chosen + typeParams.length := by
      simp only [List.length_append, List.length_map, openCount_append, openCount_map_none]
      omega
    rw [← hcount]
    exact ⟨fun arg harg => ihArgs arg harg (h.1 arg harg) hchosen' (by simp; omega),
      ihOutput h.2 hchosen' (by simp; omega)⟩
  | named isReference entity written params ih =>
    simp only [Formed, areFormed_iff, Ty.instantiate, instantiateAll_eq_map, List.length_map,
      List.forall_mem_map] at h ⊢
    exact ⟨h.1, fun param hparam => ih param hparam (h.2 param hparam) hchosen hlength⟩
  | param p => exact h
  | internal index =>
    simp only [Formed] at h
    simp only [Ty.instantiate, instantiateIndex]
    split
    next c hc => exact (hchosen c (List.mem_of_getElem? hc)).weaken (Nat.zero_le _)
    next hopen =>
      have := openCount_take_lt hopen
      simp only [Formed]
      omega
    next hout =>
      have := List.getElem?_eq_none_iff.mp hout
      have := openCount_le chosen
      simp only [Formed]
      omega

/-- The parameters of a function type are left open in front of those that are left open around
it. -/
theorem map_none_append_replicate {α : Type} (items : List α) (offset : Nat) :
  items.map (fun _ => (none : Option Ty)) ++ (List.replicate offset none ++ chosen)
    = List.replicate (offset + items.length) none ++ chosen
  := by
  rw [List.map_const', ← List.append_assoc, List.replicate_append_replicate, Nat.add_comm]

/-- A type that is formed within parameters before those for which something is chosen does
not change. -/
theorem instantiate_of_formed {type : Ty} (h : type.Formed scope allowed) (rest : List (Option Ty)) :
  type.instantiate (List.replicate allowed none ++ rest) = type
  := by
  induction type using type_induction generalizing allowed with
  | integer | natural | boolean | param => rfl
  | list element ih | tryOf element ih =>
    simp only [Formed] at h
    rw [Ty.instantiate, ih h]
  | function isReference typeParams args output ihArgs ihOutput =>
    simp only [Formed, areFormed_iff] at h
    simp only [Ty.instantiate, instantiateAll_eq_map, map_none_append_replicate, ihOutput h.2]
    rw [List.map_congr_left fun arg harg => ihArgs arg harg (h.1 arg harg), List.map_id']
  | named isReference entity written params ih =>
    simp only [Formed, areFormed_iff] at h
    simp only [Ty.instantiate, instantiateAll_eq_map]
    rw [List.map_congr_left fun param hparam => ih param hparam (h.2 param hparam), List.map_id']
  | internal index =>
    simp only [Formed] at h
    have hlookup : (List.replicate allowed (none : Option Ty) ++ rest)[index]? = some none := by
      rw [List.getElem?_append_left (by simpa using h), List.getElem?_replicate_of_lt h]
    have hcount : openCount ((List.replicate allowed (none : Option Ty) ++ rest).take index)
        = index := by
      rw [List.take_append_of_le_length (by simp; omega), List.take_replicate,
        Nat.min_eq_left (Nat.le_of_lt h), openCount, List.countP_replicate]
      simp
    simp only [Ty.instantiate, instantiateIndex, hlookup, hcount]

/-- What is formed without internal parameters does not change when some are chosen. -/
theorem Formed.instantiate_eq {type : Ty} (h : type.Formed scope 0) (chosen : List (Option Ty)) :
  type.instantiate chosen = type
  := instantiate_of_formed h chosen

end Instantiate

theorem idxOf?_eq_some {names : List String} {name : String} {index : Nat}
    (h : names.idxOf? name = some index) :
  names[index]? = some name ∧ index < names.length
  := by
  induction names generalizing index with
  | nil => simp at h
  | cons first rest ih =>
    rw [List.idxOf?_cons] at h
    split at h
    next e =>
      cases h
      simpa using (beq_iff_eq.mp e)
    next =>
      obtain ⟨i, hi, rfl⟩ := Option.map_eq_some_iff.mp h
      simpa using ih hi

/-- The named parameters that become internal are numbered after those of the function types
around the type. -/
theorem Formed.internalize {scope scope' : TyScope} {offset : Nat} {names : List String} {type : Ty}
    (h : type.Formed scope offset)
    (harity : ∀ entity n, scope.arity entity n → scope'.arity entity n)
    (hallows : ∀ p, scope.allows p → p.name ∈ names ∨ scope'.allows p) :
  (type.internalize names offset).Formed scope' (offset + names.length)
  := by
  induction type using type_induction generalizing offset with
  | integer | natural | boolean => trivial
  | list element ih | tryOf element ih =>
    simp only [Formed, Ty.internalize] at h ⊢
    exact ih h
  | function isReference typeParams args output ihArgs ihOutput =>
    simp only [Formed, areFormed_iff, Ty.internalize, internalizeAll_eq_map,
      List.forall_mem_map] at h ⊢
    rw [Nat.add_right_comm offset]
    exact ⟨fun arg harg => ihArgs arg harg (h.1 arg harg), ihOutput h.2⟩
  | named isReference entity written params ih =>
    simp only [Formed, areFormed_iff, Ty.internalize, internalizeAll_eq_map, List.length_map,
      List.forall_mem_map] at h ⊢
    exact ⟨harity _ _ h.1, fun param hparam => ih param hparam (h.2 param hparam)⟩
  | param p =>
    simp only [Formed] at h
    simp only [Ty.internalize]
    split
    next index hindex =>
      have := (idxOf?_eq_some hindex).2
      simp only [Formed]
      omega
    next hnone =>
      have hnot : p.name ∉ names := by simpa using hnone
      exact (hallows p h).resolve_left hnot
  | internal index =>
    simp only [Formed, Ty.internalize] at h ⊢
    omega

end Ty
end TypedModules
