import TypedModules.Proofs.Ty.Function
import TypedModules.Proofs.Ty.Same

/-!
# Proper types

A type is clean if no reference type stands inside a value type in it: neither in a list nor in a
`Try`, nor among the arguments of a named type.  It is proper if it is formed and clean.  The
operations on types keep types proper, if whatever they put for a parameter is proper and no
reference.

A type that a supplied value reveals may mention type parameters of that value's own type.  Such a
choice does not survive: what the choices make of an argument's type is the same as the type of
the value, so that a choice that was revealed in a proper type is proper itself.
-/

namespace TypedModules
namespace Ty

/-! ### Clean types -/

mutual

/-- Whether no reference type stands inside a value type. -/
def Clean : Ty → Prop
  | .integer => True
  | .natural => True
  | .boolean => True
  | .list element => element.isReference = false ∧ element.Clean
  | .tryOf inner => inner.isReference = false ∧ inner.Clean
  | .function _ _ args output => AreClean args ∧ output.Clean
  | .named _ _ _ params => (∀ param ∈ params, param.isReference = false) ∧ AreClean params
  | .param _ => True
  | .internal _ => True

/-- Whether all types of a list are clean. -/
def AreClean : List Ty → Prop
  | [] => True
  | type :: rest => type.Clean ∧ AreClean rest

end

@[simp]
theorem areClean_iff {types : List Ty} :
  AreClean types ↔ ∀ type ∈ types, type.Clean
  := by
  induction types with
  | nil => simp [AreClean]
  | cons type rest ih => simp [AreClean, ih]

section Substitute

variable {choices : Choices}

theorem isReference_substitute
    (h : ∀ name c, choices.get? name = some c → c.isReference = false) (type : Ty) :
  (type.substitute choices).isReference = type.isReference
  := by
  cases type with
  | param p =>
    cases e : choices.get? p.name with
    | none => simp [Ty.substitute, e]
    | some c =>
      rw [Ty.substitute, e]
      exact h _ _ e
  | _ => rfl

theorem Clean.substitute {type : Ty} (h : type.Clean)
    (hclean : ∀ name c, choices.get? name = some c → c.Clean)
    (hvalue : ∀ name c, choices.get? name = some c → c.isReference = false) :
  (type.substitute choices).Clean
  := by
  induction type using type_induction with
  | integer | natural | boolean | internal => exact h
  | list element ih | tryOf element ih =>
    simp only [Clean, Ty.substitute, isReference_substitute hvalue] at h ⊢
    exact ⟨h.1, ih h.2⟩
  | function isReference typeParams args output ihArgs ihOutput =>
    simp only [Clean, areClean_iff, Ty.substitute, substituteAll_eq_map, List.forall_mem_map]
      at h ⊢
    exact ⟨fun arg harg => ihArgs arg harg (h.1 arg harg), ihOutput h.2⟩
  | named isReference entity written params ih =>
    simp only [Clean, areClean_iff, Ty.substitute, substituteAll_eq_map, List.forall_mem_map,
      isReference_substitute hvalue] at h ⊢
    exact ⟨h.1, fun param hparam => ih param hparam (h.2 param hparam)⟩
  | param p =>
    cases e : choices.get? p.name with
    | none => simp [Ty.substitute, e, Clean]
    | some c => simpa [Ty.substitute, e] using hclean _ _ e

end Substitute

section Instantiate

variable {chosen : List (Option Ty)}

theorem isReference_instantiate (h : ∀ c, some c ∈ chosen → c.isReference = false) (type : Ty) :
  (type.instantiate chosen).isReference = type.isReference
  := by
  cases type with
  | internal index =>
    simp only [Ty.instantiate, instantiateIndex]
    split
    next c hc => exact h c (List.mem_of_getElem? hc)
    next => rfl
    next => rfl
  | _ => rfl

theorem Clean.instantiate {type : Ty} (h : type.Clean)
    (hclean : ∀ c, some c ∈ chosen → c.Clean)
    (hvalue : ∀ c, some c ∈ chosen → c.isReference = false) :
  (type.instantiate chosen).Clean
  := by
  induction type using type_induction generalizing chosen with
  | integer | natural | boolean | param => exact h
  | list element ih | tryOf element ih =>
    simp only [Clean, Ty.instantiate, isReference_instantiate hvalue] at h ⊢
    exact ⟨h.1, ih h.2 hclean hvalue⟩
  | function isReference typeParams args output ihArgs ihOutput =>
    have hinner : ∀ c, some c ∈ typeParams.map (fun _ => none) ++ chosen → some c ∈ chosen := by
      simp
    have hclean' := fun c hc => hclean c (hinner c hc)
    have hvalue' := fun c hc => hvalue c (hinner c hc)
    simp only [Clean, areClean_iff, Ty.instantiate, instantiateAll_eq_map, List.forall_mem_map]
      at h ⊢
    exact ⟨fun arg harg => ihArgs arg harg (h.1 arg harg) hclean' hvalue',
      ihOutput h.2 hclean' hvalue'⟩
  | named isReference entity written params ih =>
    simp only [Clean, areClean_iff, Ty.instantiate, instantiateAll_eq_map, List.forall_mem_map,
      isReference_instantiate hvalue] at h ⊢
    exact ⟨h.1, fun param hparam => ih param hparam (h.2 param hparam) hclean hvalue⟩
  | internal index =>
    simp only [Ty.instantiate, instantiateIndex]
    split
    next c hc => exact hclean c (List.mem_of_getElem? hc)
    next => trivial
    next => trivial

end Instantiate

theorem isReference_internalize (names : List String) (offset : Nat) (type : Ty) :
  (type.internalize names offset).isReference = type.isReference
  := by
  cases type with
  | param p =>
    simp only [Ty.internalize]
    split <;> rfl
  | _ => rfl

theorem Clean.internalize {type : Ty} (h : type.Clean) (names : List String) (offset : Nat) :
  (type.internalize names offset).Clean
  := by
  induction type using type_induction generalizing offset with
  | integer | natural | boolean | internal => exact h
  | list element ih | tryOf element ih =>
    simp only [Clean, Ty.internalize, isReference_internalize] at h ⊢
    exact ⟨h.1, ih h.2 offset⟩
  | function isReference typeParams args output ihArgs ihOutput =>
    simp only [Clean, areClean_iff, Ty.internalize, internalizeAll_eq_map, List.forall_mem_map]
      at h ⊢
    exact ⟨fun arg harg => ihArgs arg harg (h.1 arg harg) _, ihOutput h.2 _⟩
  | named isReference entity written params ih =>
    simp only [Clean, areClean_iff, Ty.internalize, internalizeAll_eq_map, List.forall_mem_map,
      isReference_internalize] at h ⊢
    exact ⟨h.1, fun param hparam => ih param hparam (h.2 param hparam) offset⟩
  | param p =>
    simp only [Ty.internalize]
    split <;> trivial

/-! ### What sameness keeps -/

@[simp]
theorem isReference_core (type : Ty) :
  type.core.isReference = type.isReference
  := by
  cases type <;> rfl

theorem formed_core {scope : TyScope} {allowed : Nat} {type : Ty} :
  type.core.Formed scope allowed ↔ type.Formed scope allowed
  := by
  induction type using type_induction generalizing allowed with
  | integer | natural | boolean | param | internal => rfl
  | list element ih | tryOf element ih => simp only [core, Formed, ih]
  | function isReference typeParams args output ihArgs ihOutput =>
    simp only [core, Formed, cores_eq_map, areFormed_iff, List.forall_mem_map, List.length_map,
      ihOutput]
    exact and_congr_left' (forall₂_congr fun arg harg => ihArgs arg harg)
  | named isReference entity written params ih =>
    simp only [core, Formed, cores_eq_map, areFormed_iff, List.forall_mem_map, List.length_map]
    exact and_congr_right' (forall₂_congr fun param hparam => ih param hparam)

theorem clean_core {type : Ty} :
  type.core.Clean ↔ type.Clean
  := by
  induction type using type_induction with
  | integer | natural | boolean | param | internal => rfl
  | list element ih | tryOf element ih => simp only [core, Clean, isReference_core, ih]
  | function isReference typeParams args output ihArgs ihOutput =>
    simp only [core, Clean, cores_eq_map, areClean_iff, List.forall_mem_map, ihOutput]
    exact and_congr_left' (forall₂_congr fun arg harg => ihArgs arg harg)
  | named isReference entity written params ih =>
    simp only [core, Clean, cores_eq_map, areClean_iff, List.forall_mem_map, isReference_core]
    exact and_congr_right' (forall₂_congr fun param hparam => ih param hparam)

/-! ### Proper types -/

/-- Whether a type is formed within `allowed` internal parameters, and clean. -/
structure Proper (scope : TyScope) (allowed : Nat) (type : Ty) : Prop where
  formed : type.Formed scope allowed
  clean : type.Clean

/-- Whether a type may be chosen for a type parameter. -/
structure Choosable (scope : TyScope) (type : Ty) : Prop where
  proper : type.Proper scope 0
  value : type.isReference = false

section Proper

variable {scope scope' : TyScope} {allowed : Nat}

/-- Same types are proper alike. -/
theorem Proper.of_same {a b : Ty} (h : a.Proper scope allowed) (hsame : a.same b = true) :
  b.Proper scope allowed
  := by
  rw [same_iff] at hsame
  exact ⟨formed_core.mp (hsame ▸ formed_core.mpr h.formed),
    clean_core.mp (hsame ▸ clean_core.mpr h.clean)⟩

theorem Proper.widen {type : Ty} (h : type.Proper scope allowed)
    (harity : ∀ entity n, scope.arity entity n → scope'.arity entity n)
    (hallows : ∀ p, scope.allows p → scope'.allows p) :
  type.Proper scope' allowed
  := ⟨h.formed.mono harity hallows (Nat.le_refl _), h.clean⟩

/-- A proper type that is closed needs no internal parameters around it. -/
theorem Proper.restrict {type : Ty} (h : type.Proper scope allowed)
    (hclosed : type.isClosedWithin 0 = true) :
  type.Proper scope 0
  := ⟨h.formed.restrict hclosed, h.clean⟩

@[simp]
theorem proper_list {element : Ty} :
  (Ty.list element).Proper scope allowed
    ↔ element.isReference = false ∧ element.Proper scope allowed
  := by
  constructor
  · rintro ⟨hformed, hvalue, hclean⟩
    exact ⟨hvalue, hformed, hclean⟩
  · rintro ⟨hvalue, hformed, hclean⟩
    exact ⟨hformed, hvalue, hclean⟩

@[simp]
theorem proper_tryOf {inner : Ty} :
  (Ty.tryOf inner).Proper scope allowed ↔ inner.isReference = false ∧ inner.Proper scope allowed
  := by
  constructor
  · rintro ⟨hformed, hvalue, hclean⟩
    exact ⟨hvalue, hformed, hclean⟩
  · rintro ⟨hvalue, hformed, hclean⟩
    exact ⟨hformed, hvalue, hclean⟩

@[simp]
theorem proper_function {isReference : Bool} {typeParams : List TypeParam} {args : List Ty}
    {output : Ty} :
  (Ty.function isReference typeParams args output).Proper scope allowed
    ↔ (∀ arg ∈ args, arg.Proper scope (allowed + typeParams.length))
      ∧ output.Proper scope (allowed + typeParams.length)
  := by
  constructor
  · rintro ⟨hformed, hclean⟩
    simp only [Formed, Clean, areFormed_iff, areClean_iff] at hformed hclean
    exact ⟨fun arg harg => ⟨hformed.1 arg harg, hclean.1 arg harg⟩, hformed.2, hclean.2⟩
  · rintro ⟨hargs, houtput⟩
    constructor
    · simp only [Formed, areFormed_iff]
      exact ⟨fun arg harg => (hargs arg harg).formed, houtput.formed⟩
    · simp only [Clean, areClean_iff]
      exact ⟨fun arg harg => (hargs arg harg).clean, houtput.clean⟩

@[simp]
theorem proper_named {isReference : Bool} {entity : Entity} {written : Reference}
    {params : List Ty} :
  (Ty.named isReference entity written params).Proper scope allowed
    ↔ scope.arity entity params.length
      ∧ ∀ param ∈ params, param.isReference = false ∧ param.Proper scope allowed
  := by
  constructor
  · rintro ⟨hformed, hclean⟩
    simp only [Formed, Clean, areFormed_iff, areClean_iff] at hformed hclean
    exact ⟨hformed.1, fun param hparam =>
      ⟨hclean.1 param hparam, hformed.2 param hparam, hclean.2 param hparam⟩⟩
  · rintro ⟨harity, hparams⟩
    constructor
    · simp only [Formed, areFormed_iff]
      exact ⟨harity, fun param hparam => (hparams param hparam).2.formed⟩
    · simp only [Clean, areClean_iff]
      exact ⟨fun param hparam => (hparams param hparam).1,
        fun param hparam => (hparams param hparam).2.clean⟩

@[simp]
theorem proper_param {p : TypeParam} :
  (Ty.param p).Proper scope allowed ↔ scope.allows p
  := ⟨fun h => h.formed, fun h => ⟨h, trivial⟩⟩

end Proper
end Ty

open Ty

/-! ### Proper function types -/

namespace FunctionType

variable {scope scope' : TyScope} {function : FunctionType}

theorem proper_toTy :
  function.toTy.Proper scope 0
    ↔ (∀ arg ∈ function.args, arg.Proper scope function.typeParams.length)
      ∧ function.output.Proper scope function.typeParams.length
  := by
  simp [FunctionType.toTy]

theorem clean_ofSignature {typeParams : List TypeParam} {args : List Ty} {output : Ty}
    (hargs : ∀ arg ∈ args, arg.Clean) (houtput : output.Clean) :
  (ofSignature typeParams args output).toTy.Clean
  := by
  simp only [toTy, ofSignature, Clean, areClean_iff, List.forall_mem_map]
  exact ⟨fun arg harg => (hargs arg harg).internalize _ _, houtput.internalize _ _⟩

theorem proper_ofSignature {typeParams : List TypeParam} {args : List Ty} {output : Ty}
    (hargs : ∀ arg ∈ args, arg.Proper scope 0) (houtput : output.Proper scope 0)
    (harity : ∀ entity n, scope.arity entity n → scope'.arity entity n)
    (hallows : ∀ p, scope.allows p → p.name ∈ typeParams.map (·.name) ∨ scope'.allows p) :
  (ofSignature typeParams args output).toTy.Proper scope' 0
  := ⟨formed_ofSignature (fun arg harg => (hargs arg harg).formed) houtput.formed harity hallows,
    clean_ofSignature (fun arg harg => (hargs arg harg).clean) houtput.clean⟩

/-- What a call makes of the output of a proper function type is proper. -/
theorem proper_ground {chosen : List Ty} (h : function.toTy.Proper scope 0)
    (hlength : chosen.length = function.typeParams.length)
    (hchosen : ∀ c ∈ chosen, c.Choosable scope) :
  (function.ground chosen).output.Proper scope 0
  := by
  have hformed := formed_ground h.formed hlength fun c hc => (hchosen c hc).proper.formed
  refine ⟨hformed.2, ?_⟩
  have hclean := (proper_toTy.mp h).2.clean
  unfold ground
  split
  · exact hclean
  · exact hclean.instantiate (by simpa using fun c hc => (hchosen c hc).proper.clean)
      (by simpa using fun c hc => (hchosen c hc).value)

/-- What a binding makes of a proper function type is proper. -/
theorem proper_rebind {chosen : List (Option Ty)} (h : function.toTy.Proper scope 0)
    (hlength : chosen.length = function.typeParams.length)
    (hchosen : ∀ c, some c ∈ chosen → c.Choosable scope) (bound : List (Option Ty)) :
  ((function.rebindTypes chosen).rebindArgs bound).toTy.Proper scope 0
  := by
  have hformed := formed_rebindTypes h.formed hlength fun c hc => (hchosen c hc).proper.formed
  refine ⟨formed_rebindArgs hformed, ?_⟩
  have hclean : (function.rebindTypes chosen).toTy.Clean := by
    unfold rebindTypes
    split
    · exact h.clean
    next =>
      have key : ∀ type : Ty, type.Clean → (type.instantiate chosen).Clean := fun type htype =>
        htype.instantiate (fun c hc => (hchosen c hc).proper.clean) fun c hc => (hchosen c hc).value
      obtain ⟨hargs, houtput⟩ := proper_toTy.mp h
      simp only [toTy, Clean, areClean_iff, List.forall_mem_map]
      exact ⟨fun arg harg => key arg (hargs arg harg).clean, key _ houtput.clean⟩
  simp only [toTy, Clean, areClean_iff] at hclean
  simp only [rebindArgs, toTy, Clean, areClean_iff]
  exact ⟨fun arg harg => hclean.1 arg (mem_of_mem_unbound harg), hclean.2⟩

end FunctionType

/-! ### Revealed types -/

section Reveal

variable {scope : TyScope}

mutual

/-- What is revealed for a parameter stands in what the choices make of the declared type. -/
theorem proper_reveal : (index : Nat) → (declared actual : Ty) → {type : Ty} →
    {chosen : List (Option Ty)} → {allowed : Nat} → reveal index declared actual = some type →
      chosen[index]? = some (some type) → (declared.instantiate chosen).Proper scope allowed →
        ∃ deeper, type.Proper scope deeper
  | index, .internal i, actual, type, chosen, allowed, h, hchosen, hproper => by
    simp only [reveal] at h
    split at h
    next e =>
      subst e
      simp only [Ty.instantiate, instantiateIndex, hchosen] at hproper
      exact ⟨allowed, hproper⟩
    next => cases h
  | index, .list declared, actual, type, chosen, allowed, h, hchosen, hproper => by
    cases actual <;> simp only [reveal, reduceCtorEq] at h
    exact proper_reveal index declared _ h hchosen (proper_list.mp hproper).2
  | index, .tryOf declared, actual, type, chosen, allowed, h, hchosen, hproper => by
    cases actual <;> simp only [reveal, reduceCtorEq] at h
    exact proper_reveal index declared _ h hchosen (proper_tryOf.mp hproper).2
  | index, .named _ _ _ declared, actual, type, chosen, allowed, h, hchosen, hproper => by
    cases actual <;> simp only [reveal, reduceCtorEq] at h
    split at h
    next =>
      simp only [Ty.instantiate, instantiateAll_eq_map, proper_named, List.forall_mem_map]
        at hproper
      exact proper_revealAny index declared _ h hchosen
        fun param hparam => (hproper.2 param hparam).2
    next => cases h
  | index, .function _ typeParams args output, actual, type, chosen, allowed, h, hchosen,
      hproper => by
    cases actual <;> simp only [reveal, reduceCtorEq] at h
    -- the function type's own parameters come first and stay open
    have hinner : (typeParams.map (fun _ => none) ++ chosen)[index + typeParams.length]?
        = some (some type) := by
      rw [List.getElem?_append_right (by simp)]
      simpa using hchosen
    simp only [Ty.instantiate, instantiateAll_eq_map, proper_function, List.forall_mem_map]
      at hproper
    split at h
    next hany =>
      cases h
      exact proper_revealAny _ args _ hany hinner hproper.1
    next => exact proper_reveal _ output _ h hinner hproper.2
  | _, .integer, _, _, _, _, h, _, _ => by cases h
  | _, .natural, _, _, _, _, h, _, _ => by cases h
  | _, .boolean, _, _, _, _, h, _, _ => by cases h
  | _, .param _, _, _, _, _, h, _, _ => by cases h

theorem proper_revealAny : (index : Nat) → (declared actual : List Ty) → {type : Ty} →
    {chosen : List (Option Ty)} → {allowed : Nat} → revealAny index declared actual = some type →
      chosen[index]? = some (some type) →
        (∀ d ∈ declared, (d.instantiate chosen).Proper scope allowed) →
          ∃ deeper, type.Proper scope deeper
  | index, first :: rest, actual, type, chosen, allowed, h, hchosen, hproper => by
    cases actual <;> simp only [revealAny, reduceCtorEq] at h
    rw [List.forall_mem_cons] at hproper
    split at h
    next hfirst =>
      cases h
      exact proper_reveal index first _ hfirst hchosen hproper.1
    next => exact proper_revealAny index rest _ h hchosen hproper.2
  | _, [], _, _, _, _, h, _, _ => by cases h

end

/-- The types that are chosen are proper where those are that are written and supplied, if with
them the arguments have the types of what is supplied. -/
theorem proper_inferTypeArgs {function : FunctionType}
    {written supplied chosen : List (Option Ty)}
    (hwritten : ∀ w, some w ∈ written → w.Proper scope 0)
    (hsupplied : ∀ s, some s ∈ supplied → s.Proper scope 0)
    (h : inferTypeArgs function written supplied = .ok chosen)
    (hslots : List.Forall₂ (fun value slot => ∀ v, value = some v → v.same slot = true) supplied
      (function.rebindTypes chosen).args) :
  chosen.length = function.typeParams.length ∧ ∀ c, some c ∈ chosen → c.Proper scope 0
  := by
  -- wherever a choice comes from, it is closed
  have hopen : ∀ {type : Ty}, type.Proper scope 0 → type.Formed ⟨scope.arity, fun _ => True⟩ 0 :=
    fun htype => htype.formed.mono (fun _ _ => id) (fun _ _ => trivial) (Nat.le_refl _)
  obtain ⟨hlength, hformed⟩ := formed_inferTypeArgs (fun _ => trivial)
    (fun w hw => hopen (hwritten w hw)) (fun s hs => hopen (hsupplied s hs)) h
  refine ⟨hlength, fun c hc => ?_⟩
  obtain ⟨j, hj⟩ := List.getElem?_of_mem hc
  obtain ⟨slot, value, hmem, hreveal⟩ | hmem := (found_of_inferTypeArgs h).2 j c hj
  · have hslots' : List.Forall₂ (fun value slot => ∀ v, value = some v →
        v.same (Ty.instantiate chosen slot) = true) supplied function.args := by
      unfold FunctionType.rebindTypes at hslots
      split at hslots
      next hground =>
        rw [FunctionType.isGround_iff.mp hground] at hlength
        simp [List.eq_nil_of_length_eq_zero hlength] at hc
      next => rwa [List.forall₂_map_right_iff] at hslots
    -- the supplied value is proper, and has the type that the choices make of the argument's
    have hsame := (List.forall₂_iff_zip.mp hslots').2 hmem value rfl
    have hproper := (hsupplied value (List.of_mem_zip hmem).1).of_same hsame
    obtain ⟨deeper, hdeeper⟩ := proper_reveal j slot value hreveal hj hproper
    exact hdeeper.restrict (hformed c hc).isClosedWithin
  · exact hwritten c hmem

end Reveal

end TypedModules
