import TypedModules.Proofs.Check.Outcome

/-!
# Checks of written types

When the check of a written type passes, and with which type.  Such a check reads from its
setting only how references to types are resolved and what headers the types have, so that
settings that agree on this check written types alike.
-/

namespace TypedModules

open Check

/-! ### Distinct names -/

theorem go_repeated_eq_nil {seen names : List String} :
  repeated.go seen names = [] ↔ names.Nodup ∧ ∀ name ∈ names, name ∉ seen
  := by
  induction names generalizing seen with
  | nil => simp [repeated.go]
  | cons name rest ih =>
    unfold repeated.go
    split
    next h => simp_all
    next h =>
      rw [ih]
      simp only [List.contains_iff_mem] at h
      simp only [List.nodup_cons, List.mem_cons, not_or]
      grind

/-- No name is repeated exactly when the names are distinct. -/
theorem repeated_eq_nil {names : List String} :
  repeated names = [] ↔ names.Nodup
  := by
  rw [repeated, go_repeated_eq_nil]
  simp

@[simp]
theorem passes_checkDistinct {names : List String} {what : String} {owner : EntityId}
    {location : Option Location} {a : Unit} :
  (checkDistinct names what owner location).Passes a ↔ names.Nodup
  := by
  rw [← repeated_eq_nil]
  cases e : repeated names with
  | nil => simp [checkDistinct, e]
  | cons name rest => simp [checkDistinct, e]

/-! ### Resolved references -/

@[simp]
theorem passes_resolve {setting : Setting} {space : Namespace} {reference : Reference}
    {location : Option Location} {entry : Visible} :
  (setting.resolve space reference location).Passes entry
    ↔ setting.scope.resolve space reference = .ok entry
  := by
  unfold Setting.resolve
  split <;> simp_all

/-- A reference is resolved exactly when it means no duplicate and has one candidate. -/
theorem resolve_eq_ok {scope : Scope} {space : Namespace} {reference : Reference}
    {entry : Visible} :
  scope.resolve space reference = .ok entry
    ↔ scope.meansDuplicate reference = false ∧ scope.candidates space reference = [entry]
  := by
  unfold Scope.resolve
  split
  · simp_all
  · split <;> simp_all

@[simp]
theorem passes_requireValueType {type : Ty} {location : Option Location} {role : String}
    {a : Unit} :
  (requireValueType type location role).Passes a ↔ type.isReference = false
  := by
  cases h : type.isReference <;> simp [requireValueType, h]

@[simp]
theorem passes_checkMarker {reference : Reference} {isMarked isReference : Bool}
    {location : Option Location} {a : Unit} :
  (checkMarker reference isMarked isReference location).Passes a ↔ isMarked = isReference
  := by
  cases isMarked <;> cases isReference <;> simp [checkMarker]

theorem passes_namedHeader {setting : Setting} {reference : Reference} {isMarked : Bool}
    {argCount : Nat} {location : Option Location} {found : Entity × TypeHeader} :
  (setting.namedHeader reference isMarked argCount location).Passes found
    ↔ ∃ entry, setting.scope.resolve .type reference = .ok entry
      ∧ setting.typeHeader? entry = some found.2 ∧ entry.entity = found.1
      ∧ isMarked = found.2.isReference ∧ argCount = found.2.typeParams.length
  := by
  obtain ⟨entity, header⟩ := found
  simp only [Setting.namedHeader, passes_bind, passes_resolve]
  apply exists_congr
  intro entry
  apply and_congr_right
  intro _
  cases e : setting.typeHeader? entry with
  | none => simp
  | some found =>
    simp only [passes_bind, passes_checkMarker, passes_ite, not_passes_fail, passes_pure,
      false_and, exists_false, imp_false, bne_iff_ne, ne_eq, not_not, Prod.mk.injEq,
      Option.some.injEq]
    constructor
    · rintro ⟨_, hmark, hcount, h⟩
      obtain ⟨rfl, rfl⟩ := h hcount
      exact ⟨rfl, rfl, hmark, hcount⟩
    · rintro ⟨rfl, rfl, hmark, hcount⟩
      exact ⟨(), hmark, hcount, fun _ => ⟨rfl, rfl⟩⟩

/-! ### Written types -/

section WrittenTypes

variable {setting : Setting} {internal : List String} {type : Ty}

theorem passes_checkTyWithin_list {element : SourceTy} :
  (checkTyWithin setting internal (.list element)).Passes type
    ↔ ∃ e, (checkTyWithin setting internal element).Passes e ∧ e.isReference = false
      ∧ .list e = type
  := by
  simp [checkTyWithin]

theorem passes_checkTyWithin_tryOf {inner : SourceTy} :
  (checkTyWithin setting internal (.tryOf inner)).Passes type
    ↔ ∃ e, (checkTyWithin setting internal inner).Passes e ∧ e.isReference = false
      ∧ .tryOf e = type
  := by
  simp [checkTyWithin]

theorem passes_checkTyWithin_function {isReference : Bool} {typeParams : List TypeParam}
    {args : List SourceTy} {output : SourceTy} {location : Option Location} :
  (checkTyWithin setting internal (.function isReference typeParams args output location)).Passes
      type
    ↔ (typeParams.map (·.name)).Nodup ∧ ∃ as o,
      (checkTysWithin setting (typeParams.map (·.name) ++ internal) args).Passes as
      ∧ (checkTyWithin setting (typeParams.map (·.name) ++ internal) output).Passes o
      ∧ .function isReference typeParams as o = type
  := by
  rw [← repeated_eq_nil, checkTyWithin]
  cases e : repeated (typeParams.map (·.name)) with
  | nil => simp
  | cons name rest => simp

theorem passes_checkTyWithin_named {isMarked : Bool} {reference : Reference}
    {params : List SourceTy} {location : Option Location} :
  (checkTyWithin setting internal (.named isMarked reference params location)).Passes type
    ↔ setting.typeParam? internal reference (!params.isEmpty) = some type
      ∨ setting.typeParam? internal reference (!params.isEmpty) = none ∧ ∃ found ps,
        (setting.namedHeader reference isMarked params.length location).Passes found
        ∧ (checkTyArgsWithin setting internal location params).Passes ps
        ∧ .named found.2.isReference found.1 reference ps = type
  := by
  rw [checkTyWithin]
  cases e : setting.typeParam? internal reference (!params.isEmpty) with
  | none => simp
  | some found => simp

theorem passes_checkTysWithin {types : List SourceTy} {results : List Ty} :
  (checkTysWithin setting internal types).Passes results
    ↔ List.Forall₂ (fun t r => (checkTyWithin setting internal t).Passes r) types results
  := by
  induction types generalizing results with
  | nil => cases results <;> simp [checkTysWithin]
  | cons t rest ih => cases results <;> simp [checkTysWithin, ih]

theorem passes_checkTyArgsWithin {location : Option Location} {types : List SourceTy}
    {results : List Ty} :
  (checkTyArgsWithin setting internal location types).Passes results
    ↔ List.Forall₂ (fun t r => (checkTyWithin setting internal t).Passes r
      ∧ r.isReference = false) types results
  := by
  induction types generalizing results with
  | nil => cases results <;> simp [checkTyArgsWithin]
  | cons t rest ih => cases results <;> simp [checkTyArgsWithin, ih, and_assoc]

end WrittenTypes

/-! ### Settings that see the same types -/

/-- Settings in which the types that references stand for are the same. -/
structure Setting.SameTypes (a b : Setting) : Prop where
  module : a.module = b.module
  typeParams : a.typeParams = b.typeParams
  resolve (reference : Reference) (entry : Visible) :
    a.scope.resolve .type reference = .ok entry ↔ b.scope.resolve .type reference = .ok entry
  typeHeader (entry : Visible) : a.typeHeader? entry = b.typeHeader? entry

namespace Setting.SameTypes

variable {a b : Setting}

theorem within (h : a.SameTypes b) (typeParams : List TypeParam) :
  (a.within typeParams).SameTypes (b.within typeParams)
  := ⟨h.module, rfl, h.resolve, h.typeHeader⟩

theorem typeParam? (h : a.SameTypes b) :
  a.typeParam? = b.typeParam?
  := by
  funext internal reference hasArgs
  simp only [Setting.typeParam?, h.typeParams]

theorem namedHeader (h : a.SameTypes b) {reference : Reference} {isMarked : Bool}
    {argCount : Nat} {location : Option Location} {found : Entity × TypeHeader} :
  (a.namedHeader reference isMarked argCount location).Passes found
    ↔ (b.namedHeader reference isMarked argCount location).Passes found
  := by
  simp only [passes_namedHeader, h.resolve, h.typeHeader]

mutual

/-- Settings that see the same types check written types alike. -/
theorem checkTyWithin (h : a.SameTypes b) :
    (internal : List String) → (type : SourceTy) → (result : Ty) →
      ((checkTyWithin a internal type).Passes result
        ↔ (checkTyWithin b internal type).Passes result)
  | _, .integer, _ => Iff.rfl
  | _, .natural, _ => Iff.rfl
  | _, .boolean, _ => Iff.rfl
  | internal, .list element, _ => by
    simp only [passes_checkTyWithin_list, checkTyWithin h internal element]
  | internal, .tryOf inner, _ => by
    simp only [passes_checkTyWithin_tryOf, checkTyWithin h internal inner]
  | internal, .function _ typeParams args output _, _ => by
    simp only [passes_checkTyWithin_function, checkTysWithin h (_ ++ internal) args,
      checkTyWithin h (_ ++ internal) output]
  | internal, .named _ _ params location, _ => by
    simp only [passes_checkTyWithin_named, h.typeParam?, h.namedHeader,
      checkTyArgsWithin h internal location params]

theorem checkTysWithin (h : a.SameTypes b) :
    (internal : List String) → (types : List SourceTy) → (results : List Ty) →
      ((checkTysWithin a internal types).Passes results
        ↔ (checkTysWithin b internal types).Passes results)
  | _, [], _ => Iff.rfl
  | internal, type :: rest, _ => by
    simp only [TypedModules.checkTysWithin, passes_bind, passes_pure,
      checkTyWithin h internal type, checkTysWithin h internal rest]

theorem checkTyArgsWithin (h : a.SameTypes b) :
    (internal : List String) → (location : Option Location) → (types : List SourceTy) →
      (results : List Ty) →
        ((checkTyArgsWithin a internal location types).Passes results
          ↔ (checkTyArgsWithin b internal location types).Passes results)
  | _, _, [], _ => Iff.rfl
  | internal, location, type :: rest, _ => by
    simp only [TypedModules.checkTyArgsWithin, passes_bind, passes_pure,
      checkTyWithin h internal type, checkTyArgsWithin h internal location rest]

end

theorem checkTy (h : a.SameTypes b) (type : SourceTy) (result : Ty) :
  (checkTy a type).Passes result ↔ (checkTy b type).Passes result
  := h.checkTyWithin [] type result

end Setting.SameTypes

end TypedModules
