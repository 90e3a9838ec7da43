import TypedModules.Check.Headers
import TypedModules.Proofs.Renamed.Check
import TypedModules.Proofs.Renamed.References

/-!
# Headers where modules are renamed

A setting mirrors another as far as types go if a stable reference stands in it for what it stands
for in the other, renamed, and if types have the same headers there.  Then the checks of written
types and of headers mirror each other.

The main statements are `mirrors_checkTy` and those about each kind of header.
-/

namespace TypedModules

open Check

/-- What is visible with its module renamed. -/
def Visible.rename (σ : Renaming) (entry : Visible) : Visible :=
  { entry with entity := entry.entity.rename σ }

/-- Whether what a reference stands for is the same, renamed, or there is none for one reason. -/
inductive ResolutionMirrors (σ : Renaming) :
    Except ResolutionError Visible → Except ResolutionError Visible → Prop
  | ok (entry : Visible) : ResolutionMirrors σ (.ok entry) (.ok (entry.rename σ))
  | error {error other : ResolutionError} :
    other.code = error.code → (σ = .refl → other.message = error.message) →
    ResolutionMirrors σ (.error error) (.error other)

/-- Whether a setting mirrors another as far as types go.  It is settled that what is visible as a
type has a header, if it is settled at all that nothing stands behind a failed declaration. -/
structure Setting.MirrorsTypes (σ : Renaming) (settled : Prop) (setting other : Setting) :
    Prop where
  module : other.module = σ.module setting.module
  typeParams : other.typeParams = setting.typeParams
  resolve : ∀ space (reference : Reference), reference.Stable σ →
    ResolutionMirrors σ (setting.scope.resolve space reference)
      (other.scope.resolve space reference)
  typeHeader? : ∀ entry, other.typeHeader? (entry.rename σ) = setting.typeHeader? entry
  known : settled → ∀ reference entry, setting.scope.resolve .type reference = .ok entry →
    setting.typeHeader? entry ≠ none

section Types

variable {σ : Renaming} {settled : Prop} {setting other : Setting}

theorem ok_of_resolve {space : Namespace} {reference : Reference} {location : Option Location}
    {behind : Bool} {entry : Visible}
    (h : (setting.resolve space reference location behind).1 = some entry) :
  setting.scope.resolve space reference = .ok entry
  := by
  unfold Setting.resolve at h
  cases e : setting.scope.resolve space reference with
  | ok found =>
    rw [e] at h
    exact congrArg _ (Option.some.inj h)
  | error error =>
    rw [e] at h
    cases h

theorem mirrors_checkDistinct (names : List String) (what : String) (owner : EntityId)
    (location : Option Location) :
  Mirrors σ settled id (checkDistinct names what owner location)
    (checkDistinct names what owner location)
  := by
  apply Mirrors.bind (Mirrors.forM fun _ _ => mirrors_report _ _ fun _ => rfl)
  intro _
  exact mirrors_ite Iff.rfl (mirrors_pure rfl) mirrors_abort

theorem mirrors_requireValueType (type : Ty) (location : Option Location) (role : String) :
  Mirrors σ settled id (requireValueType type location role)
    (requireValueType (type.rename σ) location role)
  := by
  simp only [requireValueType, Ty.isReference_rename, Ty.text_rename]
  exact mirrors_ite Iff.rfl (mirrors_fail _ _ fun _ => rfl) (mirrors_pure rfl)

theorem mirrors_checkMarker (reference : Reference) (isMarked isReference : Bool)
    (location : Option Location) :
  Mirrors σ settled id (checkMarker reference isMarked isReference location)
    (checkMarker reference isMarked isReference location)
  := by
  apply mirrors_guard Iff.rfl fun _ => rfl
  exact mirrors_ite Iff.rfl (mirrors_fail _ _ fun _ => rfl) (mirrors_pure rfl)

theorem mirrors_checkTypeParams (typeParams : List TypeParam) (owner : EntityId)
    (location : Option Location) :
  Mirrors σ settled id (checkTypeParams typeParams owner location)
    (checkTypeParams typeParams owner location)
  := mirrors_checkDistinct _ _ _ _

namespace Setting.MirrorsTypes

section Resolution

variable (h : setting.MirrorsTypes σ settled other)
include h

theorem within (typeParams : List TypeParam) :
  (setting.within typeParams).MirrorsTypes σ settled (other.within typeParams)
  := ⟨h.module, rfl, h.resolve, h.typeHeader?, h.known⟩

theorem mirrors_resolve (space : Namespace) {reference : Reference} (hstable : reference.Stable σ)
    (location : Option Location) :
  Mirrors σ settled (Visible.rename σ) (setting.resolve space reference location)
    (other.resolve space reference location)
  := by
  have hresolve := h.resolve space reference hstable
  unfold Setting.resolve
  generalize setting.scope.resolve space reference = result at hresolve ⊢
  generalize other.scope.resolve space reference = result' at hresolve ⊢
  cases hresolve with
  | ok entry => exact mirrors_pure rfl
  | @error error error' hcode hmessage =>
    dsimp only
    rw [hcode]
    exact mirrors_fail _ _ hmessage

/-- A written type stands for the same type parameter, which names no module. -/
theorem typeParam? (internal : List String) (reference : Reference) (hasArgs : Bool) :
  other.typeParam? internal reference hasArgs
    = (setting.typeParam? internal reference hasArgs).map (Ty.rename σ)
  := by
  unfold Setting.typeParam?
  rw [h.typeParams]
  split
  · rfl
  · cases reference.id.single? with
    | none => rfl
    | some name =>
      simp only [Option.bind_some]
      cases internal.idxOf? name with
      | some index => rfl
      | none => simp [Function.comp_def, Ty.rename]

theorem mirrors_namedHeader {reference : Reference} (hstable : reference.Stable σ)
    (isMarked : Bool) (argCount : Nat) (location : Option Location) :
  Mirrors σ settled (Prod.map (Entity.rename σ) id)
    (setting.namedHeader reference isMarked argCount location)
    (other.namedHeader reference isMarked argCount location)
  := by
  apply (h.mirrors_resolve .type hstable location).bind_of
  intro behind entry hentry
  rw [h.typeHeader?]
  cases hheader : setting.typeHeader? entry with
  | none => exact mirrors_failBehind (fun hs => h.known hs _ _ (ok_of_resolve hentry) hheader) _
  | some header =>
    apply (mirrors_checkMarker _ _ _ _).bind
    intro _
    exact mirrors_guard Iff.rfl (fun _ => rfl) (mirrors_pure rfl)

end Resolution

mutual

theorem mirrors_checkTyWithin (h : setting.MirrorsTypes σ settled other)
    (internal : List String) :
    (type : SourceTy) → Stable σ type.references →
      Mirrors σ settled (Ty.rename σ) (checkTyWithin setting internal type)
        (checkTyWithin other internal type)
  | .integer, _ => mirrors_pure rfl
  | .natural, _ => mirrors_pure rfl
  | .boolean, _ => mirrors_pure rfl
  | .list element, hstable => by
    apply (h.mirrors_checkTyWithin internal element hstable).bind
    intro element
    apply (mirrors_requireValueType element none "a list element").bind
    intro _
    exact mirrors_pure rfl
  | .tryOf inner, hstable => by
    apply (h.mirrors_checkTyWithin internal inner hstable).bind
    intro inner
    apply (mirrors_requireValueType inner none "a Try value").bind
    intro _
    exact mirrors_pure rfl
  | .function isReference typeParams args output location, hstable => by
    rw [SourceTy.references, stable_append] at hstable
    unfold checkTyWithin
    dsimp only
    cases repeated (typeParams.map (·.name)) with
    | cons name rest => exact mirrors_fail _ _ fun _ => rfl
    | nil =>
      apply (h.mirrors_checkTysWithin _ args hstable.1).bind
      intro args
      apply (h.mirrors_checkTyWithin _ output hstable.2).bind
      intro output
      exact mirrors_pure (by rw [Ty.rename, Ty.renameAll_eq_map])
  | .named isReference reference params location, hstable => by
    rw [SourceTy.references, stable_cons] at hstable
    unfold checkTyWithin
    rw [h.typeParam?]
    cases setting.typeParam? internal reference (!params.isEmpty) with
    | some type => exact mirrors_pure rfl
    | none =>
      apply (h.mirrors_namedHeader hstable.1 isReference params.length location).bind
      intro named
      apply (h.mirrors_checkTyArgsWithin internal location params hstable.2).bind
      intro params
      exact mirrors_pure (by rw [Ty.rename, Ty.renameAll_eq_map]; rfl)

theorem mirrors_checkTysWithin (h : setting.MirrorsTypes σ settled other)
    (internal : List String) :
    (types : List SourceTy) → Stable σ (referencesOfTys types) →
      Mirrors σ settled (List.map (Ty.rename σ)) (checkTysWithin setting internal types)
        (checkTysWithin other internal types)
  | [], _ => mirrors_pure rfl
  | type :: rest, hstable => by
    rw [referencesOfTys, stable_append] at hstable
    apply (h.mirrors_checkTyWithin internal type hstable.1).bind
    intro type
    apply (h.mirrors_checkTysWithin internal rest hstable.2).bind
    intro rest
    exact mirrors_pure rfl

theorem mirrors_checkTyArgsWithin (h : setting.MirrorsTypes σ settled other)
    (internal : List String) (location : Option Location) :
    (types : List SourceTy) → Stable σ (referencesOfTys types) →
      Mirrors σ settled (List.map (Ty.rename σ)) (checkTyArgsWithin setting internal location types)
        (checkTyArgsWithin other internal location types)
  | [], _ => mirrors_pure rfl
  | type :: rest, hstable => by
    rw [referencesOfTys, stable_append] at hstable
    apply (h.mirrors_checkTyWithin internal type hstable.1).bind
    intro type
    apply (mirrors_requireValueType type location "a type argument").bind
    intro _
    apply (h.mirrors_checkTyArgsWithin internal location rest hstable.2).bind
    intro rest
    exact mirrors_pure rfl

end

section Written

variable (h : setting.MirrorsTypes σ settled other)
include h

/-- A written type stands for the same type, renamed. -/
theorem mirrors_checkTy {type : SourceTy} (hstable : Stable σ type.references) :
  Mirrors σ settled (Ty.rename σ) (checkTy setting type) (checkTy other type)
  := h.mirrors_checkTyWithin [] type hstable

theorem mirrors_checkOpenTys {types : List (Option SourceTy)}
    (hstable : Stable σ (referencesOfOpenTys types)) :
  Mirrors σ settled (List.map (Option.map (Ty.rename σ))) (checkOpenTys setting types)
    (checkOpenTys other types)
  := by
  induction types with
  | nil => exact mirrors_pure rfl
  | cons type rest ih =>
    rw [referencesOfOpenTys, List.flatMap_cons, stable_append] at hstable
    cases type with
    | none =>
      apply (ih hstable.2).bind
      intro rest
      exact mirrors_pure rfl
    | some type =>
      apply (h.mirrors_checkTy hstable.1).bind
      intro type
      apply (ih hstable.2).bind
      intro rest
      exact mirrors_pure rfl

theorem mirrors_checkArgs {args : List SourceArg} (hstable : Stable σ (referencesOfArgs args))
    (owner : EntityId) (location : Option Location) :
  Mirrors σ settled (List.map (Argument.rename σ)) (checkArgs setting args owner location)
    (checkArgs other args owner location)
  := by
  apply (mirrors_checkDistinct _ _ _ _).bind
  intro _
  apply Mirrors.mapM
  intro arg hmem
  apply (h.mirrors_checkTy (stable_flatMap.mp hstable arg hmem)).bind
  intro type
  exact mirrors_pure rfl

/-! ### Headers -/

theorem mirrors_checkStructHeader {declared : SourceStruct}
    (hstable : Stable σ declared.references) :
  Mirrors σ settled (StructHeader.rename σ) (checkStructHeader setting declared)
    (checkStructHeader other declared)
  := by
  rw [SourceStruct.references, stable_append] at hstable
  apply (mirrors_checkTypeParams _ _ _).bind
  intro _
  apply (mirrors_checkDistinct _ _ _ _).bind
  intro _
  have hwithin := h.within declared.typeParams
  apply Mirrors.bind (f := List.map (Argument.rename σ))
  · apply Mirrors.mapM
    intro member hmem
    apply (hwithin.mirrors_checkTy (stable_flatMap.mp hstable.1 member hmem)).bind
    intro type
    rw [Ty.isReference_rename, Ty.text_rename]
    exact mirrors_guard Iff.rfl (fun _ => rfl) (mirrors_pure rfl)
  · intro members
    apply mirrors_pure
    rw [StructHeader.rename, hwithin.module]

theorem mirrors_checkMethod (declared : SourceInterface) {method : SourceMethod}
    (hstable : Stable σ method.references) :
  Mirrors σ settled (Method.rename σ) (checkMethod setting declared method)
    (checkMethod other declared method)
  := by
  rw [SourceMethod.references, stable_append] at hstable
  apply (mirrors_checkTypeParams _ _ _).bind
  intro _
  have hwithin := h.within (declared.typeParams ++ method.typeParams)
  apply (hwithin.mirrors_checkArgs hstable.1 _ _).bind
  intro args
  apply (hwithin.mirrors_checkTy hstable.2).bind
  intro output
  exact mirrors_pure rfl

theorem mirrors_checkInterface {declared : SourceInterface}
    (hstable : Stable σ declared.references) :
  Mirrors σ settled (Interface.rename σ) (checkInterface setting declared)
    (checkInterface other declared)
  := by
  apply (mirrors_checkTypeParams _ _ _).bind
  intro _
  apply (mirrors_checkDistinct _ _ _ _).bind
  intro _
  apply (Mirrors.mapM fun method hmem =>
    h.mirrors_checkMethod declared (stable_flatMap.mp hstable method hmem)).bind
  intro methods
  apply mirrors_pure
  rw [Interface.rename, h.module]

theorem mirrors_checkOption (declared : SourceUnion) {option : SourceOption}
    (hstable : Stable σ ((option.type.map SourceTy.references).getD [])) :
  Mirrors σ settled (UnionOption.rename σ) (checkOption setting declared option)
    (checkOption other declared option)
  := by
  apply mirrors_guard Iff.rfl fun _ => rfl
  cases e : option.type with
  | none => exact mirrors_pure rfl
  | some type =>
    rw [e] at hstable
    apply (h.mirrors_checkTy hstable).bind
    intro type
    apply (mirrors_requireValueType type _ _).bind
    intro _
    exact mirrors_pure rfl

theorem mirrors_checkUnion {declared : SourceUnion} (hstable : Stable σ declared.references) :
  Mirrors σ settled (Union.rename σ) (checkUnion setting declared) (checkUnion other declared)
  := by
  apply (mirrors_checkTypeParams _ _ _).bind
  intro _
  apply mirrors_guard Iff.rfl fun _ => rfl
  apply (mirrors_checkDistinct _ _ _ _).bind
  intro _
  have hwithin := h.within declared.typeParams
  rw [SourceUnion.references, referencesOfOpenTys, List.flatMap_map, stable_flatMap] at hstable
  apply (Mirrors.mapM fun option hmem =>
    hwithin.mirrors_checkOption declared (hstable option hmem)).bind
  intro options
  apply mirrors_pure
  rw [Union.rename, hwithin.module]

theorem mirrors_checkFunctionHeader {declared : SourceFunction}
    (hstable : Stable σ declared.references) :
  Mirrors σ settled (FunctionHeader.rename σ) (checkFunctionHeader setting declared)
    (checkFunctionHeader other declared)
  := by
  rw [SourceFunction.references, stable_append, stable_append] at hstable
  apply (mirrors_checkTypeParams _ _ _).bind
  intro _
  have hwithin := h.within declared.typeParams
  apply (hwithin.mirrors_checkArgs hstable.1 _ _).bind
  intro args
  apply (hwithin.mirrors_checkTy hstable.2.1).bind
  intro output
  apply mirrors_pure
  rw [FunctionHeader.rename, hwithin.module]

end Written

end Setting.MirrorsTypes

end Types

end TypedModules
