import TypedModules.Proofs.Check.Types

/-!
# What written types stand for

A written type and the type that a check makes of it have one shape.  A name stands for a type
parameter if there is one of that name around it, the innermost first, and otherwise for an
entity; `SourceTy.StandsFor` says so for a given meaning of references, apart from how a check
finds it and from what the check demands besides.
-/

namespace TypedModules

open Check

/-! ### Names -/

/-- Whether a reference with type arguments is written as a name is: without a module, with one
segment and without arguments. -/
def Reference.IsName (reference : Reference) (args : List SourceTy) (name : String) : Prop :=
  args = [] ∧ reference = ⟨none, ⟨[name]⟩⟩

/-- The type parameter that a name stands for, among those of the function types around it and
those of the declaration. -/
inductive ParamNamed (typeParams : List TypeParam) (internal : List String) (name : String) :
    Ty → Prop
  | internal {index : Nat} :
    internal.idxOf? name = some index → ParamNamed typeParams internal name (.internal index)
  | declared {param : TypeParam} :
    name ∉ internal → typeParams.find? (·.name == name) = some param →
    ParamNamed typeParams internal name (.param param)

theorem single?_eq_some {id : EntityId} {name : String} :
  id.single? = some name ↔ id = ⟨[name]⟩
  := by
  obtain ⟨segments⟩ := id
  rcases segments with _ | ⟨first, _ | ⟨second, rest⟩⟩ <;> simp [EntityId.single?]

section TypeParams

variable {setting : Setting} {internal : List String} {reference : Reference}
  {args : List SourceTy}

/-- Only names stand for type parameters. -/
theorem typeParam?_of_not_isName (h : ∀ name, ¬reference.IsName args name) :
  setting.typeParam? internal reference (!args.isEmpty) = none
  := by
  obtain ⟨qualifier, id⟩ := reference
  unfold Setting.typeParam?
  split
  · rfl
  next hplain =>
    obtain ⟨rfl, rfl⟩ : args = [] ∧ qualifier = none := by simpa using hplain
    have hsingle : id.single? = none := by
      rw [Option.eq_none_iff_forall_ne_some]
      intro name hname
      exact h name ⟨rfl, congrArg _ (single?_eq_some.mp hname)⟩
    rw [hsingle, Option.bind_none]

theorem typeParam?_of_isName {name : String} (h : reference.IsName args name) :
  setting.typeParam? internal reference (!args.isEmpty)
    = match internal.idxOf? name with
      | some index => some (.internal index)
      | none => (setting.typeParams.find? (·.name == name)).map .param
  := by
  obtain ⟨rfl, rfl⟩ := h
  rfl

/-- A reference stands for a type parameter if it is a name that one has. -/
theorem typeParam?_eq_some {type : Ty} :
  setting.typeParam? internal reference (!args.isEmpty) = some type
    ↔ ∃ name, reference.IsName args name ∧ ParamNamed setting.typeParams internal name type
  := by
  by_cases hname : ∃ name, reference.IsName args name
  case neg =>
    rw [typeParam?_of_not_isName (not_exists.mp hname)]
    exact ⟨nofun, fun ⟨name, h, _⟩ => absurd ⟨name, h⟩ hname⟩
  obtain ⟨name, hname⟩ := hname
  have hunique : ∀ other, reference.IsName args other → other = name := by
    rintro other ⟨-, hother⟩
    simpa [hname.2] using hother.symm
  rw [typeParam?_of_isName hname]
  cases hindex : internal.idxOf? name with
  | some index =>
    simp only [Option.some.injEq]
    constructor
    · rintro rfl
      exact ⟨name, hname, .internal hindex⟩
    · rintro ⟨other, hother, hparam⟩
      obtain rfl := hunique other hother
      cases hparam with
      | internal hindex' => rw [Option.some.inj (hindex.symm.trans hindex')]
      | declared hnone => rw [List.idxOf?_eq_none_iff.mpr hnone] at hindex; cases hindex
  | none =>
    have hnone := List.idxOf?_eq_none_iff.mp hindex
    simp only [Option.map_eq_some_iff]
    constructor
    · rintro ⟨param, hparam, rfl⟩
      exact ⟨name, hname, .declared hnone hparam⟩
    · rintro ⟨other, hother, hparam⟩
      obtain rfl := hunique other hother
      cases hparam with
      | internal hindex' => rw [hindex] at hindex'; cases hindex'
      | declared _ hparam => exact ⟨_, hparam, rfl⟩

end TypeParams

/-! ### Written types -/

section StandsFor

variable (names : Reference → Entity → Prop) (typeParams : List TypeParam)

mutual

/-- Whether a type is the one that a written type stands for, where references name entities;
`internal` names the parameters of the function types around it. -/
def SourceTy.StandsFor (internal : List String) : SourceTy → Ty → Prop
  | .integer, type => type = .integer
  | .natural, type => type = .natural
  | .boolean, type => type = .boolean
  | .list element, type => ∃ e, element.StandsFor internal e ∧ type = .list e
  | .tryOf inner, type => ∃ e, inner.StandsFor internal e ∧ type = .tryOf e
  | .function isReference params args output _, type =>
    ∃ as o, StandForAll (params.map (·.name) ++ internal) args as
      ∧ output.StandsFor (params.map (·.name) ++ internal) o
      ∧ type = .function isReference params as o
  | .named isReference reference args _, type =>
    (∃ name, reference.IsName args name ∧ ParamNamed typeParams internal name type)
      ∨ (∀ name, reference.IsName args name → ∀ param, ¬ParamNamed typeParams internal name param)
        ∧ ∃ entity types, names reference entity ∧ StandForAll internal args types
          ∧ type = .named isReference entity reference types

/-- Whether types are those that written types stand for, position by position. -/
def SourceTy.StandForAll (internal : List String) : List SourceTy → List Ty → Prop
  | [], types => types = []
  | first :: rest, types =>
    ∃ type others, first.StandsFor internal type ∧ StandForAll internal rest others
      ∧ types = type :: others

end

end StandsFor

/-- What the references to types mean in a scope. -/
def Scope.names (scope : Scope) (reference : Reference) (entity : Entity) : Prop :=
  ∃ entry, scope.resolve .type reference = .ok entry ∧ entry.entity = entity

section Passes

variable {setting : Setting}

mutual

/-- A written type that passes stands for the type that its check makes of it. -/
theorem standsFor_checkTyWithin : (internal : List String) → (written : SourceTy) → {type : Ty} →
    (checkTyWithin setting internal written).Passes type →
      written.StandsFor setting.scope.names setting.typeParams internal type
  | _, .integer, type, h => by
    rw [SourceTy.StandsFor]
    exact (passes_pure.mp h).symm
  | _, .natural, type, h => by
    rw [SourceTy.StandsFor]
    exact (passes_pure.mp h).symm
  | _, .boolean, type, h => by
    rw [SourceTy.StandsFor]
    exact (passes_pure.mp h).symm
  | internal, .list element, type, h => by
    obtain ⟨e, he, -, rfl⟩ := passes_checkTyWithin_list.mp h
    rw [SourceTy.StandsFor]
    exact ⟨e, standsFor_checkTyWithin internal element he, rfl⟩
  | internal, .tryOf inner, type, h => by
    obtain ⟨e, he, -, rfl⟩ := passes_checkTyWithin_tryOf.mp h
    rw [SourceTy.StandsFor]
    exact ⟨e, standsFor_checkTyWithin internal inner he, rfl⟩
  | internal, .function isReference params args output location, type, h => by
    obtain ⟨-, as, o, has, ho, rfl⟩ := passes_checkTyWithin_function.mp h
    rw [SourceTy.StandsFor]
    exact ⟨as, o, standForAll_checkTysWithin _ args has, standsFor_checkTyWithin _ output ho, rfl⟩
  | internal, .named isReference reference args location, type, h => by
    rw [SourceTy.StandsFor]
    obtain hparam | ⟨hnone, ⟨entity, header⟩, types, hfound, htypes, rfl⟩ :=
      passes_checkTyWithin_named.mp h
    · exact .inl (typeParam?_eq_some.mp hparam)
    · obtain ⟨entry, hentry, -, rfl, hmarked, -⟩ := passes_namedHeader.mp hfound
      refine .inr ⟨fun name hname param hparam => ?_, entry.entity, types, ⟨entry, hentry, rfl⟩,
        standForAll_checkTyArgsWithin internal location args htypes, by rw [hmarked]⟩
      have hsome := typeParam?_eq_some.mpr ⟨name, hname, hparam⟩
      rw [hnone] at hsome
      cases hsome

theorem standForAll_checkTysWithin : (internal : List String) → (written : List SourceTy) →
    {types : List Ty} → (checkTysWithin setting internal written).Passes types →
      SourceTy.StandForAll setting.scope.names setting.typeParams internal written types
  | _, [], types, h => by
    rw [SourceTy.StandForAll]
    exact (passes_pure.mp h).symm
  | internal, first :: rest, types, h => by
    simp only [checkTysWithin, passes_bind, passes_pure] at h
    obtain ⟨type, htype, others, hothers, rfl⟩ := h
    rw [SourceTy.StandForAll]
    exact ⟨type, others, standsFor_checkTyWithin internal first htype,
      standForAll_checkTysWithin internal rest hothers, rfl⟩

theorem standForAll_checkTyArgsWithin : (internal : List String) →
    (location : Option Location) → (written : List SourceTy) → {types : List Ty} →
      (checkTyArgsWithin setting internal location written).Passes types →
        SourceTy.StandForAll setting.scope.names setting.typeParams internal written types
  | _, _, [], types, h => by
    rw [SourceTy.StandForAll]
    exact (passes_pure.mp h).symm
  | internal, location, first :: rest, types, h => by
    simp only [checkTyArgsWithin, passes_bind, passes_pure, passes_requireValueType] at h
    obtain ⟨type, htype, _, -, others, hothers, rfl⟩ := h
    rw [SourceTy.StandForAll]
    exact ⟨type, others, standsFor_checkTyWithin internal first htype,
      standForAll_checkTyArgsWithin internal location rest hothers, rfl⟩

end

end Passes

end TypedModules
