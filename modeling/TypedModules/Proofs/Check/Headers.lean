import TypedModules.Proofs.Check.Types

/-!
# Checks of headers

When the check of a header passes, and with which header.  Settings that see the same types
check headers alike.
-/

namespace TypedModules

open Check

theorem exists_argument {P : Ty → Prop} {name : String} {result : Argument} :
  (∃ type, P type ∧ Argument.mk name type = result) ↔ P result.type ∧ name = result.name
  := by
  obtain ⟨_, type⟩ := result
  simp only [Argument.mk.injEq]
  constructor
  · rintro ⟨_, hP, rfl, rfl⟩
    exact ⟨hP, rfl⟩
  · rintro ⟨hP, rfl⟩
    exact ⟨type, hP, rfl, rfl⟩

section Headers

variable {setting : Setting}

@[simp]
theorem passes_checkTypeParams {typeParams : List TypeParam} {owner : EntityId}
    {location : Option Location} {a : Unit} :
  (checkTypeParams typeParams owner location).Passes a ↔ (typeParams.map (·.name)).Nodup
  := passes_checkDistinct

theorem passes_checkArgs {args : List SourceArg} {owner : EntityId}
    {location : Option Location} {results : List Argument} :
  (checkArgs setting args owner location).Passes results
    ↔ (args.map (·.name)).Nodup ∧ List.Forall₂ (fun arg result =>
      (checkTy setting arg.type).Passes result.type ∧ arg.name = result.name) args results
  := by
  simp only [checkArgs, passes_bind, passes_checkDistinct, exists_const, passes_mapM,
    passes_pure, exists_argument]

theorem passes_checkStructHeader {declared : SourceStruct} {header : StructHeader} :
  (checkStructHeader setting declared).Passes header
    ↔ (declared.typeParams.map (·.name)).Nodup ∧ (declared.members.map (·.name)).Nodup
      ∧ ∃ members, List.Forall₂ (fun member result =>
          ((checkTy (setting.within declared.typeParams) member.type).Passes result.type
            ∧ result.type.isReference = false) ∧ member.name = result.name)
          declared.members members
        ∧ ⟨declared.id, setting.module, declared.typeParams, members,
          declared.requires.isSome, declared.annotations⟩ = header
  := by
  have hmember : ∀ (member : SourceMember) (result : Argument),
      (∃ type, (checkTy (setting.within declared.typeParams) member.type).Passes type
        ∧ ¬type.isReference = true ∧ ⟨member.name, type⟩ = result)
      ↔ ((checkTy (setting.within declared.typeParams) member.type).Passes result.type
        ∧ result.type.isReference = false) ∧ member.name = result.name := by
    intro member result
    rw [← Bool.not_eq_true, ← exists_argument
      (P := fun type => (checkTy _ member.type).Passes type ∧ ¬type.isReference = true)]
    simp only [and_assoc]
  simp only [checkStructHeader, passes_bind, passes_checkTypeParams, passes_checkDistinct,
    exists_const, passes_mapM, passes_pure, passes_guard, hmember]
  rfl

/-- The method that a check of a written one finds, for the names of its type parameters. -/
theorem passes_checkMethod {declared : SourceInterface} {method : SourceMethod}
    {result : Method} :
  (checkMethod setting declared method).Passes result
    ↔ ((declared.typeParams ++ method.typeParams).map (·.name)).Nodup
      ∧ (method.args.map (·.name)).Nodup ∧ ∃ args output,
        List.Forall₂ (fun arg result =>
          (checkTy (setting.within (declared.typeParams ++ method.typeParams))
            arg.type).Passes result.type ∧ arg.name = result.name) method.args args
        ∧ (checkTy (setting.within (declared.typeParams ++ method.typeParams))
            method.output).Passes output
        ∧ ⟨method.name, method.typeParams, args, output⟩ = result
  := by
  simp only [checkMethod, passes_bind, passes_checkTypeParams, exists_const, passes_checkArgs,
    passes_pure, and_assoc]
  simp

theorem passes_checkInterface {declared : SourceInterface} {interface : Interface} :
  (checkInterface setting declared).Passes interface
    ↔ (declared.typeParams.map (·.name)).Nodup ∧ (declared.methods.map (·.name)).Nodup
      ∧ ∃ methods, List.Forall₂ (fun method result =>
          (checkMethod setting declared method).Passes result) declared.methods methods
        ∧ ⟨declared.id, setting.module, declared.typeParams, methods, declared.annotations⟩
          = interface
  := by
  simp only [checkInterface, passes_bind, passes_checkTypeParams, passes_checkDistinct,
    exists_const, passes_mapM, passes_pure]

/-- The option that a check of a written one finds; its value has a type if the written one
has. -/
theorem passes_checkOption {declared : SourceUnion} {option : SourceOption}
    {result : UnionOption} :
  (checkOption setting declared option).Passes result
    ↔ option.name ≠ "when" ∧ Option.Rel (fun written type =>
        (checkTy setting written).Passes type ∧ type.isReference = false) option.type result.type
      ∧ option.name = result.name
  := by
  obtain ⟨name, type⟩ := result
  simp only [checkOption, passes_guard, beq_iff_eq]
  apply and_congr_right
  intro _
  cases e : option.type with
  | none => cases type <;> simp
  | some written => cases type <;> simp [and_assoc]

theorem passes_checkUnion {declared : SourceUnion} {union : Union} :
  (checkUnion setting declared).Passes union
    ↔ (declared.typeParams.map (·.name)).Nodup ∧ ¬declared.options.isEmpty = true
      ∧ (declared.options.map (·.name)).Nodup ∧ ∃ options,
        List.Forall₂ (fun option result =>
          (checkOption (setting.within declared.typeParams) declared option).Passes result)
          declared.options options
        ∧ ⟨declared.id, setting.module, declared.typeParams, options, declared.annotations⟩
          = union
  := by
  simp only [checkUnion, passes_bind, passes_checkTypeParams, passes_checkDistinct,
    exists_const, passes_mapM, passes_pure, passes_guard]
  rfl

theorem passes_checkFunctionHeader {declared : SourceFunction} {header : FunctionHeader} :
  (checkFunctionHeader setting declared).Passes header
    ↔ (declared.typeParams.map (·.name)).Nodup ∧ (declared.args.map (·.name)).Nodup
      ∧ ∃ args, List.Forall₂ (fun arg result =>
          (checkTy (setting.within declared.typeParams) arg.type).Passes result.type
            ∧ arg.name = result.name) declared.args args
        ∧ ∃ output,
          (checkTy (setting.within declared.typeParams) declared.output).Passes output
          ∧ ⟨declared.id, setting.module, declared.typeParams, args, output⟩ = header
  := by
  simp only [checkFunctionHeader, passes_bind, passes_checkTypeParams, exists_const,
    passes_checkArgs, passes_pure, and_assoc, exists_and_left]
  rfl

end Headers

/-! ### Settings that see the same types -/

namespace Setting.SameTypes

variable {a b : Setting} (h : a.SameTypes b)

include h

theorem checkStructHeader {declared : SourceStruct} {header : StructHeader} :
  (checkStructHeader a declared).Passes header ↔ (checkStructHeader b declared).Passes header
  := by
  simp only [passes_checkStructHeader, (h.within declared.typeParams).checkTy, h.module]

theorem checkMethod {declared : SourceInterface} {method : SourceMethod} {result : Method} :
  (checkMethod a declared method).Passes result
    ↔ (checkMethod b declared method).Passes result
  := by
  simp only [passes_checkMethod, (h.within (declared.typeParams ++ method.typeParams)).checkTy]

theorem checkInterface {declared : SourceInterface} {interface : Interface} :
  (checkInterface a declared).Passes interface ↔ (checkInterface b declared).Passes interface
  := by
  simp only [passes_checkInterface, h.checkMethod, h.module]

theorem checkOption {declared : SourceUnion} {option : SourceOption} {result : UnionOption} :
  (checkOption a declared option).Passes result
    ↔ (checkOption b declared option).Passes result
  := by
  simp only [passes_checkOption, h.checkTy]

theorem checkUnion {declared : SourceUnion} {union : Union} :
  (checkUnion a declared).Passes union ↔ (checkUnion b declared).Passes union
  := by
  simp only [passes_checkUnion, (h.within declared.typeParams).checkOption, h.module]

theorem checkFunctionHeader {declared : SourceFunction} {header : FunctionHeader} :
  (checkFunctionHeader a declared).Passes header
    ↔ (checkFunctionHeader b declared).Passes header
  := by
  simp only [passes_checkFunctionHeader, (h.within declared.typeParams).checkTy, h.module]

end Setting.SameTypes

end TypedModules
