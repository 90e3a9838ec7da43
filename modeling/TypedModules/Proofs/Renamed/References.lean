import TypedModules.Proofs.Renamed.Ty
import TypedModules.Source.Context

/-!
# The references of a context

The references that a module writes, in its types, its bodies and its headers.  A reference is
stable under a renaming if it admits a module exactly if it admits the renamed one, as every
reference does that names no version if only versions are renamed.
-/

namespace TypedModules

/-! ### Written references -/

mutual

/-- The references in a written type. -/
def SourceTy.references : SourceTy → List Reference
  | .integer => []
  | .natural => []
  | .boolean => []
  | .list element => element.references
  | .tryOf inner => inner.references
  | .function _ _ args output _ => referencesOfTys args ++ output.references
  | .named _ reference params _ => reference :: referencesOfTys params

/-- The references in written types. -/
def referencesOfTys : List SourceTy → List Reference
  | [] => []
  | type :: rest => type.references ++ referencesOfTys rest

end

/-- The references in written types of which some are absent. -/
def referencesOfOpenTys (types : List (Option SourceTy)) : List Reference :=
  types.flatMap fun type => (type.map SourceTy.references).getD []

/-- The references in written arguments. -/
def referencesOfArgs (args : List SourceArg) : List Reference :=
  args.flatMap (·.type.references)

mutual

/-- The references in a written expression. -/
def SourceExpr.references : SourceExpr → List Reference
  | .variable _ _ => []
  | .literal type _ _ => type.references
  | .list items element _ => element.references ++ referencesOfExprs items
  | .follow receiver _ _ => receiver.references
  | .call function args chosen _ =>
    function :: (referencesOfTys chosen ++ referencesOfExprs args)
  | .callValue function args chosen _ =>
    function.references ++ (referencesOfTys chosen ++ referencesOfExprs args)
  | .bind function slots chosen _ =>
    function :: (referencesOfOpenTys chosen ++ referencesOfSlots slots)
  | .bindValue function slots chosen _ =>
    function.references ++ (referencesOfOpenTys chosen ++ referencesOfSlots slots)
  | .ifThen condition thenBlock elseBlock _ =>
    condition.references ++ (thenBlock.references ++ elseBlock.references)
  | .closure args output body _ =>
    referencesOfArgs args ++ (output.references ++ body.references)

/-- The references in written expressions. -/
def referencesOfExprs : List SourceExpr → List Reference
  | [] => []
  | expr :: rest => expr.references ++ referencesOfExprs rest

/-- The references in the written expressions of slots. -/
def referencesOfSlots : List (Option SourceExpr) → List Reference
  | [] => []
  | none :: rest => referencesOfSlots rest
  | some expr :: rest => expr.references ++ referencesOfSlots rest

/-- The references in a written statement. -/
def SourceStmt.references : SourceStmt → List Reference
  | .assign _ none value _ => value.references
  | .assign _ (some type) value _ => type.references ++ value.references
  | .bare value => value.references

/-- The references in written statements. -/
def referencesOfStmts : List SourceStmt → List Reference
  | [] => []
  | statement :: rest => statement.references ++ referencesOfStmts rest

/-- The references in a written block. -/
def SourceBlock.references : SourceBlock → List Reference
  | .mk statements _ => referencesOfStmts statements

end

/-- The references in a written struct. -/
def SourceStruct.references (declared : SourceStruct) : List Reference :=
  declared.members.flatMap (·.type.references)
    ++ (declared.requires.map SourceBlock.references).getD []

/-- The references in a written method. -/
def SourceMethod.references (method : SourceMethod) : List Reference :=
  referencesOfArgs method.args ++ method.output.references

/-- The references in a written interface. -/
def SourceInterface.references (declared : SourceInterface) : List Reference :=
  declared.methods.flatMap SourceMethod.references

/-- The references in a written union. -/
def SourceUnion.references (declared : SourceUnion) : List Reference :=
  referencesOfOpenTys (declared.options.map (·.type))

/-- The references in a written function. -/
def SourceFunction.references (declared : SourceFunction) : List Reference :=
  referencesOfArgs declared.args ++ (declared.output.references ++ declared.body.references)

/-- The references that a context writes. -/
def Context.references (context : Context) : List Reference :=
  context.structs.flatMap SourceStruct.references
    ++ (context.interfaces.flatMap SourceInterface.references
    ++ (context.unions.flatMap SourceUnion.references
    ++ context.functions.flatMap SourceFunction.references))

theorem referencesOfTys_eq_flatMap (types : List SourceTy) :
  referencesOfTys types = types.flatMap SourceTy.references
  := by
  induction types with
  | nil => rfl
  | cons type rest ih => rw [referencesOfTys, ih, List.flatMap_cons]

/-! ### Stable references -/

/-- Whether a reference names no version. -/
def Reference.IsUnversioned (reference : Reference) : Prop :=
  reference.qualifier.bind (·.version) = none

instance (reference : Reference) : Decidable reference.IsUnversioned :=
  inferInstanceAs (Decidable (_ = none))

/-- Whether a reference admits the same modules under other names. -/
def Reference.Stable (σ : Renaming) (reference : Reference) : Prop :=
  ∀ module, reference.admits (σ.module module) = reference.admits module

/-- Whether all references of a list are stable. -/
def Stable (σ : Renaming) (references : List Reference) : Prop :=
  ∀ reference ∈ references, reference.Stable σ

variable {σ : Renaming}

@[simp]
theorem stable_append {first second : List Reference} :
  Stable σ (first ++ second) ↔ Stable σ first ∧ Stable σ second
  := List.forall_mem_append

@[simp]
theorem stable_cons {reference : Reference} {rest : List Reference} :
  Stable σ (reference :: rest) ↔ reference.Stable σ ∧ Stable σ rest
  := List.forall_mem_cons

theorem stable_flatMap {α : Type} {references : α → List Reference} {items : List α} :
  Stable σ (items.flatMap references) ↔ ∀ item ∈ items, Stable σ (references item)
  := List.forall_mem_flatMap

/-- Types that are all present have the references of the types. -/
theorem stable_openTys_some {types : List SourceTy} :
  Stable σ (referencesOfOpenTys (types.map some)) ↔ Stable σ (referencesOfTys types)
  := by
  rw [referencesOfOpenTys, List.flatMap_map, referencesOfTys_eq_flatMap]
  rfl

/-- Every reference is stable if no module is renamed. -/
theorem Reference.stable_refl (reference : Reference) :
  reference.Stable .refl
  := fun _ => rfl

/-- A reference without a version is stable if only versions are renamed. -/
theorem Reference.IsUnversioned.stable {reference : Reference} (h : reference.IsUnversioned)
    (hname : ∀ module, (σ.module module).name = module.name) :
  reference.Stable σ
  := by
  intro module
  unfold IsUnversioned at h
  unfold admits
  cases hqualifier : reference.qualifier with
  | none => rfl
  | some qualifier =>
    rw [hqualifier, Option.bind_some] at h
    simp [Qualifier.admits, h, hname]

end TypedModules
