import TypedModules.Check.LiteralForm
import TypedModules.Proofs.Check.Data
import TypedModules.Proofs.Renamed.References
import TypedModules.Proofs.Renamed.Tree
import TypedModules.Proofs.Renamed.Types

/-!
# Calls where modules are renamed

A setting mirrors another if it does as far as types go and the definitions of each module mirror
those of the renamed one in the other.  Then what the setting says of a type, whether it is plain
data, which literals it has and which members, is what the other says of the renamed type; and the
checks of calls and bindings mirror each other.

The main statements are `isData_rename`, `mirrors_groundCall` and `mirrors_bindFunction`.
-/

namespace TypedModules

open Check

/-- Whether a setting mirrors another.  It is settled that what is visible as a function has a
signature, if it is settled at all that nothing stands behind a failed declaration. -/
structure Setting.Mirrors (σ : Renaming) (settled : Prop) (setting other : Setting) : Prop
    extends setting.MirrorsTypes σ settled other where
  number : other.number = setting.number
  definitions? : ∀ module, Option.Rel (Definitions.Mirrors σ) (setting.definitions? module)
    (other.definitions? (σ.module module))
  shapeCount : other.shapeCount = setting.shapeCount
  hasName : ∀ space id, other.scope.hasName space id = setting.scope.hasName space id
  callable : settled → ∀ reference entry, setting.scope.resolve .function reference = .ok entry →
    setting.signature? entry ≠ none

variable {σ : Renaming} {settled : Prop} {setting other : Setting}

/-- The reason why a type has no literals, with its modules renamed. -/
def LiteralFault.rename (σ : Renaming) : LiteralFault → LiteralFault
  | noForm => noForm
  | cycle entity => cycle (entity.rename σ)

theorem rename_eq_stringEntity {entity : Entity} :
  entity.rename σ = stringEntity ↔ entity = stringEntity
  := by
  have hstring : stringEntity.rename σ = stringEntity := congrArg (Entity.mk · _) σ.native
  have h := @Entity.rename_inj σ entity stringEntity
  rwa [hstring] at h

namespace Setting.Mirrors

section Definitions

variable (h : setting.Mirrors σ settled other)
include h

theorem within (typeParams : List TypeParam) :
  (setting.within typeParams).Mirrors σ settled (other.within typeParams)
  := { h.toMirrorsTypes.within typeParams with
    number := h.number
    definitions? := h.definitions?
    shapeCount := h.shapeCount
    hasName := h.hasName
    callable := h.callable }

/-- What is looked up in the definitions of a module is found in those of the renamed one. -/
theorem bind_definitions? {α : Type} {find find' : Definitions → Option α} {rename : α → α}
    (hfind : ∀ definitions others : Definitions, definitions.Mirrors σ others →
      find' others = (find definitions).map rename) (module : ModuleId) :
  (other.definitions? (σ.module module)).bind find'
    = ((setting.definitions? module).bind find).map rename
  := by
  have hdefinitions := h.definitions? module
  generalize setting.definitions? module = definitions at hdefinitions ⊢
  generalize other.definitions? (σ.module module) = others at hdefinitions ⊢
  cases hdefinitions with
  | none => rfl
  | some hmirrors => exact hfind _ _ hmirrors

theorem signature?_rename (entry : Visible) :
  other.signature? (entry.rename σ) = (setting.signature? entry).map (Signature.rename σ)
  := h.bind_definitions? (fun _ _ hmirrors => hmirrors.signature? _ _) _

theorem opaque?_rename (entity : Entity) :
  other.opaque? (entity.rename σ) = setting.opaque? entity
  := by
  have hopaque : (other.definitions? (σ.module entity.module)).bind (·.opaque? entity.id)
      = ((setting.definitions? entity.module).bind (·.opaque? entity.id)).map id := by
    apply h.bind_definitions?
    intro definitions others hmirrors
    rw [hmirrors.opaque?, Option.map_id, id]
  rwa [Option.map_id] at hopaque

theorem memberType_rename (type : Ty) (name : String) :
  other.memberType (type.rename σ) name = (setting.memberType type name).rename σ
  := by
  cases type with
  | named isReference entity written args =>
    rw [Ty.rename, Ty.renameAll_eq_map]
    have hdefinitions := h.definitions? entity.module
    unfold Setting.memberType
    dsimp only [Entity.rename]
    generalize setting.definitions? entity.module = definitions at hdefinitions ⊢
    generalize other.definitions? (σ.module entity.module) = others at hdefinitions ⊢
    cases hdefinitions with
    | none => rfl
    | some hmirrors => exact hmirrors.memberType _ _ _
  | _ => rfl

/-! ### Plain data -/

theorem parts?_rename (entity : Entity) (args : List Ty) :
  other.parts? (entity.rename σ) (args.map (Ty.rename σ))
    = (setting.parts? entity args).map (List.map (Ty.rename σ))
  := by
  refine h.bind_definitions? ?_ entity.module
  intro definitions others hmirrors
  rw [show (entity.rename σ).id = entity.id from rfl, hmirrors.struct?, hmirrors.union?]
  cases definitions.struct? entity.id with
  | some header => simp [StructHeader.rename]
  | none =>
    simp only [Option.map_none, Option.map_map]
    congr 1
    funext union
    simp [Union.rename, UnionOption.rename, List.filterMap_map, List.map_filterMap,
      Function.comp_def]

/-- A type is plain data if the renamed type is, as far as what it unfolds to is. -/
theorem isDataBy_rename {unfold unfold' : Entity → List Ty → Bool}
    (hunfold : ∀ entity args,
      unfold' (entity.rename σ) (args.map (Ty.rename σ)) = unfold entity args) (type : Ty) :
  other.isDataBy unfold' (type.rename σ) = setting.isDataBy unfold type
  := by
  induction type using type_induction with
  | integer | natural | boolean | param | internal => rfl
  | list element ih | tryOf element ih => simpa [Ty.rename, isDataBy] using ih
  | function => rfl
  | named isReference entity written params ih =>
    rw [Ty.rename, Ty.renameAll_eq_map]
    unfold Setting.isDataBy
    rw [h.opaque?_rename, hunfold, areDataBy_eq_all, areDataBy_eq_all, List.all_map,
      Ty.all_map_rename ih]

theorem isDataWithin_rename (depth : Nat) (visiting : List Entity) (type : Ty) :
  other.isDataWithin depth (visiting.map (Entity.rename σ)) (type.rename σ)
    = setting.isDataWithin depth visiting type
  := by
  induction depth generalizing visiting type with
  | zero => rfl
  | succ depth ih =>
    apply h.isDataBy_rename
    intro entity args
    rw [Entity.contains_map_rename, h.parts?_rename]
    cases setting.parts? entity args with
    | none => rfl
    | some parts =>
      have hparts : (parts.map (Ty.rename σ)).all
          (other.isDataWithin depth ((entity :: visiting).map (Entity.rename σ)))
            = parts.all (setting.isDataWithin depth (entity :: visiting)) := by
        rw [List.all_map]
        exact Ty.all_map_rename fun part _ => ih (entity :: visiting) part
      exact congrArg (visiting.contains entity || ·) hparts

/-- A type is plain data exactly if the renamed type is. -/
@[simp]
theorem isData_rename (type : Ty) :
  other.isData (type.rename σ) = setting.isData type
  := by
  unfold Setting.isData
  rw [h.shapeCount]
  exact h.isDataWithin_rename _ [] type

/-! ### Literals -/

theorem onlyMember?_rename (entity : Entity) (args : List Ty) :
  other.onlyMember? (entity.rename σ) (args.map (Ty.rename σ))
    = (setting.onlyMember? entity args).map (Ty.rename σ)
  := by
  unfold Setting.onlyMember?
  rw [Entity.rename, h.bind_definitions? fun _ _ hmirrors => hmirrors.struct? entity.id]
  cases (setting.definitions? entity.module).bind (·.struct? entity.id) with
  | none => rfl
  | some header =>
    obtain ⟨id, module, typeParams, members, isRestricted, annotations⟩ := header
    rcases members with _ | ⟨member, _ | ⟨second, rest⟩⟩ <;> simp [StructHeader.rename]

theorem literalFormWithin_rename (depth : Nat) (seen : List Entity) (type : Ty) :
  other.literalFormWithin depth (seen.map (Entity.rename σ)) (type.rename σ)
    = (setting.literalFormWithin depth seen type).mapError (LiteralFault.rename σ)
  := by
  induction depth generalizing seen type with
  | zero => rfl
  | succ depth ih =>
    cases type with
    | named isReference entity written args =>
      rw [Ty.rename, Ty.renameAll_eq_map]
      unfold literalFormWithin
      rw [h.onlyMember?_rename, Entity.contains_map_rename]
      by_cases he : entity = stringEntity
      · rw [if_pos he, if_pos (rename_eq_stringEntity.mpr he)]
        rfl
      · rw [if_neg he, if_neg (mt rename_eq_stringEntity.mp he)]
        cases setting.onlyMember? entity args with
        | none => rfl
        | some member =>
          dsimp only [Option.map_some]
          split
          · rfl
          · exact ih (entity :: seen) member
    | _ => rfl

/-- A type has the literals that the renamed type has. -/
theorem literalForm_rename (type : Ty) :
  other.literalForm (type.rename σ)
    = (setting.literalForm type).mapError (LiteralFault.rename σ)
  := by
  unfold Setting.literalForm
  rw [h.shapeCount]
  exact h.literalFormWithin_rename _ [] type

/-! ### Calls and bindings -/

theorem mirrors_checkChoice (callee : String) (location : Option Location) (param : TypeParam)
    (type : Ty) :
  Check.Mirrors σ settled id (checkChoice setting callee location param type)
    (checkChoice other callee location param (type.rename σ))
  := by
  unfold checkChoice
  rw [Ty.isReference_rename, Ty.text_rename, h.isData_rename]
  apply mirrors_ite Iff.rfl
  · exact (mirrors_report _ _ fun _ => rfl).bind fun _ => mirrors_pure rfl
  · apply mirrors_ite Iff.rfl
    · exact (mirrors_report _ _ fun _ => rfl).bind fun _ => mirrors_pure rfl
    · exact mirrors_pure rfl

theorem mirrors_checkChoices (callee : String) (location : Option Location)
    (params : List TypeParam) (chosen : List (Option Ty)) :
  Check.Mirrors σ settled id (checkChoices setting callee location params chosen)
    (checkChoices other callee location params (chosen.map (Option.map (Ty.rename σ))))
  := by
  induction params generalizing chosen with
  | nil => exact mirrors_pure rfl
  | cons param params ih =>
    rcases chosen with _ | ⟨_ | type, chosen⟩
    · exact mirrors_pure rfl
    · exact ih chosen
    · apply (h.mirrors_checkChoice callee location param type).bind
      intro first
      apply (ih chosen).bind
      intro others
      exact mirrors_pure rfl

theorem mirrors_chooseTypeArgs (function : FunctionType) (written supplied : List (Option Ty))
    (callee : String) (location : Option Location) :
  Check.Mirrors σ settled (List.map (Option.map (Ty.rename σ)))
    (chooseTypeArgs setting function written supplied callee location)
    (chooseTypeArgs other (function.rename σ) (written.map (Option.map (Ty.rename σ)))
      (supplied.map (Option.map (Ty.rename σ))) callee location)
  := by
  unfold chooseTypeArgs
  rw [inferTypeArgs_rename]
  rcases inferTypeArgs function written supplied with (_ | _ | _) | chosen
  · exact mirrors_fail _ _ fun _ => rfl
  · exact mirrors_fail _ _ fun _ => rfl
  · exact mirrors_fail _ _ fun _ => rfl
  · apply (h.mirrors_checkChoices callee location function.typeParams chosen).bind
    intro fits
    apply mirrors_ite Iff.rfl
    · exact mirrors_pure rfl
    · exact (mirrors_abort : Check.Mirrors σ settled id _ _).bind fun _ => mirrors_pure rfl

end Definitions

/-- The arguments of a call are compared with types in which the same modules are renamed. -/
theorem mirrors_checkArgTypes (callee : String) (location : Option Location) (position : Nat)
    (args : List Expr) (expected : List Ty) :
  Check.Mirrors σ settled id (checkArgTypes callee location position args expected)
    (checkArgTypes callee location position (args.map (Expr.rename σ))
      (expected.map (Ty.rename σ)))
  := by
  induction args generalizing position expected with
  | nil => exact mirrors_pure rfl
  | cons arg args ih =>
    cases expected with
    | nil => exact mirrors_pure rfl
    | cons type rest =>
      rw [List.map_cons, List.map_cons]
      unfold checkArgTypes
      rw [Expr.type_rename, Ty.same_rename, Ty.text_rename, Ty.text_rename]
      exact mirrors_unless Iff.rfl (fun _ => rfl) (ih _ _)

theorem mirrors_checkSlotTypes (callee : String) (location : Option Location) (position : Nat)
    (slots : List (Option Expr)) (expected : List (Option Ty)) :
  Check.Mirrors σ settled id (checkSlotTypes callee location position slots expected)
    (checkSlotTypes callee location position (slots.map (Option.map (Expr.rename σ)))
      (expected.map (Option.map (Ty.rename σ))))
  := by
  induction slots generalizing position expected with
  | nil => exact mirrors_pure rfl
  | cons slot slots ih =>
    cases expected with
    | nil => cases slot <;> exact mirrors_pure rfl
    | cons type rest =>
      cases slot with
      | none => exact ih _ _
      | some value =>
        cases type with
        | none => exact mirrors_fail _ _ fun _ => rfl
        | some type =>
          rw [List.map_cons, List.map_cons, Option.map_some, Option.map_some]
          unfold checkSlotTypes
          rw [Expr.type_rename, Ty.same_rename, Ty.text_rename, Ty.text_rename]
          exact mirrors_unless Iff.rfl (fun _ => rfl) (ih _ _)

/-- The type of what is called is the type of the renamed expression. -/
theorem mirrors_calleeType (function : Expr) (location : Option Location) :
  Check.Mirrors σ settled (FunctionType.rename σ) (calleeType function location)
    (calleeType (function.rename σ) location)
  := by
  unfold calleeType
  rw [Expr.type_rename, Ty.function?_rename, Ty.text_rename]
  cases function.type.function? with
  | some type => exact mirrors_pure rfl
  | none => exact mirrors_fail _ _ fun _ => rfl

section Calls

variable (h : setting.Mirrors σ settled other)
include h

theorem mirrors_groundCall (function : FunctionType) (written : List (Option Ty))
    (args : List Expr) (callee : String) (location : Option Location) :
  Check.Mirrors σ settled (Prod.map (List.map (Ty.rename σ)) (FunctionType.rename σ))
    (groundCall setting function written args callee location)
    (groundCall other (function.rename σ) (written.map (Option.map (Ty.rename σ)))
      (args.map (Expr.rename σ)) callee location)
  := by
  have hsupplied : (args.map (Expr.rename σ)).map (fun a => some a.type)
      = (args.map fun a => some a.type).map (Option.map (Ty.rename σ)) := by
    simp [Function.comp_def]
  unfold groundCall
  rw [List.length_map, FunctionType.args_rename, List.length_map, hsupplied]
  apply mirrors_guard Iff.rfl fun _ => rfl
  apply (h.mirrors_chooseTypeArgs function written _ callee location).bind
  intro chosen
  rw [mapM_id_map]
  cases chosen.mapM id with
  | none => exact mirrors_fail _ _ fun _ => rfl
  | some chosen =>
    rw [Option.map_some]
    dsimp only
    rw [FunctionType.ground_rename]
    apply (mirrors_checkArgTypes callee location 1 args (function.ground chosen).args).bind
    intro _
    exact mirrors_pure rfl

theorem mirrors_bindFunction (function : FunctionType) (written : List (Option Ty))
    (slots : List (Option Expr)) (callee : String) (location : Option Location) :
  Check.Mirrors σ settled
    (Prod.map (List.map (Option.map (Ty.rename σ))) (FunctionType.rename σ))
    (bindFunction setting function written slots callee location)
    (bindFunction other (function.rename σ) (written.map (Option.map (Ty.rename σ)))
      (slots.map (Option.map (Expr.rename σ))) callee location)
  := by
  have hsupplied : (slots.map (Option.map (Expr.rename σ))).map (fun slot => slot.map (·.type))
      = (slots.map fun slot => slot.map (·.type)).map (Option.map (Ty.rename σ)) := by
    simp [Function.comp_def]
  unfold bindFunction
  rw [List.length_map, FunctionType.args_rename, List.length_map, hsupplied]
  apply mirrors_guard Iff.rfl fun _ => rfl
  apply (h.mirrors_chooseTypeArgs function written _ callee location).bind
  intro chosen
  dsimp only
  rw [FunctionType.rebindTypes_rename, FunctionType.bindableArgs_rename,
    FunctionType.rebindArgs_rename]
  apply (mirrors_checkSlotTypes callee location 1 slots _).bind
  intro _
  exact mirrors_pure rfl

/-- A named callee stands for the renamed entity, of the renamed type. -/
theorem mirrors_callee {function : Reference} (hstable : function.Stable σ)
    (location : Option Location) :
  Check.Mirrors σ settled (Prod.map (Entity.rename σ) (FunctionType.rename σ))
    (setting.callee function location) (other.callee function location)
  := by
  apply (h.mirrors_resolve .function hstable location).bind_of
  intro behind entry hentry
  rw [h.signature?_rename]
  cases hsignature : setting.signature? entry with
  | none =>
    exact mirrors_failBehind (fun hs => h.callable hs _ _ (ok_of_resolve hentry) hsignature) _
  | some signature => exact mirrors_pure (by rw [Signature.functionType_rename]; rfl)

end Calls

end Setting.Mirrors

end TypedModules
