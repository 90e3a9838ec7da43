import Mathlib.Logic.Equiv.Basic
import TypedModules.Check.Call
import TypedModules.Proofs.Ty.Function

/-!
# Renaming modules in types

The version of a module is part of the name of each entity that it declares, but nothing that is
done with types looks into it: whatever is made of types in which modules are renamed is what is
made of the types, with its modules renamed.  Only an entity can tell two modules apart, so a
renaming gives different modules different names; and it leaves the native module alone, which
the language itself refers to.
-/

namespace TypedModules

/-- A way of renaming modules. -/
structure Renaming where
  module : ModuleId → ModuleId
  injective : Function.Injective module
  native : module nativeModule = nativeModule

namespace Renaming

/-- The renaming that leaves every module as it is. -/
def refl : Renaming where
  module := id
  injective := Function.injective_id
  native := rfl

@[simp]
theorem module_refl (module : ModuleId) :
  refl.module module = module
  := rfl

/-- The renaming that exchanges two modules. -/
def swap (a b : ModuleId) (ha : a ≠ nativeModule) (hb : b ≠ nativeModule) : Renaming where
  module := Equiv.swap a b
  injective := (Equiv.swap a b).injective
  native := Equiv.swap_apply_of_ne_of_ne ha.symm hb.symm

end Renaming

/-- An entity of the renamed module. -/
def Entity.rename (σ : Renaming) (entity : Entity) : Entity :=
  ⟨σ.module entity.module, entity.id⟩

@[simp]
theorem Entity.rename_refl (entity : Entity) :
  entity.rename .refl = entity
  := rfl

@[simp]
theorem Entity.rename_inj {σ : Renaming} {a b : Entity} :
  a.rename σ = b.rename σ ↔ a = b
  := by
  obtain ⟨m, i⟩ := a
  obtain ⟨n, j⟩ := b
  simp [rename, σ.injective.eq_iff]

@[simp]
theorem Entity.rename_beq {σ : Renaming} (a b : Entity) :
  (a.rename σ == b.rename σ) = (a == b)
  := by
  rw [Bool.eq_iff_iff, beq_iff_eq, beq_iff_eq, rename_inj]

@[simp]
theorem Entity.contains_map_rename {σ : Renaming} (entities : List Entity) (entity : Entity) :
  (entities.map (Entity.rename σ)).contains (entity.rename σ) = entities.contains entity
  := by
  rw [Bool.eq_iff_iff, List.contains_iff_mem, List.contains_iff_mem]
  constructor
  · intro h
    obtain ⟨other, hother, e⟩ := List.mem_map.mp h
    exact rename_inj.mp e ▸ hother
  · exact List.mem_map_of_mem

namespace Ty

mutual

/-- The type with its modules renamed. -/
def rename (σ : Renaming) : Ty → Ty
  | .integer => .integer
  | .natural => .natural
  | .boolean => .boolean
  | .list element => .list (element.rename σ)
  | .tryOf inner => .tryOf (inner.rename σ)
  | .function isReference typeParams args output =>
    .function isReference typeParams (renameAll σ args) (output.rename σ)
  | .named isReference entity written params =>
    .named isReference (entity.rename σ) written (renameAll σ params)
  | .param p => .param p
  | .internal index => .internal index

/-- The types with their modules renamed. -/
def renameAll (σ : Renaming) : List Ty → List Ty
  | [] => []
  | type :: rest => type.rename σ :: renameAll σ rest

end

@[simp]
theorem renameAll_eq_map (σ : Renaming) (types : List Ty) :
  renameAll σ types = types.map (rename σ)
  := by
  induction types with
  | nil => rfl
  | cons type rest ih => simp [renameAll, ih]

variable {σ : Renaming}

@[simp]
theorem rename_refl (type : Ty) :
  type.rename .refl = type
  := by
  induction type using type_induction with
  | integer | natural | boolean | param | internal => rfl
  | list element ih | tryOf element ih => simp [rename, ih]
  | function isReference typeParams args output ihArgs ihOutput =>
    rw [rename, renameAll_eq_map, map_eq_self ihArgs, ihOutput]
  | named isReference entity written params ih =>
    rw [rename, renameAll_eq_map, map_eq_self ih, Entity.rename_refl]

/-- A type that names none of the renamed modules stays as it is. -/
theorem rename_of_formed {scope : TyScope} {allowed : Nat} {type : Ty}
    (h : type.Formed scope allowed)
    (hfixed : ∀ entity n, scope.arity entity n → σ.module entity.module = entity.module) :
  type.rename σ = type
  := by
  induction type using type_induction generalizing allowed with
  | integer | natural | boolean | param | internal => rfl
  | list element ih | tryOf element ih =>
    rw [Formed] at h
    rw [rename, ih h]
  | function isReference typeParams args output ihArgs ihOutput =>
    rw [Formed, areFormed_iff] at h
    rw [rename, renameAll_eq_map, map_eq_self fun a ha => ihArgs a ha (h.1 a ha), ihOutput h.2]
  | named isReference entity written params ih =>
    rw [Formed, areFormed_iff] at h
    have hentity : entity.rename σ = entity := by
      rw [Entity.rename, hfixed entity _ h.1]
    rw [rename, renameAll_eq_map, map_eq_self fun a ha => ih a ha (h.2 a ha), hentity]

/-! ### What does not depend on modules -/

@[simp]
theorem isReference_rename (type : Ty) :
  (type.rename σ).isReference = type.isReference
  := by
  cases type <;> simp [rename, isReference]

@[simp]
theorem text_rename (type : Ty) :
  (type.rename σ).text = type.text
  := by
  induction type using type_induction with
  | integer | natural | boolean | param | internal => rfl
  | list element ih | tryOf element ih => simp [rename, text, ih]
  | function isReference typeParams args output ihArgs ihOutput =>
    have hargs : args.map (text ∘ rename σ) = args.map text := List.map_congr_left ihArgs
    simp [rename, text, ihOutput, textAll_eq_map, hargs]
  | named isReference entity written params ih =>
    have hparams : params.map (text ∘ rename σ) = params.map text := List.map_congr_left ih
    simp [rename, text, textAll_eq_map, hparams]

theorem all_map_rename {p q : Ty → Bool} {types : List Ty}
    (h : ∀ type ∈ types, q (type.rename σ) = p type) :
  types.all (q ∘ rename σ) = types.all p
  := by
  rw [Bool.eq_iff_iff, List.all_eq_true, List.all_eq_true]
  exact forall₂_congr fun type htype => by rw [Function.comp_apply, h type htype]

@[simp]
theorem isClosedWithin_rename (allowed : Nat) (type : Ty) :
  (type.rename σ).isClosedWithin allowed = type.isClosedWithin allowed
  := by
  induction type using type_induction generalizing allowed with
  | integer | natural | boolean | param | internal => rfl
  | list element ih | tryOf element ih => simp [rename, isClosedWithin, ih]
  | function isReference typeParams args output ihArgs ihOutput =>
    simp [rename, isClosedWithin, ihOutput, all_map_rename fun a ha => ihArgs a ha _]
  | named isReference entity written params ih =>
    simp [rename, isClosedWithin, all_map_rename fun a ha => ih a ha _]

@[simp]
theorem isBindable_rename (type : Ty) :
  (type.rename σ).isBindable = type.isBindable
  := isClosedWithin_rename 0 type

theorem sameAll_map_rename {as : List Ty}
    (h : ∀ a ∈ as, ∀ b, (a.rename σ).same (b.rename σ) = a.same b) (bs : List Ty) :
  sameAll (as.map (rename σ)) (bs.map (rename σ)) = sameAll as bs
  := by
  induction as generalizing bs with
  | nil => cases bs <;> rfl
  | cons a rest ih =>
    rw [List.forall_mem_cons] at h
    cases bs with
    | nil => rfl
    | cons b others => simp [sameAll, h.1, ih h.2]

@[simp]
theorem same_rename (a b : Ty) :
  (a.rename σ).same (b.rename σ) = a.same b
  := by
  induction a using type_induction generalizing b with
  | integer | natural | boolean | param | internal => cases b <;> simp [rename, same]
  | list element ih | tryOf element ih => cases b <;> simp [rename, same, ih]
  | function isReference typeParams args output ihArgs ihOutput =>
    have hargs := sameAll_map_rename fun a ha b => ihArgs a ha b
    cases b <;> simp [rename, same, hargs, ihOutput]
  | named isReference entity written params ih =>
    have hparams := sameAll_map_rename fun a ha b => ih a ha b
    cases b <;> simp [rename, same, hparams]

/-- A type is the same as a primitive one, whatever its modules are called. -/
@[simp]
theorem same_boolean_rename (type : Ty) :
  (type.rename σ).same .boolean = type.same .boolean
  := by
  have h := @same_rename σ type .boolean
  rwa [rename] at h

end Ty

/-! ### Operations on types -/

/-- The choices with their modules renamed. -/
def Choices.rename (σ : Renaming) (choices : Choices) : Choices :=
  choices.map (Prod.map id (Ty.rename σ))

section Operations

variable {σ : Renaming}

@[simp]
theorem Choices.get?_rename (choices : Choices) (name : String) :
  (choices.rename σ).get? name = (choices.get? name).map (Ty.rename σ)
  := by
  rw [get?, rename, ← List.map_reverse, List.find?_map, get?, Option.map_map, Option.map_map]
  rfl

@[simp]
theorem Choices.ofParams_map_rename (params : List TypeParam) (args : List Ty) :
  Choices.ofParams params (args.map (Ty.rename σ)) = (Choices.ofParams params args).rename σ
  := by
  rw [ofParams, ofParams, rename, List.zip_map_right]

namespace Ty

@[simp]
theorem rename_substitute (choices : Choices) (type : Ty) :
  (type.substitute choices).rename σ = (type.rename σ).substitute (choices.rename σ)
  := by
  induction type using type_induction with
  | integer | natural | boolean | internal => rfl
  | param p =>
    simp only [substitute, rename, Choices.get?_rename]
    cases choices.get? p.name <;> rfl
  | list element ih | tryOf element ih => simp [rename, substitute, ih]
  | function isReference typeParams args output ihArgs ihOutput =>
    simpa [rename, substitute, ihOutput] using ihArgs
  | named isReference entity written params ih => simpa [rename, substitute] using ih

@[simp]
theorem openCount_map_rename (chosen : List (Option Ty)) :
  openCount (chosen.map (Option.map (rename σ))) = openCount chosen
  := by
  simp [openCount, List.countP_map, Function.comp_def]

theorem rename_instantiateIndex (chosen : List (Option Ty)) (index : Nat) :
  (instantiateIndex chosen index).rename σ
    = instantiateIndex (chosen.map (Option.map (rename σ))) index
  := by
  simp only [instantiateIndex, List.getElem?_map, List.length_map, ← List.map_take,
    openCount_map_rename]
  rcases chosen[index]? with _ | _ | type <;> rfl

@[simp]
theorem rename_instantiate (chosen : List (Option Ty)) (type : Ty) :
  (type.instantiate chosen).rename σ
    = (type.rename σ).instantiate (chosen.map (Option.map (rename σ)))
  := by
  induction type using type_induction generalizing chosen with
  | integer | natural | boolean | param => rfl
  | internal index => exact rename_instantiateIndex chosen index
  | list element ih | tryOf element ih => simp [rename, instantiate, ih]
  | function isReference typeParams args output ihArgs ihOutput =>
    have hargs := fun a ha => ihArgs a ha (typeParams.map (fun _ => none) ++ chosen)
    simpa [rename, instantiate, ihOutput, Function.comp_def] using hargs
  | named isReference entity written params ih =>
    simpa [rename, instantiate] using fun a ha => ih a ha _

@[simp]
theorem rename_internalize (names : List String) (offset : Nat) (type : Ty) :
  (type.internalize names offset).rename σ = (type.rename σ).internalize names offset
  := by
  induction type using type_induction generalizing offset with
  | integer | natural | boolean | internal => rfl
  | param p =>
    simp only [internalize, rename]
    cases names.idxOf? p.name <;> rfl
  | list element ih | tryOf element ih => simp [rename, internalize, ih]
  | function isReference typeParams args output ihArgs ihOutput =>
    simpa [rename, internalize, ihOutput] using fun a ha => ihArgs a ha _
  | named isReference entity written params ih =>
    simpa [rename, internalize] using fun a ha => ih a ha _

end Ty

end Operations

/-! ### Function types -/

/-- The function type with its modules renamed. -/
def FunctionType.rename (σ : Renaming) (function : FunctionType) : FunctionType :=
  ⟨function.isReference, function.typeParams, function.args.map (Ty.rename σ),
    function.output.rename σ⟩

namespace FunctionType

variable {σ : Renaming}

@[simp]
theorem typeParams_rename (function : FunctionType) :
  (function.rename σ).typeParams = function.typeParams
  := rfl

@[simp]
theorem args_rename (function : FunctionType) :
  (function.rename σ).args = function.args.map (Ty.rename σ)
  := rfl

@[simp]
theorem output_rename (function : FunctionType) :
  (function.rename σ).output = function.output.rename σ
  := rfl

@[simp]
theorem isGround_rename (function : FunctionType) :
  (function.rename σ).isGround = function.isGround
  := rfl

@[simp]
theorem toTy_rename (function : FunctionType) :
  (function.rename σ).toTy = function.toTy.rename σ
  := by
  simp [toTy, rename, Ty.rename]

@[simp]
theorem ofSignature_rename (typeParams : List TypeParam) (args : List Ty) (output : Ty) :
  ofSignature typeParams (args.map (Ty.rename σ)) (output.rename σ)
    = (ofSignature typeParams args output).rename σ
  := by
  simp [ofSignature, rename]

@[simp]
theorem ground_rename (function : FunctionType) (chosen : List Ty) :
  (function.rename σ).ground (chosen.map (Ty.rename σ)) = (function.ground chosen).rename σ
  := by
  unfold ground
  rw [isGround_rename]
  split
  · rfl
  · simp [rename]

@[simp]
theorem groundByName_rename (function : FunctionType) :
  (function.rename σ).groundByName = function.groundByName.rename σ
  := by
  have h := @ground_rename σ function (function.typeParams.map Ty.param)
  rwa [List.map_map] at h

@[simp]
theorem rebindTypes_rename (function : FunctionType) (chosen : List (Option Ty)) :
  (function.rename σ).rebindTypes (chosen.map (Option.map (Ty.rename σ)))
    = (function.rebindTypes chosen).rename σ
  := by
  unfold rebindTypes
  rw [isGround_rename]
  split
  · rfl
  · simp [rename, unbound_entries_map]

@[simp]
theorem rebindArgs_rename (function : FunctionType) (bound : List (Option Ty)) :
  (function.rename σ).rebindArgs (bound.map (Option.map (Ty.rename σ)))
    = (function.rebindArgs bound).rename σ
  := by
  have hreference : (bound.map (Option.map (Ty.rename σ))).any (·.any Ty.isReference)
      = bound.any (·.any Ty.isReference) := by
    simp [Function.comp_def, Option.any_map]
  simp only [rebindArgs, hreference, args_rename, unbound_map, unbound_entries_map]
  rfl

@[simp]
theorem bindableArgs_rename (function : FunctionType) :
  (function.rename σ).bindableArgs = function.bindableArgs.map (Option.map (Ty.rename σ))
  := by
  unfold bindableArgs
  rw [isGround_rename]
  split
  · simp [Function.comp_def]
  · simp [Function.comp_def, apply_ite]

end FunctionType

@[simp]
theorem Ty.function?_rename {σ : Renaming} (type : Ty) :
  (type.rename σ).function? = type.function?.map (FunctionType.rename σ)
  := by
  cases type <;> simp [Ty.rename, Ty.function?, FunctionType.rename]

/-! ### Inference -/

section Inference

variable {σ : Renaming}

theorem revealAny_rename_of {index : Nat} {declared : List Ty}
    (h : ∀ d ∈ declared, ∀ actual,
      reveal index (d.rename σ) (actual.rename σ) = (reveal index d actual).map (Ty.rename σ))
    (actual : List Ty) :
  revealAny index (declared.map (Ty.rename σ)) (actual.map (Ty.rename σ))
    = (revealAny index declared actual).map (Ty.rename σ)
  := by
  induction declared generalizing actual with
  | nil => cases actual <;> rfl
  | cons d rest ih =>
    rw [List.forall_mem_cons] at h
    cases actual with
    | nil => rfl
    | cons a others =>
      simp only [List.map_cons, revealAny, h.1, ih h.2]
      cases reveal index d a <;> rfl

/-- What stands in a type is found there after renaming as well. -/
theorem reveal_rename (index : Nat) (declared actual : Ty) :
  reveal index (declared.rename σ) (actual.rename σ)
    = (reveal index declared actual).map (Ty.rename σ)
  := by
  induction declared using type_induction generalizing index actual with
  | integer | natural | boolean | param => cases actual <;> rfl
  | internal i =>
    rw [Ty.rename, reveal, reveal]
    split <;> rfl
  | list element ih | tryOf element ih =>
    cases actual <;> simp [Ty.rename, reveal, ih]
  | named isReference entity written params ih =>
    cases actual with
    | named isReference' entity' written' actual =>
      simp only [Ty.rename, Ty.renameAll_eq_map, reveal, Entity.rename_inj,
        revealAny_rename_of fun d hd => ih d hd index]
      split <;> rfl
    | _ => simp [Ty.rename, reveal]
  | function isReference typeParams args output ihArgs ihOutput =>
    cases actual with
    | function isReference' typeParams' args' output' =>
      have hground : FunctionType.groundByName
          ⟨isReference', typeParams', args'.map (Ty.rename σ), output'.rename σ⟩
            = (FunctionType.groundByName ⟨isReference', typeParams', args', output'⟩).rename σ :=
        FunctionType.groundByName_rename ⟨isReference', typeParams', args', output'⟩
      simp only [Ty.rename, Ty.renameAll_eq_map, reveal, hground, FunctionType.args_rename,
        FunctionType.output_rename, ihOutput, revealAny_rename_of fun d hd => ihArgs d hd _]
      cases revealAny (index + typeParams.length) args
        (FunctionType.groundByName ⟨isReference', typeParams', args', output'⟩).args <;> rfl
    | _ => simp [Ty.rename, reveal]

theorem revealBySupplied_rename (index : Nat) (declared : List Ty) (supplied : List (Option Ty)) :
  revealBySupplied index (declared.map (Ty.rename σ)) (supplied.map (Option.map (Ty.rename σ)))
    = (revealBySupplied index declared supplied).map (Ty.rename σ)
  := by
  induction declared generalizing supplied with
  | nil => cases supplied <;> rfl
  | cons d rest ih =>
    cases supplied with
    | nil => rfl
    | cons actual others =>
      have hreveal : (actual.map (Ty.rename σ)).bind (reveal index (d.rename σ))
          = (actual.bind (reveal index d)).map (Ty.rename σ) := by
        cases actual with
        | none => rfl
        | some actual => exact reveal_rename index d actual
      simp only [List.map_cons, revealBySupplied, hreveal, ih]
      cases actual.bind (reveal index d) <;> rfl

theorem chooseEach_rename (args : List Ty) (supplied : List (Option Ty)) (index : Nat)
    (params : List TypeParam) (written : List (Option Ty)) :
  chooseEach (args.map (Ty.rename σ)) (supplied.map (Option.map (Ty.rename σ))) index params
      (written.map (Option.map (Ty.rename σ)))
    = (chooseEach args supplied index params written).map
      (List.map (Option.map (Ty.rename σ)))
  := by
  induction params generalizing index written with
  | nil => cases written <;> simp [chooseEach, Except.map]
  | cons param rest ih =>
    simp only [chooseEach, revealBySupplied_rename]
    cases revealBySupplied index args supplied with
    | some type =>
      simp only [Option.map_some, ih]
      cases chooseEach args supplied (index + 1) rest written <;> rfl
    | none =>
      rcases written with _ | ⟨_ | type, others⟩
      · rfl
      · rfl
      · simp only [List.map_cons, Option.map_some, Option.map_none, ih]
        cases chooseEach args supplied (index + 1) rest others <;> rfl

/-- The types that are chosen for renamed types are those that are chosen for the types, renamed. -/
theorem inferTypeArgs_rename (function : FunctionType) (written supplied : List (Option Ty)) :
  inferTypeArgs (function.rename σ) (written.map (Option.map (Ty.rename σ)))
      (supplied.map (Option.map (Ty.rename σ)))
    = (inferTypeArgs function written supplied).map (List.map (Option.map (Ty.rename σ)))
  := by
  simp only [inferTypeArgs, List.length_map, FunctionType.typeParams_rename,
    FunctionType.args_rename, chooseEach_rename]
  split
  · rfl
  · split <;> rfl

end Inference

end TypedModules
