import Mathlib.Data.List.Forall2
import TypedModules.Ty.Equality
import TypedModules.Ty.Function
import TypedModules.Proofs.Ty.Formed

/-!
# Same types

Two types are the same exactly when they have the same core, in which the references that
modules wrote and the names of the parameters of function types are left out.  Hence sameness
is an equivalence, and whatever is defined along types respects it.
-/

namespace TypedModules
namespace Ty

mutual

/-- The type without what sameness does not look at. -/
def core : Ty → Ty
  | .integer => .integer
  | .natural => .natural
  | .boolean => .boolean
  | .list element => .list element.core
  | .tryOf inner => .tryOf inner.core
  | .function isReference typeParams args output =>
    .function isReference (typeParams.map fun p => ⟨"", p.typeClass⟩) (cores args) output.core
  | .named isReference entity _ params => .named isReference entity (.ofId entity.id) (cores params)
  | .param p => .param p
  | .internal index => .internal index

/-- The types without what sameness does not look at. -/
def cores : List Ty → List Ty
  | [] => []
  | type :: rest => type.core :: cores rest

end

@[simp]
theorem cores_eq_map (types : List Ty) :
  cores types = types.map core
  := by
  induction types with
  | nil => rfl
  | cons type rest ih => simp [cores, ih]

theorem sameTypeClasses_iff {a b : List TypeParam} :
  sameTypeClasses a b = true
    ↔ a.map (fun p => (⟨"", p.typeClass⟩ : TypeParam)) = b.map fun p => ⟨"", p.typeClass⟩
  := by
  rw [sameTypeClasses, beq_iff_eq]
  constructor
  · intro h
    have e := congrArg (List.map fun c => (⟨"", c⟩ : TypeParam)) h
    simpa [Function.comp_def] using e
  · intro h
    have e := congrArg (List.map TypeParam.typeClass) h
    simpa [Function.comp_def] using e

theorem sameAll_iff_of {as : List Ty} (h : ∀ a ∈ as, ∀ b, a.same b = true ↔ a.core = b.core)
    (bs : List Ty) :
  sameAll as bs = true ↔ as.map core = bs.map core
  := by
  induction as generalizing bs with
  | nil => cases bs <;> simp [sameAll]
  | cons a rest ih =>
    rw [List.forall_mem_cons] at h
    cases bs with
    | nil => simp [sameAll]
    | cons b others => simp [sameAll, h.1, ih h.2]

/-- Two types are the same exactly when they have the same core. -/
theorem same_iff {a b : Ty} :
  a.same b = true ↔ a.core = b.core
  := by
  induction a using type_induction generalizing b with
  | integer | natural | boolean => cases b <;> simp [Ty.same, core]
  | list element ih | tryOf element ih => cases b <;> simp [Ty.same, core, ih]
  | function isReference typeParams args output ihArgs ihOutput =>
    have hargs := sameAll_iff_of fun a ha b => @ihArgs a ha b
    cases b <;> simp [Ty.same, core, hargs, ihOutput, sameTypeClasses_iff, and_assoc]
  | named isReference entity written params ih =>
    have hparams := sameAll_iff_of fun a ha b => @ih a ha b
    cases b with
    | named isReference' entity' written' params' =>
      simp only [Ty.same, core, hparams, Bool.and_eq_true, beq_iff_eq, Ty.named.injEq,
        cores_eq_map]
      constructor
      · rintro ⟨⟨rfl, rfl⟩, e⟩
        exact ⟨rfl, rfl, rfl, e⟩
      · rintro ⟨rfl, rfl, -, e⟩
        exact ⟨⟨rfl, rfl⟩, e⟩
    | _ => simp [Ty.same, core]
  | param p => cases b <;> simp [Ty.same, core]
  | internal index => cases b <;> simp [Ty.same, core]

theorem sameAll_iff {as bs : List Ty} :
  sameAll as bs = true ↔ as.map core = bs.map core
  := sameAll_iff_of (fun _ _ _ => same_iff) bs

theorem same_refl (type : Ty) :
  type.same type = true
  := by rw [same_iff]

theorem same_symm {a b : Ty} (h : a.same b = true) :
  b.same a = true
  := by
  rw [same_iff] at h ⊢
  exact h.symm

theorem same_trans {a b c : Ty} (h : a.same b = true) (h' : b.same c = true) :
  a.same c = true
  := by
  rw [same_iff] at h h' ⊢
  exact h.trans h'

theorem same_equivalence :
  Equivalence fun a b : Ty => a.same b = true
  := by
  constructor
  case refl => apply same_refl
  case symm => apply same_symm
  case trans => apply same_trans

theorem sameAll_refl (types : List Ty) :
  sameAll types types = true
  := by rw [sameAll_iff]

theorem sameAll_symm {as bs : List Ty} (h : sameAll as bs = true) :
  sameAll bs as = true
  := by
  rw [sameAll_iff] at h ⊢
  exact h.symm

theorem sameAll_trans {as bs cs : List Ty} (h : sameAll as bs = true)
    (h' : sameAll bs cs = true) :
  sameAll as cs = true
  := by
  rw [sameAll_iff] at h h' ⊢
  exact h.trans h'

theorem sameOption_iff {a b : Option Ty} :
  sameOption a b = true ↔ a.map core = b.map core
  := by
  cases a <;> cases b <;> simp [sameOption, same_iff]

theorem sameOption_iff_rel {a b : Option Ty} :
  sameOption a b = true ↔ Option.Rel (fun a b => a.same b = true) a b
  := by
  cases a <;> cases b <;> simp [sameOption]

theorem sameOptions_iff {as bs : List (Option Ty)} :
  sameOptions as bs = true ↔ as.map (Option.map core) = bs.map (Option.map core)
  := by
  induction as generalizing bs with
  | nil => cases bs <;> simp [sameOptions]
  | cons a rest ih => cases bs <;> simp [sameOptions, sameOption_iff, ih]

theorem sameOptions_iff_rel {as bs : List (Option Ty)} :
  sameOptions as bs = true ↔ List.Forall₂ (Option.Rel fun a b => a.same b = true) as bs
  := by
  induction as generalizing bs with
  | nil => cases bs <;> simp [sameOptions]
  | cons a rest ih => cases bs <;> simp [sameOptions, sameOption_iff_rel, ih]

theorem sameOptions_refl (chosen : List (Option Ty)) :
  sameOptions chosen chosen = true
  := by rw [sameOptions_iff]

theorem sameOptions_symm {as bs : List (Option Ty)} (h : sameOptions as bs = true) :
  sameOptions bs as = true
  := by
  rw [sameOptions_iff] at h ⊢
  exact h.symm

theorem sameOptions_trans {as bs cs : List (Option Ty)} (h : sameOptions as bs = true)
    (h' : sameOptions bs cs = true) :
  sameOptions as cs = true
  := by
  rw [sameOptions_iff] at h h' ⊢
  exact h.trans h'

theorem sameOptions_some (as bs : List Ty) :
  sameOptions (as.map some) (bs.map some) = sameAll as bs
  := by
  induction as generalizing bs with
  | nil => cases bs <;> rfl
  | cons a rest ih =>
    cases bs with
    | nil => rfl
    | cons b others => rw [List.map_cons, List.map_cons, sameOptions, sameOption, sameAll, ih]

theorem forall₂_of_sameAll {as bs : List Ty} (h : sameAll as bs = true) :
  List.Forall₂ (fun a b => a.same b = true) as bs
  := by
  induction as generalizing bs with
  | nil =>
    cases bs with
    | nil => exact .nil
    | cons => simp [sameAll] at h
  | cons a as ih =>
    cases bs with
    | nil => simp [sameAll] at h
    | cons b bs =>
      rw [sameAll, Bool.and_eq_true] at h
      exact .cons h.1 (ih h.2)

theorem isReference_of_same {a b : Ty} (h : a.same b = true) :
  a.isReference = b.isReference
  := by
  cases a <;> cases b <;> simp_all [Ty.same, Ty.isReference]

/-! ### What respects sameness -/

/-- The core of a type with named parameters replaced is made of cores. -/
theorem core_substitute (type : Ty) (choices : Choices) :
  (type.substitute choices).core = type.core.substitute (choices.map fun c => (c.1, c.2.core))
  := by
  induction type using type_induction with
  | integer | natural | boolean | internal => rfl
  | list element ih | tryOf element ih => simp only [Ty.substitute, core, ih]
  | function isReference typeParams args output ihArgs ihOutput =>
    simp only [Ty.substitute, core, substituteAll_eq_map, cores_eq_map, ihOutput, List.map_map,
      Function.comp_def]
    rw [List.map_congr_left fun arg harg => ihArgs arg harg]
  | named isReference entity written params ih =>
    simp only [Ty.substitute, core, substituteAll_eq_map, cores_eq_map, List.map_map,
      Function.comp_def]
    rw [List.map_congr_left fun param hparam => ih param hparam]
  | param p =>
    simp only [Ty.substitute, core, Choices.get?, ← List.map_reverse, List.find?_map,
      Function.comp_def]
    cases choices.reverse.find? (·.1 == p.name) <;> rfl

/-- The core of a type with types chosen for its internal parameters is made of cores. -/
theorem core_instantiate (type : Ty) (chosen : List (Option Ty)) :
  (type.instantiate chosen).core = type.core.instantiate (chosen.map (·.map core))
  := by
  induction type using type_induction generalizing chosen with
  | integer | natural | boolean | param => rfl
  | list element ih | tryOf element ih => simp only [Ty.instantiate, core, ih]
  | function isReference typeParams args output ihArgs ihOutput =>
    simp only [Ty.instantiate, core, instantiateAll_eq_map, cores_eq_map, ihOutput, List.map_map,
      List.map_append, Function.comp_def, Option.map_none]
    rw [List.map_congr_left fun arg harg => ihArgs arg harg _]
    simp only [List.map_append, List.map_map, Function.comp_def, Option.map_none]
  | named isReference entity written params ih =>
    simp only [Ty.instantiate, core, instantiateAll_eq_map, cores_eq_map, List.map_map,
      Function.comp_def]
    rw [List.map_congr_left fun param hparam => ih param hparam chosen]
  | internal index =>
    simp only [Ty.instantiate, core, instantiateIndex, List.getElem?_map, ← List.map_take,
      openCount_map, List.length_map]
    cases chosen[index]? with
    | none => rfl
    | some c => cases c <;> rfl

/-- With same types chosen for the parameters of a declaration, its types are the same. -/
theorem same_substitute_ofParams {params : List TypeParam} {args args' : List Ty}
    (h : sameAll args args' = true) (type : Ty) :
  (type.substitute (.ofParams params args)).same (type.substitute (.ofParams params args')) = true
  := by
  have hcore : ∀ args : List Ty, (Choices.ofParams params args).map (fun c => (c.1, c.2.core))
      = Choices.ofParams params (args.map core) := by
    intro args
    rw [Choices.ofParams, Choices.ofParams, List.zip_map_right]
    rfl
  rw [same_iff, core_substitute, core_substitute, hcore, hcore, sameAll_iff.mp h]

/-- Same types stay the same when same types are chosen for their internal parameters. -/
theorem same_instantiate {a b : Ty} (h : a.same b = true) {chosen chosen' : List (Option Ty)}
    (hchosen : sameOptions chosen chosen' = true) :
  (a.instantiate chosen).same (b.instantiate chosen') = true
  := by
  rw [same_iff] at h ⊢
  rw [core_instantiate, core_instantiate, h, sameOptions_iff.mp hchosen]

end Ty

namespace FunctionType

variable {function function' : FunctionType}

theorem toTy_inj (h : function.toTy = function'.toTy) :
  function = function'
  := by
  simpa using congrArg Ty.function? h

theorem same_toTy :
  function.toTy.same function'.toTy = true
    ↔ function.isReference = function'.isReference
      ∧ sameTypeClasses function.typeParams function'.typeParams = true
      ∧ Ty.sameAll function.args function'.args = true
      ∧ function.output.same function'.output = true
  := by
  simp [toTy, Ty.same, and_assoc]

theorem length_typeParams_of_same (h : function.toTy.same function'.toTy = true) :
  function.typeParams.length = function'.typeParams.length
  := by
  obtain ⟨-, hparams, -, -⟩ := same_toTy.mp h
  rw [sameTypeClasses, beq_iff_eq] at hparams
  simpa using congrArg List.length hparams

/-- The function type without what sameness does not look at. -/
def core (function : FunctionType) : FunctionType :=
  ⟨function.isReference, function.typeParams.map fun p => ⟨"", p.typeClass⟩,
    function.args.map Ty.core, function.output.core⟩

@[simp]
theorem isGround_core (function : FunctionType) :
  function.core.isGround = function.isGround
  := by
  simp [core, isGround]

theorem core_toTy (function : FunctionType) :
  function.toTy.core = function.core.toTy
  := by
  simp [toTy, core, Ty.core]

/-- Function types are the same exactly when they have the same core. -/
theorem same_iff :
  function.toTy.same function'.toTy = true ↔ function.core = function'.core
  := by
  rw [Ty.same_iff, core_toTy, core_toTy]
  constructor
  · apply toTy_inj
  · apply congrArg toTy

/-- The core of a function type with types chosen for its parameters is made of cores. -/
theorem core_ground (function : FunctionType) (chosen : List Ty) :
  (function.ground chosen).core = function.core.ground (chosen.map Ty.core)
  := by
  unfold ground
  rw [isGround_core]
  split
  · rfl
  · simp [core, Ty.core_instantiate, Function.comp_def]

/-- Same function types stay the same when same types are chosen for their parameters. -/
theorem same_ground (h : function.toTy.same function'.toTy = true) {chosen chosen' : List Ty}
    (hchosen : Ty.sameAll chosen chosen' = true) :
  (function.ground chosen).toTy.same (function'.ground chosen').toTy = true
  := by
  rw [same_iff] at h ⊢
  rw [core_ground, core_ground, h, Ty.sameAll_iff.mp hchosen]

end FunctionType

end TypedModules
