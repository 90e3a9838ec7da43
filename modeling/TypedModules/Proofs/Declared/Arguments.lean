import TypedModules.Proofs.Declared.Signatures
import TypedModules.Proofs.Ty.Ground

/-!
# Arguments of declarations

The types inside a declaration mention its type parameters by name.  To give them the arguments
of a named type, or the types that are chosen in a call, is to assign types to these names.
-/

namespace TypedModules

open Ty

namespace Choices

theorem get?_ofParams_map (params : List TypeParam) (args : List Ty) (f : Ty → Ty) (name : String) :
  (ofParams params (args.map f)).get? name = ((ofParams params args).get? name).map f
  := by
  have hzip : (params.map (·.name)).zip (args.map f)
      = ((params.map (·.name)).zip args).map (Prod.map id f) := by
    rw [List.zip_map_right]
  simp only [get?, ofParams, hzip, ← List.map_reverse, List.find?_map, Option.map_map,
    Function.comp_def, Prod.map]
  rfl

theorem get?_ofParams_assigned {params : List TypeParam} {name : String} (σ : Assignment)
    (h : name ∈ params.map (·.name)) :
  (ofParams params (params.map fun p => σ p.name)).get? name = some (σ name)
  := by
  have hzip : (params.map (·.name)).zip (params.map fun p => σ p.name)
      = params.map fun p => (p.name, σ p.name) := by
    rw [List.zip_map']
  obtain ⟨p, hp⟩ : ∃ p, params.reverse.find? (·.name == name) = some p := by
    rw [← Option.isSome_iff_exists, List.find?_isSome]
    obtain ⟨p, hp, rfl⟩ := List.mem_map.mp h
    exact ⟨p, List.mem_reverse.mpr hp, by simp⟩
  have hname : p.name = name := by simpa using List.find?_some hp
  simp only [get?, ofParams, hzip, ← List.map_reverse, List.find?_map, Function.comp_def, hp,
    Option.map_some, hname]

end Choices

namespace Assignment

/-- The assignment of the arguments of a named type to the parameters of its declaration. -/
def ofArgs (params : List TypeParam) (args : List Ty) : Assignment :=
  fun name => ((Choices.ofParams params args).get? name).getD .integer

/-- The assignment of the types that are chosen for the parameters of a signature. -/
def ofChosen (params : List TypeParam) (chosen : List Ty) : Assignment :=
  choose (fun _ => .integer) (params.map (·.name)) chosen

variable {scope : TyScope}

theorem formed_ofArgs {params : List TypeParam} {args : List Ty}
    (h : ∀ arg ∈ args, arg.Formed scope 0) :
  (ofArgs params args).Formed scope
  := by
  intro name
  unfold ofArgs Choices.get?
  cases e : (Choices.ofParams params args).reverse.find? (·.1 == name) with
  | none => trivial
  | some found =>
    have hmem := List.mem_reverse.mp (List.mem_of_find?_eq_some e)
    exact h _ (List.of_mem_zip hmem).2

theorem formed_ofChosen {params : List TypeParam} {chosen : List Ty}
    (h : ∀ c ∈ chosen, c.Formed scope 0) :
  (ofChosen params chosen).Formed scope
  := by
  have hinteger : Assignment.Formed scope fun _ => .integer := fun _ => trivial
  exact hinteger.choose h

end Assignment

section Arguments

variable {library : Library} {params : List TypeParam} {args : List Ty} {type : Ty}
  {allowed : Nat} (h : type.Formed (library.scopeOf params) allowed)

include h

/-- To replace the parameters of a declaration is to assign types to them. -/
theorem substitute_eq_assign (hlength : args.length = params.length) :
  type.substitute (.ofParams params args) = type.assign (.ofArgs params args)
  := by
  induction type using type_induction generalizing allowed with
  | integer | natural | boolean | internal => rfl
  | list element ih | tryOf element ih =>
    simp only [Ty.Formed] at h
    simp only [Ty.substitute, Ty.assign, ih h]
  | function isReference typeParams args output ihArgs ihOutput =>
    simp only [Ty.Formed, areFormed_iff] at h
    simp only [Ty.substitute, Ty.assign, substituteAll_eq_map, assignAll_eq_map, ihOutput h.2]
    rw [List.map_congr_left fun arg harg => ihArgs arg harg (h.1 arg harg)]
  | named isReference entity written params ih =>
    simp only [Ty.Formed, areFormed_iff] at h
    simp only [Ty.substitute, Ty.assign, substituteAll_eq_map, assignAll_eq_map]
    rw [List.map_congr_left fun param hparam => ih param hparam (h.2 param hparam)]
  | param p =>
    obtain ⟨arg, -, harg⟩ := Choices.get?_ofParams hlength h
    simp only [Ty.substitute, Ty.assign, Assignment.ofArgs, harg, Option.getD_some]

/-- Types may be assigned in the arguments of a named type or in what they make of the types
of the declaration. -/
theorem assign_substitute_ofParams (hlength : args.length = params.length) (σ : Assignment) :
  (type.substitute (.ofParams params args)).assign σ
    = type.substitute (.ofParams params (args.map (Ty.assign σ)))
  := by
  rw [assign_substitute, substitute_eq_assign h (by simpa using hlength)]
  apply h.assign_congr
  intro p hp
  obtain ⟨arg, -, harg⟩ := Choices.get?_ofParams hlength hp
  rw [Assignment.ofArgs, Choices.get?_ofParams_map, harg]
  rfl

/-- A declaration applied to what is assigned to its parameters has the assigned types. -/
theorem substitute_assigned (σ : Assignment) :
  type.substitute (.ofParams params (params.map fun p => σ p.name)) = type.assign σ
  := by
  rw [substitute_eq_assign h (by simp)]
  apply h.assign_congr
  intro p hp
  rw [Assignment.ofArgs, Choices.get?_ofParams_assigned σ hp, Option.getD_some]

end Arguments

/-- The type of a declaration, with types assigned to its parameters. -/
theorem assign_declaredType (isReference : Bool) (module : ModuleId) (id : EntityId)
    (params : List TypeParam) (σ : Assignment) :
  (declaredType isReference module id params).assign σ
    = .named isReference ⟨module, id⟩ (.ofId id) (params.map fun p => σ p.name)
  := by
  simp [declaredType, Ty.assign, Function.comp_def]

/-- A call of a signature takes and returns what its types become when the chosen types are
assigned to its parameters. -/
theorem Signature.Formed.ground {library : Library} {signature : Signature}
    (h : signature.Formed library) {chosen : List Ty}
    (hlength : chosen.length = signature.typeParams.length) :
  signature.functionType.ground chosen
    = ⟨false, [], signature.args.map (Ty.assign (.ofChosen signature.typeParams chosen)),
        signature.output.assign (.ofChosen signature.typeParams chosen)⟩
  := by
  have key : ∀ type : Ty, type.Formed (library.scopeOf signature.typeParams) 0 →
      (type.internalize (signature.typeParams.map (·.name)) 0).instantiate (chosen.map some)
        = type.assign (.ofChosen signature.typeParams chosen) := by
    intro type htype
    exact instantiate_internalize htype (fun _ hp => hp) (by simpa using hlength) _
  rw [FunctionType.ground_eq h.functionType]
  simp only [Signature.functionType, FunctionType.ofSignature, List.map_map, key _ h.output,
    FunctionType.mk.injEq, true_and, and_true]
  exact List.map_congr_left fun arg harg => key arg (h.args arg harg)

end TypedModules
