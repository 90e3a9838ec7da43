import TypedModules.Proofs.Sound.Constructors
import TypedModules.Proofs.Sound.Library

/-!
# Entities keep to their signatures

Whatever a program reaches under an entity is known to the library of its module: bodies are well
typed there, and structs, interfaces and unions are told of under their own entities.  So a call
of what has a signature, given inhabitants of what the signature takes, yields an inhabitant of
what it returns: `yields_evalEntity`.  Of the interfaces that are reached it is assumed that their
methods leave the name free that is invented for the data.
-/

namespace TypedModules

/-! ### What is reached is known -/

/-- Whether no method of an interface of a module has a parameter with the name that is invented
for the data. -/
def Module.Fresh (module : Module) : Prop :=
  ∀ interface ∈ module.interfaces, ∀ method ∈ interface.methods, interface.Fresh method

/-- Whether a library knows what is reached, with bodies that are well typed. -/
inductive Callee.Known (library : Library) : Callee → Prop
  | native (function : NativeFunction) : Known library (.native function)
  | function {function : Function} :
    function.body.Typed library.surroundings function.args →
    function.body.type.same function.output = true →
    Known library (.function function)
  | struct {struct : Struct} :
    library.shape? struct.entity = some struct.toStructHeader →
    struct.Typed library.surroundings →
    Known library (.struct struct)
  | interface {interface : Interface} :
    library.interface? interface.entity = some interface →
    library.shape? interface.adapterEntity = some interface.adapter →
    (∀ method ∈ interface.methods, interface.Fresh method) →
    Known library (.interface interface)
  | adapter {interface : Interface} :
    library.shape? interface.adapterEntity = some interface.adapter →
    Known library (.adapter interface)
  | option {union : Union} (option : UnionOption) :
    library.union? union.entity = some union →
    Known library (.option union option)
  | when {union : Union} :
    library.union? union.entity = some union →
    Known library (.when union)

section Known

variable {program : Program} (h : Accepted program.module)

include h

theorem known_of_nativeCallee? {entity : Entity} (hnative : entity.module.isNative = true)
    {callee : Callee} (hcallee : nativeCallee? entity.id = some callee) :
  callee.Known program.module.library
  := by
  unfold nativeCallee? at hcallee
  cases hstruct : nativeDefinitions.struct? entity.id with
  | some header =>
    simp only [hstruct] at hcallee
    cases hcallee
    have hfound : program.struct? entity = some { header with requires := none } := by
      rw [Program.struct?, if_pos hnative, hstruct, Option.map_some]
    have hmem := (Definitions.struct?_eq_some hstruct).1
    exact .struct (Library.shape?_of_mem h.formed program.module.library_native hmem)
      (h.typed_struct hfound)
  | none =>
    simp only [hstruct] at hcallee
    obtain ⟨function, -, rfl⟩ := Option.map_eq_some_iff.mp hcallee
    exact .native function

theorem known_of_moduleCallee? {entity : Entity} (hnative : entity.module.isNative = false)
    {module : Module} (hmodule : program.module.find? entity.module = some module)
    (hfresh : module.Fresh) {callee : Callee} (hcallee : module.callee? entity.id = some callee) :
  callee.Known program.module.library
  := by
  have hd : program.module.library entity.module = some module.definitions := by
    rw [Module.library, Module.definitionsOf?, hnative, if_neg Bool.false_ne_true, hmodule,
      Option.map_some]
  obtain ⟨hreach, -⟩ := Module.mem_of_find? hmodule
  unfold Module.callee? at hcallee
  cases hfunction : module.function? entity.id with
  | some function =>
    simp only [hfunction] at hcallee
    cases hcallee
    have htyped := (h.typed hreach).functions function (List.mem_of_find?_eq_some hfunction)
    exact .function htyped.1 htyped.2
  | none =>
  cases hstruct : module.struct? entity.id with
  | some struct =>
    simp only [hfunction, hstruct] at hcallee
    cases hcallee
    have hfound : program.struct? entity = some struct := by
      rw [Program.struct?, hnative, if_neg Bool.false_ne_true, hmodule, Option.bind_some, hstruct]
    have hmem : struct.toStructHeader ∈ module.definitions.structs :=
      List.mem_map_of_mem (List.mem_of_find?_eq_some hstruct)
    exact .struct (Library.shape?_of_mem h.formed hd hmem) (h.typed_struct hfound)
  | none =>
  cases hinterface : module.interface? entity.id with
  | some interface =>
    simp only [hfunction, hstruct, hinterface] at hcallee
    cases hcallee
    have hmem : interface ∈ module.interfaces := List.mem_of_find?_eq_some hinterface
    exact .interface (Library.interface?_of_mem h.formed hd hmem)
      (Library.shape?_adapter_of_mem h.formed hd hmem) (hfresh interface hmem)
  | none =>
  cases hadapter : module.adapterOwner? entity.id with
  | some interface =>
    simp only [hfunction, hstruct, hinterface, hadapter] at hcallee
    cases hcallee
    have hmem : interface ∈ module.interfaces := List.mem_of_find?_eq_some hadapter
    exact .adapter (Library.shape?_adapter_of_mem h.formed hd hmem)
  | none =>
    simp only [hfunction, hstruct, hinterface, hadapter] at hcallee
    obtain ⟨union, hunion, hcallee⟩ := Option.bind_eq_some_iff.mp hcallee
    obtain ⟨parent, -, hfound⟩ := Option.bind_eq_some_iff.mp hunion
    have hmem : union ∈ module.unions := List.mem_of_find?_eq_some hfound
    have hknown := Library.union?_of_mem h.formed hd hmem
    unfold Union.callee? at hcallee
    split at hcallee
    next =>
      cases hcallee
      exact .when hknown
    next =>
      obtain ⟨option, -, rfl⟩ := Option.map_eq_some_iff.mp hcallee
      exact .option option hknown

/-- Whatever a program reaches is known to the library of its module. -/
theorem known_of_callee?
    (hfresh : ∀ other, other = program.module ∨ other ∈ program.module.reachable → other.Fresh)
    {entity : Entity} {callee : Callee} (hcallee : program.callee? entity = some callee) :
  callee.Known program.module.library
  := by
  unfold Program.callee? at hcallee
  split at hcallee
  next hnative => exact known_of_nativeCallee? h hnative hcallee
  next hnative =>
    obtain ⟨module, hmodule, hcallee⟩ := Option.bind_eq_some_iff.mp hcallee
    exact known_of_moduleCallee? h (Bool.not_eq_true _ ▸ hnative) hmodule
      (hfresh module (Module.mem_of_find? hmodule).1) hcallee

end Known

namespace Realm

variable {realm : Realm} {world : World} {ask : Request → Eval Value} {σ : Assignment}
  {args : List Value}

/-- What is entered with inhabitants of what its signature takes yields an inhabitant of what the
signature returns. -/
theorem yields_of_enters (hserves : realm.Serves ask) (hhosts : realm.Hosts)
    (hσ : σ.Formed realm.library.closedScope) {callee : Callee}
    (hknown : callee.Known realm.library) {fuel : Nat} {run : Eval Value}
    (henters : callee.Enters ask fuel args run)
    (hargs : realm.InhabitAll world args (callee.signature.args.map (Ty.assign σ))) :
  realm.Yields EvalCause.Tolerated world run (callee.signature.output.assign σ)
  := by
  cases henters with
  | native htakes =>
    exact NativeFunction.yields_run hserves.apply fuel _ (fun _ => .assumed) hargs
  | function hlength =>
    obtain - | ⟨hbody, hsame⟩ := hknown
    have hargs := List.map_map ▸ hargs
    exact yields_callBody hserves hhosts hσ hargs hbody hsame
  | struct hlength hnone =>
    obtain - | - | ⟨hshape, htyped⟩ := hknown
    have hargs := List.map_map ▸ hargs
    have hplain := htyped.restricted.trans (congrArg Option.isSome hnone)
    rw [Callee.signature, StructHeader.constructor, hplain]
    exact yields_pure (inhabits_declared hshape hargs)
  | restricted hlength hsome =>
    obtain - | - | ⟨hshape, htyped⟩ := hknown
    have hargs := List.map_map ▸ hargs
    have hrestricted := htyped.restricted.trans (congrArg Option.isSome hsome)
    rw [Callee.signature, StructHeader.constructor, hrestricted]
    obtain ⟨hbody, hboolean⟩ := htyped.requires _ hsome
    have hholds := keeps_satisfies hserves hhosts hσ hargs rfl hbody hboolean
    refine hholds.bind fun after hgrows holds _ => ?_
    have hvalue := inhabits_declared hshape (hargs.grow hgrows)
    apply keeps_ite
    · exact fun _ => keeps_pure (.success hvalue)
    · exact fun _ => keeps_pure .failure
  | «instance» =>
    obtain - | - | - | ⟨hinterface, hshape, hfresh⟩ := hknown
    obtain ⟨_, _, e, hdata, hadapter⟩ := hargs.exists_two
    cases e
    exact yields_instance hσ hinterface hshape hfresh hdata hadapter
  | notAdapter hother =>
    obtain - | - | - | ⟨hinterface, hshape, hfresh⟩ := hknown
    obtain ⟨_, adapter, e, -, hadapter⟩ := hargs.exists_two
    cases e
    have htype := assign_declaredType false _ _ _ σ ▸ hadapter
    obtain ⟨members, rfl, -⟩ := htype.exists_struct hshape
    exact absurd rfl (hother _ members)
  | adapter hlength =>
    obtain - | - | - | - | hshape := hknown
    have hargs := List.map_map ▸ hargs
    exact yields_pure (inhabits_declared hshape hargs)
  | option hlength hoption =>
    obtain - | - | - | - | - | ⟨_, hunion⟩ := hknown
    exact yields_pure (inhabits_option hunion hoption hargs)
  | when hlength hhandler =>
    obtain - | - | - | - | - | - | hunion := hknown
    obtain - | ⟨hvalue, hhandlers⟩ := hargs
    have hhandlers := List.map_map ▸ hhandlers
    exact yields_distinguish hunion hserves.apply hvalue hhandlers hhandler

/-- What is entered for a case distinction is a value of its union. -/
theorem exists_union_of_when {union : Union} (hunion : realm.library.union? union.entity = some union)
    (hargs : realm.InhabitAll world args (union.whenSignature.args.map (Ty.assign σ))) :
  ∃ owner index payload handlers, args = .union owner index payload :: handlers
    ∧ index < union.options.length
  := by
  obtain - | ⟨hvalue, -⟩ := hargs
  have hvalue : realm.Inhabits world (union.type.assign σ) _ := hvalue
  rw [Union.type, assign_declaredType] at hvalue
  obtain ⟨index, option, payload, rfl, hoption, -⟩ := hvalue.exists_union hunion
  exact ⟨union, index, payload, _, rfl, (List.getElem?_eq_some_iff.mp hoption).1⟩

/-- A call of what has a signature, with types chosen for its type parameters and inhabitants of
what it then takes, yields an inhabitant of what it then returns. -/
theorem yields_evalEntity (hserves : realm.Serves ask) (hhosts : realm.Hosts) {program : Program}
    (haccepted : Accepted program.module) (hlibrary : realm.library = program.module.library)
    (hplain : ∀ entity, program.override? entity = none)
    (hfresh : ∀ other, other = program.module ∨ other ∈ program.module.reachable → other.Fresh)
    {entry : Visible} {signature : Signature} {chosen : List Ty}
    (hdeclares : realm.library.Declares entry)
    (hsignature : realm.library.signature? entry = some signature)
    (hchoice : realm.Choice signature.typeParams.length chosen)
    (hargs : realm.InhabitAll world args (signature.functionType.ground chosen).args)
    (fuel : Nat) :
  realm.Yields EvalCause.Tolerated world (evalEntity program ask fuel entry.entity args)
    (signature.functionType.ground chosen).output
  := by
  have hformed := realm.formed.signature hsignature
  rw [hformed.ground hchoice.count] at hargs ⊢
  rw [hlibrary] at hdeclares hsignature
  obtain ⟨callee, hcallee, -, rfl⟩ := exists_callee?_of_declares haccepted hdeclares hsignature
  have hknown := known_of_callee? haccepted hfresh hcallee
  rw [← hlibrary] at hknown
  have hlength : args.length = callee.signature.args.length :=
    hargs.length_eq.trans (List.length_map _)
  have hwhen : ∀ union, callee = .when union → ∃ owner index payload handlers,
      args = .union owner index payload :: handlers ∧ index < union.options.length := by
    rintro union rfl
    obtain - | - | - | - | - | - | hunion := hknown
    exact exists_union_of_when hunion hargs
  exact yields_of_enters hserves hhosts (Assignment.formed_ofChosen hchoice.formed) hknown
    (enters_evalEntity hplain hcallee hlength hwhen) hargs

end Realm
end TypedModules
