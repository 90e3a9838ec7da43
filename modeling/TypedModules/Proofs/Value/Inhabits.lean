import TypedModules.Proofs.Declared.Arguments
import TypedModules.Proofs.Declared.Shapes
import TypedModules.Proofs.Value.Slots

/-!
# Inhabitants of types

Which values inhabit a type in which all type parameters have been chosen.  A binding inhabits a
function type if, whatever is chosen for the type's own parameters, it is made of a binding that
can be called.  Some of the values that this one takes may be filled in already; the others have
the types that are left.  Which bindings can be called is up to the `Realm`.

Inhabitants stay inhabitants while list builders are created, and they inhabit every type that
is the same.
-/

namespace TypedModules

/-- The types of the items of the list builders that have been created, by their numbers. -/
abbrev World := List Ty

/-- What it depends on which values inhabit which types: what is declared, and which bindings
can be called in which worlds with values of which types, for a value of which type.  A binding
that can be called has an open slot for each value. -/
structure Realm where
  library : Library
  formed : library.Formed
  native : library nativeModule = some nativeDefinitions
  callable : World → Binding → List Ty → Ty → Prop
  counted : ∀ {world binding types output}, callable world binding types output →
    binding.openSlots = types.length
  lasting : ∀ {world later binding types output}, world <+: later →
    callable world binding types output → callable later binding types output

namespace Realm

/-- Whether a list holds a type without parameters for each of `n` parameters. -/
structure Choice (realm : Realm) (n : Nat) (chosen : List Ty) : Prop where
  count : chosen.length = n
  formed : ∀ c ∈ chosen, c.Formed realm.library.closedScope 0

theorem choice_integers (realm : Realm) (n : Nat) :
  realm.Choice n (List.replicate n .integer)
  := ⟨List.length_replicate, fun _ hc => List.eq_of_mem_replicate hc ▸ trivial⟩

/-- Whether a value inhabits a type in a world. -/
inductive Inhabits (realm : Realm) (world : World) : Ty → Value → Prop
  | integer (n : Int) : Inhabits realm world .integer (.integer n)
  | natural (n : Nat) : Inhabits realm world .natural (.natural n)
  | boolean (b : Bool) : Inhabits realm world .boolean (.boolean b)
  | list {element : Ty} {items : List Value} :
    (∀ item ∈ items, Inhabits realm world element item) →
    Inhabits realm world (.list element) (.list items)
  | success {inner : Ty} {value : Value} :
    Inhabits realm world inner value →
    Inhabits realm world (.tryOf inner) (.success value)
  | failure {inner : Ty} : Inhabits realm world (.tryOf inner) .failure
  | string {isReference : Bool} {written : Reference} {args : List Ty} (text : String) :
    Inhabits realm world (.named isReference Native.string.entity written args) (.string text)
  | builder {isReference : Bool} {written : Reference} {item found : Ty} {number : Nat} :
    world[number]? = some found →
    item.same found = true →
    Inhabits realm world (.named isReference Native.listBuilder.entity written [item])
      (.builder number)
  | struct {isReference : Bool} {entity : Entity} {written : Reference} {args : List Ty}
      {header : StructHeader} {members : List Value} :
    realm.library.shape? entity = some header →
    header.members.length = members.length →
    (∀ p ∈ header.members.zip members,
      Inhabits realm world (p.1.type.substitute (.ofParams header.typeParams args)) p.2) →
    Inhabits realm world (.named isReference entity written args) (.struct header members)
  | object {isReference : Bool} {entity : Entity} {written : Reference} {args : List Ty}
      {interface : Interface} {methods : List Binding} :
    realm.library.interface? entity = some interface →
    interface.methods.length = methods.length →
    (∀ p ∈ interface.methods.zip methods, Inhabits realm world
      (p.1.functionType.toTy.substitute (.ofParams interface.typeParams args))
      (.function p.2)) →
    Inhabits realm world (.named isReference entity written args) (.object interface methods)
  | union {isReference : Bool} {entity : Entity} {written : Reference} {args : List Ty}
      {union : Union} {option : UnionOption} {index : Nat} {payload : Option Value} :
    realm.library.union? entity = some union →
    union.options[index]? = some option →
    option.type.toList.length = payload.toList.length →
    (∀ p ∈ option.type.toList.zip payload.toList,
      Inhabits realm world (p.1.substitute (.ofParams union.typeParams args)) p.2) →
    Inhabits realm world (.named isReference entity written args) (.union union index payload)
  /-- For each choice of the type's own parameters there is a binding that can be called with
  values of types `params` for one of type `result`, with slots of which some are filled. -/
  | function {isReference : Bool} {typeParams : List TypeParam} {args : List Ty} {output : Ty}
      {binding : Binding} (base : List Ty → Binding) (params : List Ty → List Ty)
      (result : List Ty → Ty) (filled : List Ty → List (Option Value)) :
    (∀ chosen, realm.Choice typeParams.length chosen →
      realm.callable world (base chosen) (params chosen) (result chosen)
        ∧ binding.target = (base chosen).target
        ∧ binding.slots = Binding.fillSlots (base chosen).slots (filled chosen)
        ∧ (filled chosen).length = (params chosen).length
        ∧ Ty.sameAll (FunctionType.unbound (filled chosen) (params chosen))
          (FunctionType.ground ⟨isReference, typeParams, args, output⟩ chosen).args = true
        ∧ (result chosen).same
          (FunctionType.ground ⟨isReference, typeParams, args, output⟩ chosen).output = true) →
    (∀ chosen, realm.Choice typeParams.length chosen →
      ∀ p ∈ (filled chosen).zip (params chosen), ∀ value, p.1 = some value →
        Inhabits realm world p.2 value) →
    Inhabits realm world (.function isReference typeParams args output) (.function binding)

/-- Whether a binding can be applied to values of types for one of a type: some slots of a binding
that can be called are filled with values that inhabit their types, and the other types are
these. -/
inductive Applies (realm : Realm) (world : World) (binding : Binding) (types : List Ty)
    (output : Ty) : Prop
  | intro {base : Binding} {params : List Ty} {result : Ty} {filled : List (Option Value)} :
    realm.callable world base params result →
    binding.target = base.target →
    binding.slots = Binding.fillSlots base.slots filled →
    SlotsFit (realm.Inhabits world) filled params →
    Ty.sameAll (FunctionType.unbound filled params) types = true →
    result.same output = true →
    Applies realm world binding types output

variable {realm : Realm} {world later : World}

/-- A binding inhabits a function type if, for each choice of the type's own parameters, it can
be applied to values of the types of its arguments. -/
theorem inhabits_toTy_iff {function : FunctionType} {value : Value} :
  realm.Inhabits world function.toTy value
    ↔ ∃ binding, value = .function binding
      ∧ ∀ chosen, realm.Choice function.typeParams.length chosen →
        realm.Applies world binding (function.ground chosen).args (function.ground chosen).output
  := by
  constructor
  case mp =>
    intro h
    unfold FunctionType.toTy at h
    cases h with
    | function base params result filled hbase hfilled =>
      refine ⟨_, rfl, fun chosen hchosen => ?_⟩
      obtain ⟨hbase, htarget, hslots, hlength, hargs, houtput⟩ := hbase chosen hchosen
      refine .intro hbase htarget hslots ?_ hargs houtput
      rw [SlotsFit, List.forall₂_iff_zip]
      exact ⟨hlength, fun hp => hfilled chosen hchosen _ hp⟩
  case mpr =>
    rintro ⟨binding, rfl, h⟩
    have hchoose : ∀ chosen, ∃ (base : Binding) (params : List Ty) (result : Ty)
        (filled : List (Option Value)), realm.Choice function.typeParams.length chosen →
          realm.callable world base params result ∧ binding.target = base.target
            ∧ binding.slots = Binding.fillSlots base.slots filled
            ∧ SlotsFit (realm.Inhabits world) filled params
            ∧ Ty.sameAll (FunctionType.unbound filled params) (function.ground chosen).args = true
            ∧ result.same (function.ground chosen).output = true := by
      intro chosen
      by_cases hchosen : realm.Choice function.typeParams.length chosen
      · obtain ⟨hbase, htarget, hslots, hfit, hargs, houtput⟩ := h chosen hchosen
        exact ⟨_, _, _, _, fun _ => ⟨hbase, htarget, hslots, hfit, hargs, houtput⟩⟩
      · exact ⟨binding, [], .integer, [], fun h => absurd h hchosen⟩
    choose base params result filled h using hchoose
    refine .function base params result filled (fun chosen hchosen => ?_) fun chosen hchosen => ?_
    · obtain ⟨hbase, htarget, hslots, hfit, hargs, houtput⟩ := h chosen hchosen
      exact ⟨hbase, htarget, hslots, hfit.length_eq, hargs, houtput⟩
    · obtain ⟨-, -, -, hfit, -, -⟩ := h chosen hchosen
      intro p hp value e
      exact (List.forall₂_iff_zip.mp hfit).2 hp value e

/-! ### Larger worlds -/

/-- An inhabitant of a type stays one while list builders are created. -/
theorem Inhabits.grow (hgrows : world <+: later) {type : Ty} {value : Value}
    (h : realm.Inhabits world type value) :
  realm.Inhabits later type value
  := by
  induction h with
  | integer n => exact .integer n
  | natural n => exact .natural n
  | boolean b => exact .boolean b
  | list _ ih => exact .list ih
  | success _ ih => exact .success ih
  | failure => exact .failure
  | string text => exact .string text
  | builder hfound hsame =>
    obtain ⟨hlt, rfl⟩ := List.getElem?_eq_some_iff.mp hfound
    exact .builder (List.prefix_iff_getElem?.mp hgrows _ hlt) hsame
  | struct hshape hlength _ ih => exact .struct hshape hlength ih
  | object hinterface hlength _ ih => exact .object hinterface hlength ih
  | union hunion hoption hlength _ ih => exact .union hunion hoption hlength ih
  | function base params result filled hbase _ ih =>
    refine .function base params result filled (fun chosen hchosen => ?_) ih
    obtain ⟨hbase, hrest⟩ := hbase chosen hchosen
    exact ⟨realm.lasting hgrows hbase, hrest⟩

theorem Applies.grow (hgrows : world <+: later) {binding : Binding} {types : List Ty} {output : Ty}
    (h : realm.Applies world binding types output) :
  realm.Applies later binding types output
  := by
  obtain ⟨hbase, htarget, hslots, hfit, hargs, houtput⟩ := h
  exact ⟨realm.lasting hgrows hbase, htarget, hslots, hfit.imp fun _ _ h => h.grow hgrows, hargs,
    houtput⟩

/-! ### Same types -/

/-- An inhabitant of a type inhabits every type that is the same. -/
theorem Inhabits.same {type type' : Ty} {value : Value} (h : realm.Inhabits world type value)
    (hsame : type.same type' = true) :
  realm.Inhabits world type' value
  := by
  induction h generalizing type' with
  | integer n =>
    cases type' <;> simp only [Ty.same, Bool.false_eq_true] at hsame
    exact .integer n
  | natural n =>
    cases type' <;> simp only [Ty.same, Bool.false_eq_true] at hsame
    exact .natural n
  | boolean b =>
    cases type' <;> simp only [Ty.same, Bool.false_eq_true] at hsame
    exact .boolean b
  | list _ ih =>
    cases type' <;> simp only [Ty.same, Bool.false_eq_true] at hsame
    exact .list fun item hitem => ih item hitem hsame
  | success _ ih =>
    cases type' <;> simp only [Ty.same, Bool.false_eq_true] at hsame
    exact .success (ih hsame)
  | failure =>
    cases type' <;> simp only [Ty.same, Bool.false_eq_true] at hsame
    exact .failure
  | string text =>
    cases type' <;> simp only [Ty.same, Bool.false_eq_true, Bool.and_eq_true, beq_iff_eq] at hsame
    obtain ⟨⟨-, rfl⟩, -⟩ := hsame
    exact .string text
  | @builder isReference written item found number hfound hitem =>
    cases type' <;> simp only [Ty.same, Bool.false_eq_true, Bool.and_eq_true, beq_iff_eq] at hsame
    next params =>
    obtain ⟨⟨-, rfl⟩, hparams⟩ := hsame
    rw [Ty.sameAll_iff] at hparams
    obtain ⟨item', rfl⟩ : ∃ item', params = [item'] :=
      List.length_eq_one_iff.mp (by simpa using (congrArg List.length hparams).symm)
    have hitem' : item'.same item = true := by simpa [Ty.same_iff] using hparams.symm
    exact .builder hfound (Ty.same_trans hitem' hitem)
  | struct hshape hlength _ ih =>
    cases type' <;> simp only [Ty.same, Bool.false_eq_true, Bool.and_eq_true, beq_iff_eq] at hsame
    obtain ⟨⟨-, rfl⟩, hparams⟩ := hsame
    exact .struct hshape hlength fun p hp => ih p hp (Ty.same_substitute_ofParams hparams _)
  | object hinterface hlength _ ih =>
    cases type' <;> simp only [Ty.same, Bool.false_eq_true, Bool.and_eq_true, beq_iff_eq] at hsame
    obtain ⟨⟨-, rfl⟩, hparams⟩ := hsame
    exact .object hinterface hlength fun p hp => ih p hp (Ty.same_substitute_ofParams hparams _)
  | union hunion hoption hlength _ ih =>
    cases type' <;> simp only [Ty.same, Bool.false_eq_true, Bool.and_eq_true, beq_iff_eq] at hsame
    obtain ⟨⟨-, rfl⟩, hparams⟩ := hsame
    exact .union hunion hoption hlength fun p hp => ih p hp (Ty.same_substitute_ofParams hparams _)
  | @function isReference typeParams args output binding base params result filled hbase hfilled ih =>
    cases type' with
    | function isReference' typeParams' args' output' =>
      have hsame : (FunctionType.mk isReference typeParams args output).toTy.same
          (FunctionType.mk isReference' typeParams' args' output').toTy = true := hsame
      have hcount : typeParams.length = typeParams'.length :=
        FunctionType.length_typeParams_of_same hsame
      refine .function base params result filled (fun chosen hchosen => ?_) ?_
      · obtain ⟨hb, htarget, hslots, hlength, hargs, houtput⟩ :=
          hbase chosen (hcount ▸ hchosen)
        obtain ⟨-, -, hargs', houtput'⟩ := FunctionType.same_toTy.mp
          (FunctionType.same_ground hsame (Ty.sameAll_refl chosen))
        exact ⟨hb, htarget, hslots, hlength, Ty.sameAll_trans hargs hargs',
          Ty.same_trans houtput houtput'⟩
      · exact fun chosen hchosen => hfilled chosen (hcount ▸ hchosen)
    | _ => simp [Ty.same] at hsame

end Realm
end TypedModules
