import TypedModules.Proofs.Native.Loops
import TypedModules.Proofs.Sound.Requests

/-!
# Native functions keep to their signatures

Each native function, given inhabitants of the types of its arguments, yields inhabitants of the
type of its result, whatever types are chosen for the type parameters of its signature.
-/

namespace TypedModules

open Realm

variable {realm : Realm} {allows : EvalCause → Prop} {world : World}

/-- Inhabitants of a type stay what they are while the world grows. -/
theorem lasting_inhabits (type : Ty) :
  @NativeFunction.Lasting (realm.discipline allows) Value fun world value =>
    realm.Inhabits world type value
  := fun hgrows _ h => h.grow hgrows

/-- What may be nothing is a failure or a success. -/
theorem inhabits_ofOption {inner : Ty} {value : Option Value}
    (h : ∀ v, value = some v → realm.Inhabits world inner v) :
  realm.Inhabits world (.tryOf inner) (.ofOption value)
  := by
  cases value with
  | none => exact .failure
  | some v => exact .success (h v rfl)

theorem Realm.Answers.apply {ask : Request → Eval Value} (hask : realm.Answers allows ask)
    {f : Binding} {types : List Ty} {output : Ty} (hf : realm.Applies world f types output)
    {after : World} (hgrows : world <+: after) {args : List Value}
    (hargs : realm.InhabitAll after args types) :
  realm.Yields allows after (ask (.apply f args)) output
  := hask _ _ _ _ _ (hf.grow hgrows) hargs

/-- A function of one argument that is applied. -/
theorem Realm.Answers.applyOne {ask : Request → Eval Value} (hask : realm.Answers allows ask)
    {f : Binding} {type output : Ty} (hf : realm.Applies world f [type] output) {after : World}
    (hgrows : world <+: after) {value : Value} (hvalue : realm.Inhabits after type value) :
  realm.Yields allows after (ask (.apply f [value])) output
  := hask.apply hf hgrows (.cons hvalue .nil)

/-! ### Reading what was returned -/

theorem keeps_asList {run : Eval Value} {element : Ty}
    (h : realm.Yields allows world run (.list element)) :
  realm.Keeps allows world (run >>= Value.asList) fun after items =>
    ∀ item ∈ items, realm.Inhabits after element item
  := by
  refine h.bind fun after _ value hvalue => ?_
  obtain ⟨items, rfl, hitems⟩ := hvalue.exists_list
  exact keeps_pure hitems

theorem keeps_asBoolean {run : Eval Value} (h : realm.Yields allows world run .boolean) :
  realm.Keeps allows world (run >>= Value.asBoolean) fun _ _ => True
  := by
  refine h.bind fun after _ value hvalue => ?_
  obtain ⟨b, rfl⟩ := hvalue.exists_boolean
  exact keeps_pure trivial

/-- The parts of a sequence are its first element and the function to the next. -/
theorem exists_sequence {type : Ty} {isReference : Bool} {written : Reference} {sequence : Value}
    (h : realm.Inhabits world (.named isReference Native.sequence.entity written [type]) sequence) :
  ∃ base next, sequence = .struct Native.sequence [base, .function next]
    ∧ realm.Inhabits world type base ∧ realm.Applies world next [type] type
  := by
  have hshape : realm.library.shape? Native.sequence.entity = some Native.sequence := by
    apply Library.shape?_of_struct? realm.native
    exact distinct_nativeDefinitions.struct?_of_mem List.mem_cons_self
  obtain ⟨members, rfl, hmembers⟩ := h.exists_struct hshape
  obtain _ | ⟨hbase, _ | ⟨hsuccessor, _ | _⟩⟩ := hmembers
  obtain ⟨next, rfl, hnext⟩ := hsuccessor.exists_function
  exact ⟨_, next, rfl, hbase, hnext⟩

/-! ### All native functions -/

namespace NativeFunction

variable {ask : Request → Eval Value} {args : List Value} {σ : Assignment}

section Lists

variable (hask : realm.Answers allows ask) (fuel : Nat)

include hask

theorem yields_listMap (h : realm.InhabitAll world args (listMap.signature.args.map (Ty.assign σ))) :
  realm.Yields allows world (listMap.run ask fuel args) (listMap.signature.output.assign σ)
  := by
  obtain _ | ⟨hlist, _ | ⟨hfunction, _ | _⟩⟩ := h
  obtain ⟨items, rfl, hitems⟩ := hlist.exists_list
  obtain ⟨f, rfl, hf⟩ := hfunction.exists_function
  have hloop : realm.Keeps allows world (mapItems (ask <| .apply f ·) items) fun after vs =>
      ∀ v ∈ vs, realm.Inhabits after (σ "U") v :=
    keeps_mapItems (lasting_inhabits (σ "T")) (lasting_inhabits (σ "U"))
      (fun _ hgrows _ hv => hask.applyOne hf hgrows hv) hitems
  exact hloop.bind fun _ _ _ hvs => yields_pure (.list hvs)

theorem yields_listFlatMap
    (h : realm.InhabitAll world args (listFlatMap.signature.args.map (Ty.assign σ))) :
  realm.Yields allows world (listFlatMap.run ask fuel args) (listFlatMap.signature.output.assign σ)
  := by
  obtain _ | ⟨hlist, _ | ⟨hfunction, _ | _⟩⟩ := h
  obtain ⟨items, rfl, hitems⟩ := hlist.exists_list
  obtain ⟨f, rfl, hf⟩ := hfunction.exists_function
  have hloop : realm.Keeps allows world (flatMapItems (ask <| .apply f ·) items) fun after vs =>
      ∀ v ∈ vs, realm.Inhabits after (σ "U") v :=
    keeps_flatMapItems (lasting_inhabits (σ "T")) (lasting_inhabits (σ "U"))
      (fun _ hgrows _ hv => keeps_asList (hask.applyOne hf hgrows hv)) hitems
  exact hloop.bind fun _ _ _ hvs => yields_pure (.list hvs)

theorem yields_listFilter
    (h : realm.InhabitAll world args (listFilter.signature.args.map (Ty.assign σ))) :
  realm.Yields allows world (listFilter.run ask fuel args) (listFilter.signature.output.assign σ)
  := by
  obtain _ | ⟨hlist, _ | ⟨hfunction, _ | _⟩⟩ := h
  obtain ⟨items, rfl, hitems⟩ := hlist.exists_list
  obtain ⟨f, rfl, hf⟩ := hfunction.exists_function
  have hloop : realm.Keeps allows world (filterItems (ask <| .apply f ·) items) fun after vs =>
      ∀ v ∈ vs, realm.Inhabits after (σ "T") v :=
    keeps_filterItems (lasting_inhabits (σ "T"))
      (fun _ hgrows _ hv => keeps_asBoolean (hask.applyOne hf hgrows hv)) hitems
  exact hloop.bind fun _ _ _ hvs => yields_pure (.list hvs)

theorem yields_listReduce
    (h : realm.InhabitAll world args (listReduce.signature.args.map (Ty.assign σ))) :
  realm.Yields allows world (listReduce.run ask fuel args) (listReduce.signature.output.assign σ)
  := by
  obtain _ | ⟨hlist, _ | ⟨hstart, _ | ⟨hfunction, _ | _⟩⟩⟩ := h
  obtain ⟨items, rfl, hitems⟩ := hlist.exists_list
  obtain ⟨f, rfl, hf⟩ := hfunction.exists_function
  exact keeps_reduceItems (lasting_inhabits (σ "T"))
    (fun _ hgrows _ _ hv hw => hask.apply hf hgrows (.cons hv (.cons hw .nil))) hstart hitems

end Lists

theorem yields_listConcatenate (fuel : Nat)
    (h : realm.InhabitAll world args (listConcatenate.signature.args.map (Ty.assign σ))) :
  realm.Yields allows world (listConcatenate.run ask fuel args)
    (listConcatenate.signature.output.assign σ)
  := by
  obtain _ | ⟨hlist, _ | _⟩ := h
  obtain ⟨lists, rfl, hlists⟩ := hlist.exists_list
  have hloop : realm.Keeps allows world (flatten lists) fun after vs =>
      ∀ v ∈ vs, realm.Inhabits after (σ "T") v :=
    keeps_flatten (lasting_inhabits (σ "T")) fun after hgrows v hv =>
      keeps_asList (yields_pure ((hlists v hv).grow hgrows))
  exact hloop.bind fun _ _ _ hvs => yields_pure (.list hvs)

theorem inhabits_greatest (numbers : List Nat) :
  realm.Inhabits world (.tryOf .natural) (.ofOption ((greatest numbers).map .natural))
  := by
  apply inhabits_ofOption
  intro v hv
  obtain ⟨n, -, rfl⟩ := Option.map_eq_some_iff.mp hv
  exact .natural n

theorem yields_naturalMax (fuel : Nat)
    (h : realm.InhabitAll world args (naturalMax.signature.args.map (Ty.assign σ))) :
  realm.Yields allows world (naturalMax.run ask fuel args) (naturalMax.signature.output.assign σ)
  := by
  obtain _ | ⟨hlist, _ | _⟩ := h
  obtain ⟨items, rfl, hitems⟩ := hlist.exists_list
  have hnumbers : realm.Keeps allows world (items.mapM Value.asNatural) fun _ =>
      List.Forall₂ (fun _ _ => True) items := by
    refine Discipline.keeps_mapM (fun _ _ _ h => h) fun after _ item hitem => ?_
    obtain ⟨n, rfl⟩ := (hitems item hitem).exists_natural
    exact keeps_pure trivial
  exact hnumbers.bind fun _ _ numbers _ => yields_pure (inhabits_greatest numbers)

theorem yields_listSubList (fuel : Nat)
    (h : realm.InhabitAll world args (listSubList.signature.args.map (Ty.assign σ))) :
  realm.Yields allows world (listSubList.run ask fuel args) (listSubList.signature.output.assign σ)
  := by
  obtain _ | ⟨hlist, _ | ⟨hstart, _ | ⟨hstop, _ | _⟩⟩⟩ := h
  obtain ⟨items, rfl, hitems⟩ := hlist.exists_list
  obtain ⟨start, rfl⟩ := hstart.exists_natural
  obtain ⟨stop, rfl⟩ := hstop.exists_natural
  refine yields_pure (inhabits_ofOption fun v hv => ?_)
  obtain ⟨part, hpart, rfl⟩ := Option.map_eq_some_iff.mp hv
  unfold subList? at hpart
  split at hpart <;> cases hpart
  exact .list fun item hitem => hitems item (List.mem_of_mem_take (List.mem_of_mem_drop hitem))

section Sequences

variable (hask : realm.Answers allows ask) (fuel : Nat)

include hask

theorem yields_sequenceGet
    (h : realm.InhabitAll world args (sequenceGet.signature.args.map (Ty.assign σ))) :
  realm.Yields allows world (sequenceGet.run ask fuel args) (sequenceGet.signature.output.assign σ)
  := by
  obtain _ | ⟨hsequence, _ | ⟨hposition, _ | _⟩⟩ := h
  obtain ⟨base, next, rfl, hbase, hnext⟩ := exists_sequence hsequence
  obtain ⟨n, rfl⟩ := hposition.exists_natural
  exact keeps_iterate n (fun _ hgrows _ hv => hask.applyOne hnext hgrows hv) hbase

theorem yields_sequenceFirst
    (h : realm.InhabitAll world args (sequenceFirst.signature.args.map (Ty.assign σ))) :
  realm.Yields allows world (sequenceFirst.run ask fuel args) (sequenceFirst.signature.output.assign σ)
  := by
  obtain _ | ⟨hsequence, _ | ⟨hfunction, _ | _⟩⟩ := h
  obtain ⟨base, next, rfl, hbase, hnext⟩ := exists_sequence hsequence
  obtain ⟨f, rfl, hf⟩ := hfunction.exists_function
  exact keeps_search fuel (lasting_inhabits (σ "T"))
    (fun _ hgrows _ hv => hask.applyOne hnext hgrows hv)
    (fun _ hgrows _ hv => keeps_asBoolean (hask.applyOne hf hgrows hv)) hbase

end Sequences

section Tries

variable (hask : realm.Answers allows ask) (fuel : Nat)

theorem yields_tryAssume (hassume : allows .assumedFailure)
    (h : realm.InhabitAll world args (tryAssume.signature.args.map (Ty.assign σ))) :
  realm.Yields allows world (tryAssume.run ask fuel args) (tryAssume.signature.output.assign σ)
  := by
  obtain _ | ⟨htry, _ | _⟩ := h
  obtain rfl | ⟨v, rfl, hv⟩ := htry.exists_try
  · exact keeps_fail hassume
  · exact yields_pure hv

theorem yields_tryOrElse
    (h : realm.InhabitAll world args (tryOrElse.signature.args.map (Ty.assign σ))) :
  realm.Yields allows world (tryOrElse.run ask fuel args) (tryOrElse.signature.output.assign σ)
  := by
  obtain _ | ⟨htry, _ | ⟨hother, _ | _⟩⟩ := h
  obtain rfl | ⟨v, rfl, hv⟩ := htry.exists_try
  · exact yields_pure hother
  · exact yields_pure hv

include hask

theorem yields_tryMap
    (h : realm.InhabitAll world args (tryMap.signature.args.map (Ty.assign σ))) :
  realm.Yields allows world (tryMap.run ask fuel args) (tryMap.signature.output.assign σ)
  := by
  obtain _ | ⟨htry, _ | ⟨hfunction, _ | _⟩⟩ := h
  obtain ⟨f, rfl, hf⟩ := hfunction.exists_function
  obtain rfl | ⟨v, rfl, hv⟩ := htry.exists_try
  · exact yields_pure .failure
  · have hresult := hask.applyOne hf (List.prefix_refl world) hv
    exact hresult.bind fun _ _ _ hw => yields_pure (.success hw)

theorem yields_tryFlatMap
    (h : realm.InhabitAll world args (tryFlatMap.signature.args.map (Ty.assign σ))) :
  realm.Yields allows world (tryFlatMap.run ask fuel args) (tryFlatMap.signature.output.assign σ)
  := by
  obtain _ | ⟨htry, _ | ⟨hfunction, _ | _⟩⟩ := h
  obtain ⟨f, rfl, hf⟩ := hfunction.exists_function
  obtain rfl | ⟨v, rfl, hv⟩ := htry.exists_try
  · exact yields_pure .failure
  · exact hask.applyOne hf (List.prefix_refl world) hv

end Tries

section Builders

variable (fuel : Nat)

theorem yields_builderCreate
    (h : realm.InhabitAll world args (builderCreate.signature.args.map (Ty.assign σ))) :
  realm.Yields allows world (builderCreate.run ask fuel args) (builderCreate.signature.output.assign σ)
  := by
  cases h
  intro store hfits
  refine ⟨world ++ [σ "T"], List.prefix_append _ _, Fits.create hfits (σ "T"), ?_⟩
  refine .builder ?_ (Ty.same_refl (σ "T"))
  rw [Fits.count hfits]
  exact List.getElem?_concat_length

/-- A builder that is given more items of its type. -/
theorem keeps_append {number : Nat} {type found : Ty} {items : List Value}
    (hfound : world[number]? = some found) (hsame : type.same found = true)
    (hitems : ∀ item ∈ items, realm.Inhabits world type item) :
  realm.Keeps allows world (modify (·.append number items) : Eval PUnit) fun after _ => after = world
  := Discipline.keeps_modify fun _ hfits => ⟨world, List.prefix_refl world,
    Fits.append hfits hfound fun item hitem => (hitems item hitem).same hsame, rfl⟩

theorem yields_builderAppend
    (h : realm.InhabitAll world args (builderAppend.signature.args.map (Ty.assign σ))) :
  realm.Yields allows world (builderAppend.run ask fuel args) (builderAppend.signature.output.assign σ)
  := by
  obtain ⟨builder, item, rfl, hbuilder, hitem⟩ := h.exists_two
  obtain ⟨number, found, rfl, hfound, hsame⟩ := hbuilder.exists_builder
  have happend : realm.Keeps allows world (modify (·.append number [item]) : Eval PUnit) fun after _ =>
      after = world :=
    keeps_append hfound hsame (List.forall_mem_singleton.mpr hitem)
  exact happend.bind fun _ _ _ e => yields_pure (e ▸ hbuilder)

theorem yields_builderAppendAll
    (h : realm.InhabitAll world args (builderAppendAll.signature.args.map (Ty.assign σ))) :
  realm.Yields allows world (builderAppendAll.run ask fuel args)
    (builderAppendAll.signature.output.assign σ)
  := by
  obtain ⟨builder, list, rfl, hbuilder, hlist⟩ := h.exists_two
  obtain ⟨number, found, rfl, hfound, hsame⟩ := hbuilder.exists_builder
  obtain ⟨items, rfl, hitems⟩ := hlist.exists_list
  have happend : realm.Keeps allows world (modify (·.append number items) : Eval PUnit) fun after _ =>
      after = world :=
    keeps_append hfound hsame hitems
  exact happend.bind fun _ _ _ e => yields_pure (e ▸ hbuilder)

theorem yields_builderBuild
    (h : realm.InhabitAll world args (builderBuild.signature.args.map (Ty.assign σ))) :
  realm.Yields allows world (builderBuild.run ask fuel args) (builderBuild.signature.output.assign σ)
  := by
  obtain _ | ⟨hbuilder, _ | _⟩ := h
  obtain ⟨number, found, rfl, hfound, hsame⟩ := hbuilder.exists_builder
  intro store hfits
  refine ⟨world, List.prefix_refl world, hfits, .list fun item hitem => ?_⟩
  exact (Fits.items hfits number found hfound item hitem).same (Ty.same_symm hsame)

end Builders

/-- A native function that is given inhabitants of the types of its arguments yields inhabitants
of the type of its result.  Of itself it causes no error, but for a failure that is assumed to be
a success. -/
theorem yields_run (hask : realm.Answers allows ask) (fuel : Nat) (function : NativeFunction)
    (hassume : function = tryAssume → allows .assumedFailure)
    (h : realm.InhabitAll world args (function.signature.args.map (Ty.assign σ))) :
  realm.Yields allows world (function.run ask fuel args) (function.signature.output.assign σ)
  := by
  cases function
  case listMap => exact yields_listMap hask fuel h
  case listFlatMap => exact yields_listFlatMap hask fuel h
  case listFilter => exact yields_listFilter hask fuel h
  case listReduce => exact yields_listReduce hask fuel h
  case listConcatenate => exact yields_listConcatenate fuel h
  case listSubList => exact yields_listSubList fuel h
  case naturalMax => exact yields_naturalMax fuel h
  case sequenceGet => exact yields_sequenceGet hask fuel h
  case sequenceFirst => exact yields_sequenceFirst hask fuel h
  case tryAssume => exact yields_tryAssume fuel (hassume rfl) h
  case tryOrElse => exact yields_tryOrElse fuel h
  case tryMap => exact yields_tryMap hask fuel h
  case tryFlatMap => exact yields_tryFlatMap hask fuel h
  case builderCreate => exact yields_builderCreate fuel h
  case builderAppend => exact yields_builderAppend fuel h
  case builderAppendAll => exact yields_builderAppendAll fuel h
  case builderBuild => exact yields_builderBuild fuel h
  case booleanNot =>
    obtain _ | ⟨ha, _ | _⟩ := h
    obtain ⟨a, rfl⟩ := ha.exists_boolean
    exact yields_pure (.boolean _)
  case booleanAnd | booleanOr =>
    obtain _ | ⟨ha, _ | ⟨hb, _ | _⟩⟩ := h
    obtain ⟨a, rfl⟩ := ha.exists_boolean
    obtain ⟨b, rfl⟩ := hb.exists_boolean
    exact yields_pure (.boolean _)
  case dataEquals =>
    obtain _ | ⟨ha, _ | ⟨hb, _ | _⟩⟩ := h
    exact yields_pure (.boolean _)
  case integerPlus | integerMinus | integerTimes =>
    obtain _ | ⟨ha, _ | ⟨hb, _ | _⟩⟩ := h
    obtain ⟨a, rfl⟩ := ha.exists_integer
    obtain ⟨b, rfl⟩ := hb.exists_integer
    exact yields_pure (.integer _)
  case integerEquals | integerLessThan | integerGreaterThan =>
    obtain _ | ⟨ha, _ | ⟨hb, _ | _⟩⟩ := h
    obtain ⟨a, rfl⟩ := ha.exists_integer
    obtain ⟨b, rfl⟩ := hb.exists_integer
    exact yields_pure (.boolean _)
  case integerDividedBy | integerModulo =>
    obtain _ | ⟨ha, _ | ⟨hb, _ | _⟩⟩ := h
    obtain ⟨a, rfl⟩ := ha.exists_integer
    obtain ⟨b, rfl⟩ := hb.exists_integer
    refine yields_pure (inhabits_ofOption fun v hv => ?_)
    obtain ⟨n, -, rfl⟩ := Option.map_eq_some_iff.mp hv
    exact .integer n
  case natural =>
    obtain _ | ⟨ha, _ | _⟩ := h
    obtain ⟨a, rfl⟩ := ha.exists_integer
    refine yields_pure (inhabits_ofOption fun v hv => ?_)
    split at hv <;> cases hv
    exact .natural _
  case naturalToInteger =>
    obtain _ | ⟨ha, _ | _⟩ := h
    obtain ⟨a, rfl⟩ := ha.exists_natural
    exact yields_pure (.integer _)
  case naturalPlus | naturalTimes =>
    obtain _ | ⟨ha, _ | ⟨hb, _ | _⟩⟩ := h
    obtain ⟨a, rfl⟩ := ha.exists_natural
    obtain ⟨b, rfl⟩ := hb.exists_natural
    exact yields_pure (.natural _)
  case naturalEquals | naturalLessThan =>
    obtain _ | ⟨ha, _ | ⟨hb, _ | _⟩⟩ := h
    obtain ⟨a, rfl⟩ := ha.exists_natural
    obtain ⟨b, rfl⟩ := hb.exists_natural
    exact yields_pure (.boolean _)
  case naturalDividedBy =>
    obtain _ | ⟨ha, _ | ⟨hb, _ | _⟩⟩ := h
    obtain ⟨a, rfl⟩ := ha.exists_natural
    obtain ⟨b, rfl⟩ := hb.exists_natural
    refine yields_pure (inhabits_ofOption fun v hv => ?_)
    split at hv <;> cases hv
    exact .natural _
  case listAppend =>
    obtain _ | ⟨hlist, _ | ⟨hitem, _ | _⟩⟩ := h
    obtain ⟨items, rfl, hitems⟩ := hlist.exists_list
    exact yields_pure (.list (List.forall_mem_append.mpr
      ⟨hitems, List.forall_mem_singleton.mpr hitem⟩))
  case listAppendFront =>
    obtain _ | ⟨hlist, _ | ⟨hitem, _ | _⟩⟩ := h
    obtain ⟨items, rfl, hitems⟩ := hlist.exists_list
    exact yields_pure (.list (List.forall_mem_cons.mpr ⟨hitem, hitems⟩))
  case listSize =>
    obtain _ | ⟨hlist, _ | _⟩ := h
    obtain ⟨items, rfl, hitems⟩ := hlist.exists_list
    exact yields_pure (.natural _)
  case listGet =>
    obtain _ | ⟨hlist, _ | ⟨hposition, _ | _⟩⟩ := h
    obtain ⟨items, rfl, hitems⟩ := hlist.exists_list
    obtain ⟨n, rfl⟩ := hposition.exists_natural
    exact yields_pure (inhabits_ofOption fun v hv => hitems v (List.mem_of_getElem? hv))
  case listLast =>
    obtain _ | ⟨hlist, _ | _⟩ := h
    obtain ⟨items, rfl, hitems⟩ := hlist.exists_list
    exact yields_pure (inhabits_ofOption fun v hv => hitems v (List.mem_of_getLast? hv))
  case trySuccess =>
    obtain _ | ⟨hvalue, _ | _⟩ := h
    exact yields_pure (.success hvalue)
  case tryFailure =>
    cases h
    exact yields_pure .failure
  case tryIsSuccess =>
    obtain _ | ⟨htry, _ | _⟩ := h
    obtain rfl | ⟨v, rfl, -⟩ := htry.exists_try
    · exact yields_pure (.boolean _)
    · exact yields_pure (.boolean _)
  case stringLength =>
    obtain _ | ⟨hstring, _ | _⟩ := h
    obtain ⟨text, rfl⟩ := hstring.exists_string
    exact yields_pure (.natural _)

end NativeFunction
end TypedModules
