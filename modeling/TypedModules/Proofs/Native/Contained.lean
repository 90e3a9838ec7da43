import TypedModules.Native.Library
import TypedModules.Proofs.Eval.Containment
import TypedModules.Proofs.Native.Loops

/-!
# Native functions hand on what they are given

Whatever a native function is given, the closures and builders in what it returns or appends to a
builder come from its arguments, from the store or from answers to what it asks for, but for a
builder that it creates.  So a native function keeps to every containment, and the causes that it
raises itself are few: `NativeFunction.keeps_run`.
-/

namespace TypedModules

open Containment

namespace NativeFunction

variable {containment : Containment} {world : containment.World} {function : NativeFunction}
  {args : List Value}

/-! ### Arguments -/

/-- The number of arguments that a native function is declared with. -/
def arity (function : NativeFunction) : Nat :=
  function.declaration.2.1.length

/-- Whether a native function that takes `n` arguments may report that it was given others. -/
def MayMiscount (allows : EvalCause → Prop) (function : NativeFunction) (args : List Value)
    (n : Nat) : Prop :=
  args.length ≠ n → ∀ k, allows (.arityMismatch function.name k args.length)

theorem reads_noArgument (hcount : function.MayMiscount containment.allows args 0) :
  containment.Reads (function.noArgument args) fun _ => True
  := by
  unfold noArgument
  split
  next => exact reads_pure trivial
  next hne => exact reads_fail (hcount (fun h => hne (List.eq_nil_of_length_eq_zero h)) 0)

section Arguments

variable (h : ∀ a ∈ args, containment.holds world a)

include h

theorem reads_oneArgument (hcount : function.MayMiscount containment.allows args 1) :
  containment.Reads (function.oneArgument args) fun a => containment.holds world a
  := by
  unfold oneArgument
  split
  next => exact reads_pure (h _ List.mem_cons_self)
  next hne =>
    refine reads_fail (hcount (fun hlength => ?_) 1)
    obtain ⟨a, rfl⟩ := List.length_eq_one_iff.mp hlength
    exact hne a rfl

theorem reads_twoArguments (hcount : function.MayMiscount containment.allows args 2) :
  containment.Reads (function.twoArguments args) fun p =>
    containment.holds world p.1 ∧ containment.holds world p.2
  := by
  unfold twoArguments
  split
  next => exact reads_pure (by simpa using h)
  next hne =>
    refine reads_fail (hcount (fun hlength => ?_) 2)
    obtain ⟨a, b, rfl⟩ := List.length_eq_two.mp hlength
    exact hne a b rfl

theorem reads_threeArguments (hcount : function.MayMiscount containment.allows args 3) :
  containment.Reads (function.threeArguments args) fun p =>
    containment.holds world p.1 ∧ containment.holds world p.2.1 ∧ containment.holds world p.2.2
  := by
  unfold threeArguments
  split
  next => exact reads_pure (by simpa using h)
  next hne =>
    refine reads_fail (hcount (fun hlength => ?_) 3)
    obtain ⟨a, b, c, rfl⟩ := List.length_eq_three.mp hlength
    exact hne a b c rfl

theorem reads_booleans (hcount : function.MayMiscount containment.allows args 2) :
  containment.Reads (function.booleans args) fun _ => True
  := (reads_twoArguments h hcount).bind fun _ _ => reads_asBoolean.bind fun _ _ =>
    reads_asBoolean.bind fun _ _ => reads_pure trivial

theorem reads_integers (hcount : function.MayMiscount containment.allows args 2) :
  containment.Reads (function.integers args) fun _ => True
  := (reads_twoArguments h hcount).bind fun _ _ => reads_asInteger.bind fun _ _ =>
    reads_asInteger.bind fun _ _ => reads_pure trivial

theorem reads_naturals (hcount : function.MayMiscount containment.allows args 2) :
  containment.Reads (function.naturals args) fun _ => True
  := (reads_twoArguments h hcount).bind fun _ _ => reads_asNatural.bind fun _ _ =>
    reads_asNatural.bind fun _ _ => reads_pure trivial

theorem reads_listAndFunction (hcount : function.MayMiscount containment.allows args 2) :
  containment.Reads (function.listAndFunction args) fun p =>
    (∀ i ∈ p.1, containment.holds world i) ∧ containment.holds world (.function p.2)
  := by
  apply (reads_twoArguments h hcount).bind
  rintro ⟨list, f⟩ ⟨hlist, hf⟩
  apply (reads_asList hlist).bind
  intro items hitems
  apply (reads_asBinding hf).bind
  exact fun binding hbinding => reads_pure ⟨hitems, hbinding⟩

theorem reads_tryAndFunction (hcount : function.MayMiscount containment.allows args 2) :
  containment.Reads (function.tryAndFunction args) fun p =>
    (∀ v, p.1 = some v → containment.holds world v) ∧ containment.holds world (.function p.2)
  := by
  apply (reads_twoArguments h hcount).bind
  rintro ⟨value, f⟩ ⟨hvalue, hf⟩
  apply (reads_asBinding hf).bind
  intro binding hbinding
  apply (reads_asTry hvalue).bind
  exact fun inner hinner => reads_pure ⟨hinner, hbinding⟩

end Arguments

theorem reads_sequenceParts {sequence : Value} (h : containment.holds world sequence) :
  containment.Reads (sequenceParts sequence) fun p =>
    containment.holds world p.1 ∧ containment.holds world (.function p.2)
  := by
  unfold sequenceParts
  split
  next header base successor =>
    have hmembers : containment.holds world base ∧ containment.holds world successor := by
      simpa using (holds_struct.mp h).2
    apply (reads_asBinding hmembers.2).bind
    exact fun binding hbinding => reads_pure ⟨hmembers.1, hbinding⟩
  next => exact reads_fail (containment.member _ _)
  next => exact reads_mismatch

theorem reads_flatten {items : List Value} (h : ∀ l ∈ items, containment.holds world l) :
  containment.Reads (flatten items) fun items => ∀ i ∈ items, containment.holds world i
  := by
  induction items with
  | nil => exact reads_pure fun _ hi => nomatch hi
  | cons list rest ih =>
    rw [List.forall_mem_cons] at h
    refine (reads_asList h.1).bind fun firsts hfirsts => (ih h.2).bind fun others hothers => ?_
    exact reads_pure (List.forall_mem_append.mpr ⟨hfirsts, hothers⟩)

/-! ### Loops -/

section Loops

variable {ask : Request → Eval Value} (hask : containment.Answers ask) {f : Binding}
  (hf : containment.holds world (.function f)) {items : List Value}

include hask hf

/-- A function of one argument that is applied later on. -/
theorem keeps_applyOne {after : containment.World} (hgrows : containment.grows world after)
    {v : Value} (hv : containment.holds after v) :
  containment.Keeps after (ask (.apply f [v])) containment.holds
  := hask.apply hf hgrows (List.forall_mem_singleton.mpr hv)

theorem keeps_mapItems_apply (h : ∀ i ∈ items, containment.holds world i) :
  containment.Keeps world (mapItems (ask <| .apply f ·) items) fun after items =>
    ∀ i ∈ items, containment.holds after i
  := keeps_mapItems containment.lasting containment.lasting
    (fun _ hgrows _ hv => keeps_applyOne hask hf hgrows hv) h

theorem keeps_flatMapItems_apply (h : ∀ i ∈ items, containment.holds world i) :
  containment.Keeps world (flatMapItems (ask <| .apply f ·) items) fun after items =>
    ∀ i ∈ items, containment.holds after i
  := keeps_flatMapItems containment.lasting containment.lasting
    (fun _ hgrows _ hv => (keeps_applyOne hask hf hgrows hv).bind fun _ _ _ hlist =>
      (reads_asList hlist).keeps_self) h

theorem keeps_filterItems_apply (h : ∀ i ∈ items, containment.holds world i) :
  containment.Keeps world (filterItems (ask <| .apply f ·) items) fun after items =>
    ∀ i ∈ items, containment.holds after i
  := keeps_filterItems containment.lasting
    (fun _ hgrows _ hv => (keeps_applyOne hask hf hgrows hv).bind fun _ _ _ _ =>
      reads_asBoolean.keeps_self) h

theorem keeps_reduceItems_apply {value : Value} (hvalue : containment.holds world value)
    (h : ∀ i ∈ items, containment.holds world i) :
  containment.Keeps world (reduceItems (ask <| .apply f ·) value items) containment.holds
  := keeps_reduceItems containment.lasting
    (fun _ hgrows _ _ hv hw => hask.apply hf hgrows (by simpa using ⟨hv, hw⟩)) hvalue h

theorem keeps_iterate_apply (n : Nat) {value : Value} (hvalue : containment.holds world value) :
  containment.Keeps world (iterate (ask <| .apply f ·) n value) containment.holds
  := keeps_iterate n (fun _ hgrows _ hv => keeps_applyOne hask hf hgrows hv) hvalue

theorem keeps_search_apply {g : Binding} (hg : containment.holds world (.function g)) (fuel : Nat)
    {value : Value} (hvalue : containment.holds world value) :
  containment.Keeps world (search (ask <| .apply f ·) (ask <| .apply g ·) fuel value)
    containment.holds
  := keeps_search fuel containment.lasting
    (fun _ hgrows _ hv => keeps_applyOne hask hf hgrows hv)
    (fun _ hgrows _ hv => (keeps_applyOne hask hg hgrows hv).bind fun _ _ _ _ =>
      reads_asBoolean.keeps_self) hvalue

end Loops

theorem holds_greatest (numbers : List Nat) :
  containment.holds world (.ofOption ((greatest numbers).map .natural))
  := by
  apply holds_ofOption
  intro v hv
  obtain ⟨n, -, rfl⟩ := Option.map_eq_some_iff.mp hv
  exact holds_natural n

/-! ### All native functions -/

/-- Whether a native function has to do with list builders. -/
def isBuilder : NativeFunction → Bool
  | builderCreate | builderAppend | builderAppendAll | builderBuild => true
  | _ => false

/-- Whether a native function calls a function that it is given. -/
def isHigherOrder : NativeFunction → Bool
  | listMap | listFlatMap | listFilter | listReduce => true
  | tryMap | tryFlatMap | sequenceGet | sequenceFirst => true
  | _ => false

/-- A native function that neither has to do with list builders nor calls others reads its
arguments. -/
theorem reads_run (ask : Request → Eval Value) (fuel : Nat) (hbuilder : function.isBuilder = false)
    (hhigher : function.isHigherOrder = false)
    (hcount : function.MayMiscount containment.allows args function.arity)
    (h : ∀ a ∈ args, containment.holds world a) :
  containment.Reads (function.run ask fuel args) fun value => containment.holds world value
  := by
  have hpure := fun {value : Value} => @reads_pure containment _ value (containment.holds world)
  cases function <;> dsimp only [run]
  case booleanAnd | booleanOr => exact (reads_booleans h hcount).bind fun _ _ => hpure (by simp)
  case booleanNot =>
    refine (reads_oneArgument h hcount).bind fun _ _ => ?_
    exact reads_asBoolean.bind fun _ _ => hpure (by simp)
  case dataEquals => exact (reads_twoArguments h hcount).bind fun _ _ => hpure (by simp)
  case integerPlus | integerMinus | integerTimes | integerEquals | integerLessThan |
      integerGreaterThan =>
    exact (reads_integers h hcount).bind fun _ _ => hpure (by simp)
  case integerDividedBy | integerModulo =>
    refine (reads_integers h hcount).bind fun p _ => hpure (holds_ofOption fun v hv => ?_)
    obtain ⟨n, -, rfl⟩ := Option.map_eq_some_iff.mp hv
    exact holds_integer n
  case natural =>
    refine (reads_oneArgument h hcount).bind fun _ _ => ?_
    refine reads_asInteger.bind fun n _ => hpure (holds_ofOption fun v hv => ?_)
    split at hv <;> cases hv
    exact holds_natural _
  case naturalToInteger =>
    refine (reads_oneArgument h hcount).bind fun _ _ => ?_
    exact reads_asNatural.bind fun _ _ => hpure (by simp)
  case naturalPlus | naturalTimes | naturalEquals | naturalLessThan =>
    exact (reads_naturals h hcount).bind fun _ _ => hpure (by simp)
  case naturalDividedBy =>
    refine (reads_naturals h hcount).bind fun p _ => hpure (holds_ofOption fun v hv => ?_)
    split at hv <;> cases hv
    exact holds_natural _
  case naturalMax =>
    refine (reads_oneArgument h hcount).bind fun _ hlist => ?_
    refine (reads_asList hlist).bind fun items _ => ?_
    refine (reads_mapM fun _ _ => reads_asNatural).bind fun numbers _ => ?_
    exact hpure (holds_greatest numbers)
  case listAppend =>
    refine (reads_twoArguments h hcount).bind fun p hp => ?_
    refine (reads_asList hp.1).bind fun items hitems => hpure ?_
    rw [holds_list, List.forall_mem_append, List.forall_mem_singleton]
    exact ⟨hitems, hp.2⟩
  case listAppendFront =>
    refine (reads_twoArguments h hcount).bind fun p hp => ?_
    refine (reads_asList hp.1).bind fun items hitems => hpure ?_
    rw [holds_list, List.forall_mem_cons]
    exact ⟨hp.2, hitems⟩
  case listConcatenate =>
    refine (reads_oneArgument h hcount).bind fun _ hlists => ?_
    refine (reads_asList hlists).bind fun lists hlists => ?_
    exact (reads_flatten hlists).bind fun _ hitems => hpure (holds_list.mpr hitems)
  case listSubList =>
    refine (reads_threeArguments h hcount).bind fun p hp => ?_
    refine (reads_asList hp.1).bind fun items hitems => ?_
    refine reads_asNatural.bind fun start _ => ?_
    refine reads_asNatural.bind fun stop _ => hpure (holds_ofOption fun v hv => ?_)
    obtain ⟨part, hpart, rfl⟩ := Option.map_eq_some_iff.mp hv
    unfold subList? at hpart
    split at hpart <;> cases hpart
    exact holds_list.mpr fun i hi => hitems i (List.mem_of_mem_take (List.mem_of_mem_drop hi))
  case listSize =>
    refine (reads_oneArgument h hcount).bind fun _ hlist => ?_
    exact (reads_asList hlist).bind fun _ _ => hpure (by simp)
  case listGet =>
    refine (reads_twoArguments h hcount).bind fun p hp => ?_
    refine (reads_asList hp.1).bind fun items hitems => ?_
    refine reads_asNatural.bind fun n _ => hpure (holds_ofOption fun v hv => ?_)
    exact hitems v (List.mem_of_getElem? hv)
  case listLast =>
    refine (reads_oneArgument h hcount).bind fun _ hlist => ?_
    refine (reads_asList hlist).bind fun items hitems => ?_
    exact hpure (holds_ofOption fun v hv => hitems v (List.mem_of_getLast? hv))
  case trySuccess =>
    exact (reads_oneArgument h hcount).bind fun _ hv => hpure (holds_success.mpr hv)
  case tryFailure => exact (reads_noArgument hcount).bind fun _ _ => hpure holds_failure
  case tryAssume =>
    refine (reads_oneArgument h hcount).bind fun _ hv => ?_
    refine (reads_asTry hv).bind fun inner hinner => ?_
    split
    · exact hpure (hinner _ rfl)
    · exact reads_fail containment.assumed
  case tryIsSuccess =>
    refine (reads_oneArgument h hcount).bind fun _ hv => ?_
    exact (reads_asTry hv).bind fun _ _ => hpure (by simp)
  case tryOrElse =>
    refine (reads_twoArguments h hcount).bind fun p hp => ?_
    refine (reads_asTry hp.1).bind fun inner hinner => hpure ?_
    cases inner with
    | none => exact hp.2
    | some v => exact hinner v rfl
  case stringLength =>
    refine (reads_oneArgument h hcount).bind fun v _ => ?_
    split
    · exact hpure (by simp)
    · exact reads_mismatch
  case builderCreate | builderAppend | builderAppendAll | builderBuild => cases hbuilder
  all_goals cases hhigher

/-- Native functions keep to every containment, and report a wrong number of arguments only if
they are given one. -/
theorem keeps_run {ask : Request → Eval Value} (hask : containment.Answers ask) (fuel : Nat)
    (hcount : function.MayMiscount containment.allows args function.arity)
    (h : ∀ a ∈ args, containment.holds world a) :
  containment.Keeps world (function.run ask fuel args) containment.holds
  := by
  by_cases hplain : function.isBuilder = false ∧ function.isHigherOrder = false
  · exact (reads_run _ _ hplain.1 hplain.2 hcount h).keeps_self
  have hpure := fun {value : Value} => @Discipline.keeps_pure _ _ world value containment.holds
  cases function
  case listMap =>
    refine (reads_listAndFunction h hcount).keeps fun p hp => ?_
    exact (keeps_mapItems_apply hask hp.2 hp.1).bind fun _ _ _ hitems =>
      Discipline.keeps_pure (holds_list.mpr hitems)
  case listFlatMap =>
    refine (reads_listAndFunction h hcount).keeps fun p hp => ?_
    exact (keeps_flatMapItems_apply hask hp.2 hp.1).bind fun _ _ _ hitems =>
      Discipline.keeps_pure (holds_list.mpr hitems)
  case listFilter =>
    refine (reads_listAndFunction h hcount).keeps fun p hp => ?_
    exact (keeps_filterItems_apply hask hp.2 hp.1).bind fun _ _ _ hitems =>
      Discipline.keeps_pure (holds_list.mpr hitems)
  case listReduce =>
    refine (reads_threeArguments h hcount).keeps fun p hp => ?_
    refine (reads_asBinding hp.2.2).keeps fun f hf => ?_
    refine (reads_asList hp.1).keeps fun items hitems => ?_
    exact keeps_reduceItems_apply hask hf hp.2.1 hitems
  case tryMap =>
    refine (reads_tryAndFunction h hcount).keeps fun p hp => ?_
    split
    next value f =>
      have happly := keeps_applyOne hask hp.2 (containment.refl world) (hp.1 value rfl)
      exact happly.bind fun _ _ _ hv => Discipline.keeps_pure (holds_success.mpr hv)
    next => exact hpure holds_failure
  case tryFlatMap =>
    refine (reads_tryAndFunction h hcount).keeps fun p hp => ?_
    split
    next value f => exact keeps_applyOne hask hp.2 (containment.refl world) (hp.1 value rfl)
    next => exact hpure holds_failure
  case sequenceGet =>
    refine (reads_twoArguments h hcount).keeps fun p hp => ?_
    refine (reads_sequenceParts hp.1).keeps fun parts hparts => ?_
    refine reads_asNatural.keeps fun n _ => ?_
    exact keeps_iterate_apply hask hparts.2 n hparts.1
  case sequenceFirst =>
    refine (reads_twoArguments h hcount).keeps fun p hp => ?_
    refine (reads_sequenceParts hp.1).keeps fun parts hparts => ?_
    refine (reads_asBinding hp.2).keeps fun f hf => ?_
    exact keeps_search_apply hask hparts.2 hf fuel hparts.1
  case builderCreate =>
    refine (reads_noArgument hcount).keeps fun _ _ => ?_
    intro store hfits
    obtain ⟨after, hgrows, hafter, hbuilder⟩ := containment.create hfits
    exact ⟨after, hgrows, hafter, holds_builder.mpr hbuilder⟩
  case builderAppend =>
    refine (reads_twoArguments h hcount).keeps fun p hp => ?_
    refine (reads_asBuilder hp.1).keeps fun number hnumber => ?_
    refine (keeps_append hnumber (List.forall_mem_singleton.mpr hp.2)).bind ?_
    rintro _ _ _ rfl
    exact hpure hp.1
  case builderAppendAll =>
    refine (reads_twoArguments h hcount).keeps fun p hp => ?_
    refine (reads_asList hp.2).keeps fun items hitems => ?_
    refine (reads_asBuilder hp.1).keeps fun number hnumber => (keeps_append hnumber hitems).bind ?_
    rintro _ _ _ rfl
    exact hpure hp.1
  case builderBuild =>
    refine (reads_oneArgument h hcount).keeps fun _ hbuilder => ?_
    refine (reads_asBuilder hbuilder).keeps fun number hnumber => ?_
    intro store hfits
    exact ⟨world, containment.refl world, hfits, holds_list.mpr (containment.items hfits hnumber)⟩
  all_goals exact absurd ⟨rfl, rfl⟩ hplain

end NativeFunction
end TypedModules
