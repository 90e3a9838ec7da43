import Mathlib.Data.List.ReduceOption
import TypedModules.Native.Run
import TypedModules.Proofs.Eval.Keeps
import TypedModules.Proofs.Lists

/-!
# What values contain

Some properties of values are about the closures, the struct values and the list builders in them,
at any depth: a value has such a property if what it is itself is allowed and its parts have it.  A
`Containment` is a discipline of evaluation with a property of this kind, where what a builder holds
has the property as well.  Reading values keeps to it, and so does making values of values.
-/

namespace TypedModules

/-- The values of which a value is made. -/
def Value.parts : Value → List Value
  | .list items => items
  | .success value => [value]
  | .struct _ members => members
  | .object _ methods => methods.map .function
  | .union _ _ payload => payload.toList
  | .function binding => binding.slots.reduceOption
  | _ => []

/-- The closure that a value calls. -/
def Value.closure? : Value → Option Closure
  | .function (.mk (.closure closure) _ _) => some closure
  | _ => none

/-- The header and the members of the struct value that a value is. -/
def Value.struct? : Value → Option (StructHeader × List Value)
  | .struct header members => some (header, members)
  | _ => none

/-- The number of the list builder that a value is. -/
def Value.builder? : Value → Option Nat
  | .builder number => some number
  | _ => none

/-- A discipline in which values have a property: which closures, which struct values and which
builders they may contain.  Reading a value of another kind may end evaluation, and only some
literals are asked for. -/
structure Containment extends Discipline where
  closures : Closure → Prop
  structs : StructHeader → List Value → Prop
  literals : Ty → String → Prop
  builders : World → Nat → Prop
  holds : World → Value → Prop
  holds_iff : ∀ {world value}, holds world value
    ↔ (∀ closure, value.closure? = some closure → closures closure)
      ∧ (∀ header members, value.struct? = some (header, members) → structs header members)
      ∧ (∀ number, value.builder? = some number → builders world number)
      ∧ ∀ part ∈ value.parts, holds world part
  lasting : ∀ {first second}, grows first second → ∀ value, holds first value → holds second value
  /-- A new builder may be contained. -/
  create : ∀ {world store}, fits world store →
    ∃ after, grows world after ∧ fits after store.create ∧ builders after store.next
  /-- A contained builder may be given values with the property. -/
  append : ∀ {world store number items}, fits world store → builders world number →
    (∀ item ∈ items, holds world item) → fits world (store.append number items)
  /-- What a contained builder holds has the property. -/
  items : ∀ {world store number}, fits world store → builders world number →
    ∀ item ∈ store.items number, holds world item
  mismatch : ∀ expected got, allows (.typeMismatch expected got)
  member : ∀ name kind, allows (.undefinedMember name kind)
  assumed : allows .assumedFailure

namespace Containment

variable {containment : Containment} {world : containment.World}

/-! ### Values and their parts -/

/-- A value that is neither made of values nor calls or is anything may always be there. -/
theorem holds_plain {value : Value} (hclosure : value.closure? = none)
    (hstruct : value.struct? = none) (hbuilder : value.builder? = none)
    (hparts : value.parts = []) :
  containment.holds world value
  := by
  rw [holds_iff, hclosure, hstruct, hbuilder, hparts]
  exact ⟨nofun, nofun, nofun, fun _ hpart => nomatch hpart⟩

@[simp]
theorem holds_integer (n : Int) :
  containment.holds world (.integer n)
  := holds_plain rfl rfl rfl rfl

@[simp]
theorem holds_natural (n : Nat) :
  containment.holds world (.natural n)
  := holds_plain rfl rfl rfl rfl

@[simp]
theorem holds_boolean (b : Bool) :
  containment.holds world (.boolean b)
  := holds_plain rfl rfl rfl rfl

@[simp]
theorem holds_string (text : String) :
  containment.holds world (.string text)
  := holds_plain rfl rfl rfl rfl

@[simp]
theorem holds_failure :
  containment.holds world .failure
  := holds_plain rfl rfl rfl rfl

@[simp]
theorem holds_list {items : List Value} :
  containment.holds world (.list items) ↔ ∀ item ∈ items, containment.holds world item
  := by
  rw [holds_iff]
  simp [Value.closure?, Value.struct?, Value.builder?, Value.parts]

@[simp]
theorem holds_success {value : Value} :
  containment.holds world (.success value) ↔ containment.holds world value
  := by
  rw [holds_iff]
  simp [Value.closure?, Value.struct?, Value.builder?, Value.parts]

@[simp]
theorem holds_struct {header : StructHeader} {members : List Value} :
  containment.holds world (.struct header members)
    ↔ containment.structs header members ∧ ∀ member ∈ members, containment.holds world member
  := by
  rw [holds_iff]
  simp [Value.closure?, Value.struct?, Value.builder?, Value.parts]

@[simp]
theorem holds_object {interface : Interface} {methods : List Binding} :
  containment.holds world (.object interface methods)
    ↔ ∀ method ∈ methods, containment.holds world (.function method)
  := by
  rw [holds_iff]
  simp [Value.closure?, Value.struct?, Value.builder?, Value.parts]

@[simp]
theorem holds_union {union : Union} {option : Nat} {payload : Option Value} :
  containment.holds world (.union union option payload)
    ↔ ∀ value, payload = some value → containment.holds world value
  := by
  rw [holds_iff]
  simp [Value.closure?, Value.struct?, Value.builder?, Value.parts]

@[simp]
theorem holds_builder {number : Nat} :
  containment.holds world (.builder number) ↔ containment.builders world number
  := by
  rw [holds_iff]
  simp [Value.closure?, Value.struct?, Value.builder?, Value.parts]

/-- Whether the closure that a target is, if it is one, may be contained. -/
def Calls (containment : Containment) (target : Target) : Prop :=
  ∀ closure, target = .closure closure → containment.closures closure

theorem holds_function {binding : Binding} :
  containment.holds world (.function binding)
    ↔ containment.Calls binding.target
      ∧ ∀ value, some value ∈ binding.slots → containment.holds world value
  := by
  obtain ⟨target, slots, chosen⟩ := binding
  rw [holds_iff]
  cases target <;>
    simp [Value.closure?, Value.struct?, Value.builder?, Value.parts, Calls, Binding.target,
      Binding.slots, List.reduceOption_mem_iff]

theorem holds_ofOption {value : Option Value} (h : ∀ v, value = some v → containment.holds world v) :
  containment.holds world (.ofOption value)
  := by
  cases value with
  | none => exact holds_failure
  | some v => exact holds_success.mpr (h v rfl)

theorem lasting_all {later : containment.World} (hgrows : containment.grows world later)
    {values : List Value} (h : ∀ value ∈ values, containment.holds world value) :
  ∀ value ∈ values, containment.holds later value
  := fun value hvalue => containment.lasting hgrows value (h value hvalue)

/-! ### Reading -/

/-- Whether an evaluation reads no more than its values: it has a wanted result or ends with an
allowed cause, whatever the store holds, and leaves the store as it is. -/
def Reads {α : Type} (containment : Containment) (run : Eval α) (wanted : α → Prop) : Prop :=
  (∃ a, run = pure a ∧ wanted a) ∨ ∃ cause, run = .fail cause ∧ containment.allows cause

section Reads

variable {α β : Type}

theorem reads_pure {a : α} {wanted : α → Prop} (h : wanted a) :
  containment.Reads (pure a) wanted
  := .inl ⟨a, rfl, h⟩

theorem reads_fail {cause : EvalCause} {wanted : α → Prop} (h : containment.allows cause) :
  containment.Reads (.fail cause : Eval α) wanted
  := .inr ⟨cause, rfl, h⟩

theorem fail_bind (cause : EvalCause) (next : α → Eval β) :
  (.fail cause >>= next) = (.fail cause : Eval β)
  := rfl

/-- What follows a reading stands in the same world. -/
theorem Reads.keeps {run : Eval α} {next : α → Eval β} {between : α → Prop}
    {wanted : containment.World → β → Prop} (h : containment.Reads run between)
    (hnext : ∀ a, between a → containment.Keeps world (next a) wanted) :
  containment.Keeps world (run >>= next) wanted
  := by
  obtain ⟨a, rfl, ha⟩ | ⟨cause, rfl, hcause⟩ := h
  · rw [pure_bind]
    exact hnext a ha
  · rw [fail_bind]
    exact Discipline.keeps_fail hcause

theorem Reads.keepsAt {run : Eval α} {next : α → Eval β} {store : Store} {between : α → Prop}
    {wanted : containment.World → β → Prop} (h : containment.Reads run between)
    (hfits : containment.fits world store)
    (hnext : ∀ a, between a → containment.KeepsAt world store (next a) wanted) :
  containment.KeepsAt world store (run >>= next) wanted
  := by
  obtain ⟨a, rfl, ha⟩ | ⟨cause, rfl, hcause⟩ := h
  · rw [pure_bind]
    exact hnext a ha
  · rw [fail_bind]
    exact (Discipline.keeps_fail hcause).at hfits

theorem Reads.bind {run : Eval α} {next : α → Eval β} {between : α → Prop} {wanted : β → Prop}
    (h : containment.Reads run between)
    (hnext : ∀ a, between a → containment.Reads (next a) wanted) :
  containment.Reads (run >>= next) wanted
  := by
  obtain ⟨a, rfl, ha⟩ | ⟨cause, rfl, hcause⟩ := h
  · rw [pure_bind]
    exact hnext a ha
  · rw [fail_bind]
    exact reads_fail hcause

/-- A reading by itself keeps to the discipline. -/
theorem Reads.keeps_self {run : Eval α} {wanted : containment.World → α → Prop}
    (h : containment.Reads run (wanted world)) :
  containment.Keeps world run wanted
  := by
  obtain ⟨a, rfl, ha⟩ | ⟨cause, rfl, hcause⟩ := h
  · exact Discipline.keeps_pure ha
  · exact Discipline.keeps_fail hcause

theorem reads_checkArity {name : String} {expected got : Nat}
    (h : expected ≠ got → containment.allows (.arityMismatch name expected got)) :
  containment.Reads (.checkArity name expected got) fun _ => expected = got
  := by
  unfold Eval.checkArity
  split
  next e => exact reads_pure e
  next hne => exact reads_fail (h hne)

theorem reads_mapM {run : α → Eval β} {items : List α} {wanted : β → Prop}
    (h : ∀ item ∈ items, containment.Reads (run item) wanted) :
  containment.Reads (items.mapM run) fun results => ∀ result ∈ results, wanted result
  := by
  induction items with
  | nil => exact reads_pure fun _ hresult => nomatch hresult
  | cons item rest ih =>
    rw [List.forall_mem_cons] at h
    rw [List.mapM_cons]
    refine h.1.bind fun first hfirst => (ih h.2).bind fun others hothers => ?_
    exact reads_pure (List.forall_mem_cons.mpr ⟨hfirst, hothers⟩)

end Reads

section Values

variable {value : Value}

theorem reads_mismatch {α : Type} {expected : String} {wanted : α → Prop} :
  containment.Reads (value.mismatch expected) wanted
  := reads_fail (containment.mismatch _ _)

theorem reads_asInteger :
  containment.Reads value.asInteger fun _ => True
  := by
  cases value
  case integer => exact reads_pure trivial
  all_goals exact reads_mismatch

theorem reads_asNatural :
  containment.Reads value.asNatural fun _ => True
  := by
  cases value
  case natural => exact reads_pure trivial
  all_goals exact reads_mismatch

theorem reads_asBoolean :
  containment.Reads value.asBoolean fun _ => True
  := by
  cases value
  case boolean => exact reads_pure trivial
  all_goals exact reads_mismatch

theorem reads_asBuilder (h : containment.holds world value) :
  containment.Reads value.asBuilder fun number => containment.builders world number
  := by
  cases value
  case builder => exact reads_pure (holds_builder.mp h)
  all_goals exact reads_mismatch

theorem reads_asList (h : containment.holds world value) :
  containment.Reads value.asList fun items => ∀ item ∈ items, containment.holds world item
  := by
  cases value
  case list => exact reads_pure (holds_list.mp h)
  all_goals exact reads_mismatch

theorem reads_asTry (h : containment.holds world value) :
  containment.Reads value.asTry fun inner => ∀ v, inner = some v → containment.holds world v
  := by
  cases value
  case success v => exact reads_pure fun _ e => Option.some.inj e ▸ holds_success.mp h
  case failure => exact reads_pure nofun
  all_goals exact reads_mismatch

theorem reads_asBinding (h : containment.holds world value) :
  containment.Reads value.asBinding fun binding => containment.holds world (.function binding)
  := by
  cases value
  case function => exact reads_pure h
  all_goals exact reads_mismatch

end Values

/-! ### Builders -/

theorem keeps_append {number : Nat} {items : List Value} (hnumber : containment.builders world number)
    (h : ∀ item ∈ items, containment.holds world item) :
  containment.Keeps world (modify (·.append number items) : Eval PUnit) fun after _ => after = world
  := Discipline.keeps_modify fun _ hfits =>
    ⟨world, containment.refl world, containment.append hfits hnumber h, rfl⟩

/-! ### Requests -/

/-- Whether what is asked for has the property. -/
def Asked (containment : Containment) (world : containment.World) : Request → Prop
  | .call _ args => ∀ arg ∈ args, containment.holds world arg
  | .apply binding args => containment.holds world (.function binding)
      ∧ ∀ arg ∈ args, containment.holds world arg
  | .literal type text => containment.literals type text

/-- Whether any text may be asked for as a literal, and evaluation may end because it is none. -/
structure Lenient (containment : Containment) : Prop where
  literals : ∀ type text, containment.literals type text
  invalid : ∀ literal type reason, containment.allows (.invalidLiteral literal type reason)

/-- Whether what is asked for with the property is answered with it. -/
def Answers (containment : Containment) (ask : Request → Eval Value) : Prop :=
  ∀ world request, containment.Asked world request →
    containment.Keeps world (ask request) containment.holds

theorem Answers.apply {ask : Request → Eval Value} (h : containment.Answers ask) {f : Binding}
    (hf : containment.holds world (.function f)) {after : containment.World}
    (hgrows : containment.grows world after) {args : List Value}
    (hargs : ∀ arg ∈ args, containment.holds after arg) :
  containment.Keeps after (ask (.apply f args)) containment.holds
  := h after (.apply f args) ⟨containment.lasting hgrows _ hf, hargs⟩

end Containment
end TypedModules
