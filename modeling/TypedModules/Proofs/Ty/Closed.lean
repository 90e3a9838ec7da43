import TypedModules.Proofs.Lists
import TypedModules.Proofs.Ty.Inferred

/-!
# Closed types

A type is closed if each internal parameter in it belongs to one of its own function types, that
is, if none points past the function types of the type around it.  Only values of a closed type
can be bound before the parameters around it are chosen, and the closed types are those that no
choice changes: `bindable_iff_closed`.

A parameter that points past a function type need not be one of that function type's own: where
the function type itself stands in another, it may belong to that one.  Such an argument is not
bindable either, since a choice numbers its parameter anew (`outer_argument`).
-/

namespace TypedModules

open Ty

namespace Ty

/-- Whether the internal parameter `index` stands in a type, inside function types of the type
that have `around` parameters together. -/
inductive Occurs (index : Nat) : (around : Nat) → Ty → Prop
  | internal : Occurs index 0 (.internal index)
  | list {around : Nat} {element : Ty} :
    Occurs index around element →
    Occurs index around (.list element)
  | tryOf {around : Nat} {inner : Ty} :
    Occurs index around inner →
    Occurs index around (.tryOf inner)
  | arg {around : Nat} {isReference : Bool} {typeParams : List TypeParam} {args : List Ty}
      {output arg : Ty} :
    arg ∈ args →
    Occurs index around arg →
    Occurs index (around + typeParams.length) (.function isReference typeParams args output)
  | output {around : Nat} {isReference : Bool} {typeParams : List TypeParam} {args : List Ty}
      {output : Ty} :
    Occurs index around output →
    Occurs index (around + typeParams.length) (.function isReference typeParams args output)
  | param {around : Nat} {isReference : Bool} {entity : Entity} {written : Reference}
      {params : List Ty} {param : Ty} :
    param ∈ params →
    Occurs index around param →
    Occurs index around (.named isReference entity written params)

/-! ### Parameters that point past a type -/

section Occurs

variable {index around : Nat}

theorem occurs_list {element : Ty} :
  Occurs index around (.list element) ↔ Occurs index around element
  := by
  constructor
  · rintro ⟨⟩
    assumption
  · exact .list

theorem occurs_tryOf {inner : Ty} :
  Occurs index around (.tryOf inner) ↔ Occurs index around inner
  := by
  constructor
  · rintro ⟨⟩
    assumption
  · exact .tryOf

theorem occurs_named {isReference : Bool} {entity : Entity} {written : Reference}
    {params : List Ty} :
  Occurs index around (.named isReference entity written params)
    ↔ ∃ param ∈ params, Occurs index around param
  := by
  constructor
  · rintro ⟨⟩
    exact ⟨_, ‹_›, ‹_›⟩
  · rintro ⟨param, hparam, h⟩
    exact .param hparam h

theorem occurs_function {isReference : Bool} {typeParams : List TypeParam} {args : List Ty}
    {output : Ty} :
  Occurs index around (.function isReference typeParams args output)
    ↔ ∃ inner, around = inner + typeParams.length
      ∧ ((∃ arg ∈ args, Occurs index inner arg) ∨ Occurs index inner output)
  := by
  constructor
  · intro h
    cases h with
    | arg harg h => exact ⟨_, rfl, .inl ⟨_, harg, h⟩⟩
    | output h => exact ⟨_, rfl, .inr h⟩
  · rintro ⟨inner, rfl, ⟨arg, harg, h⟩ | h⟩
    · exact .arg harg h
    · exact .output h

/-- A type mentions the parameters around it that point past it. -/
theorem mentions_iff {number : Nat} {type : Ty} :
  type.mentions number = true ↔ ∃ around, type.Occurs (around + number) around
  := by
  induction type using type_induction generalizing number with
  | integer | natural | boolean | param =>
    simp only [mentions, Bool.false_eq_true, false_iff]
    rintro ⟨around, ⟨⟩⟩
  | list element ih => simp only [mentions, ih, occurs_list]
  | tryOf inner ih => simp only [mentions, ih, occurs_tryOf]
  | function isReference typeParams args output ihArgs ihOutput =>
    simp only [mentions, anyMentions_eq_any, Bool.or_eq_true, List.any_eq_true, ihOutput,
      occurs_function]
    constructor
    · rintro (⟨arg, harg, h⟩ | ⟨inner, h⟩)
      · obtain ⟨inner, h⟩ := (ihArgs arg harg).mp h
        exact ⟨_, inner, rfl, .inl ⟨arg, harg, by rwa [Nat.add_assoc, Nat.add_comm _ number]⟩⟩
      · exact ⟨_, inner, rfl, .inr (by rwa [Nat.add_assoc, Nat.add_comm _ number])⟩
    · rintro ⟨_, inner, rfl, ⟨arg, harg, h⟩ | h⟩
      · rw [Nat.add_assoc, Nat.add_comm _ number] at h
        exact .inl ⟨arg, harg, (ihArgs arg harg).mpr ⟨inner, h⟩⟩
      · rw [Nat.add_assoc, Nat.add_comm _ number] at h
        exact .inr ⟨inner, h⟩
  | named isReference entity written params ih =>
    simp only [mentions, anyMentions_eq_any, List.any_eq_true, occurs_named]
    constructor
    · rintro ⟨param, hparam, h⟩
      obtain ⟨around, h⟩ := (ih param hparam).mp h
      exact ⟨around, param, hparam, h⟩
    · rintro ⟨around, param, hparam, h⟩
      exact ⟨param, hparam, (ih param hparam).mpr ⟨around, h⟩⟩
  | internal i =>
    simp only [mentions, beq_iff_eq]
    constructor
    · rintro rfl
      refine ⟨0, ?_⟩
      rw [Nat.zero_add]
      exact .internal
    · rintro ⟨around, h⟩
      cases h with
      | internal => exact Nat.zero_add number

/-- A type is closed within the parameters around it if it mentions no others. -/
theorem isClosedWithin_iff_mentions {allowed : Nat} {type : Ty} :
  type.isClosedWithin allowed = true ↔ ∀ number, type.mentions number = true → number < allowed
  := by
  induction type using type_induction generalizing allowed with
  | integer | natural | boolean | param => simp [isClosedWithin, mentions]
  | list element ih | tryOf element ih => simp only [isClosedWithin, mentions, ih]
  | function isReference typeParams args output ihArgs ihOutput =>
    simp only [isClosedWithin, mentions, areClosedWithin_eq_all, anyMentions_eq_any,
      Bool.and_eq_true, Bool.or_eq_true, List.all_eq_true, List.any_eq_true, ihOutput]
    constructor
    · rintro ⟨hargs, houtput⟩ number (⟨arg, harg, h⟩ | h)
      · have := (ihArgs arg harg).mp (hargs arg harg) _ h
        omega
      · have := houtput _ h
        omega
    · intro h
      -- What is numbered below the function type's own parameters is one of them.
      have hinner {type : Ty} (hpast : ∀ number, type.mentions (number + typeParams.length) = true →
          number < allowed) (number : Nat) (hnumber : type.mentions number = true) :
          number < allowed + typeParams.length := by
        by_cases hown : number < typeParams.length
        · omega
        · have := hpast (number - typeParams.length)
            (by rwa [Nat.sub_add_cancel (Nat.not_lt.mp hown)])
          omega
      exact ⟨fun arg harg => (ihArgs arg harg).mpr
          (hinner fun number hnumber => h number (.inl ⟨arg, harg, hnumber⟩)),
        hinner fun number hnumber => h number (.inr hnumber)⟩
  | named isReference entity written params ih =>
    simp only [isClosedWithin, mentions, areClosedWithin_eq_all, anyMentions_eq_any,
      List.all_eq_true, List.any_eq_true]
    constructor
    · rintro h number ⟨param, hparam, hnumber⟩
      exact (ih param hparam).mp (h param hparam) number hnumber
    · intro h param hparam
      exact (ih param hparam).mpr fun number hnumber => h number ⟨param, hparam, hnumber⟩
  | internal index => simp [isClosedWithin, mentions]

end Occurs

/-! ### Types that no choice changes -/

/-- A type that no choice for parameters changes, those numbered below `offset` being left open,
is closed within `offset` parameters. -/
theorem isClosedWithin_of_instantiate_eq {type : Ty} {offset : Nat}
    (h : ∀ chosen, type.instantiate (List.replicate offset none ++ chosen) = type) :
  type.isClosedWithin offset = true
  := by
  induction type using type_induction generalizing offset with
  | integer | natural | boolean | param => rfl
  | list element ih | tryOf element ih =>
    apply ih
    intro chosen
    simpa only [instantiate, list.injEq, tryOf.injEq] using h chosen
  | function isReference typeParams args output ihArgs ihOutput =>
    simp only [instantiate, instantiateAll_eq_map, map_none_append_replicate, function.injEq,
      true_and, map_eq_self_iff] at h
    simp only [isClosedWithin, areClosedWithin_eq_all, Bool.and_eq_true, List.all_eq_true]
    exact ⟨fun arg harg => ihArgs arg harg fun chosen => (h chosen).1 arg harg,
      ihOutput fun chosen => (h chosen).2⟩
  | named isReference entity written params ih =>
    simp only [instantiate, instantiateAll_eq_map, named.injEq, true_and,
      map_eq_self_iff] at h
    simp only [isClosedWithin, areClosedWithin_eq_all, List.all_eq_true]
    exact fun param hparam => ih param hparam fun chosen => h chosen param hparam
  | internal index =>
    simp only [isClosedWithin, decide_eq_true_eq]
    by_contra hpast
    -- Choosing the parameter itself puts a type in its place that is no parameter.
    have hchoice := h (List.replicate (index - offset) none ++ [some .integer])
    rw [← List.append_assoc, List.replicate_append_replicate,
      Nat.add_sub_cancel' (Nat.not_lt.mp hpast)] at hchoice
    simp [instantiate, instantiateIndex] at hchoice

/-- A type is closed if and only if no choice changes it. -/
theorem isBindable_iff_instantiate_eq {type : Ty} :
  type.isBindable = true ↔ ∀ chosen, type.instantiate chosen = type
  := by
  constructor
  · intro h chosen
    exact (formed_all_iff.mpr h).instantiate_eq chosen
  · intro h
    exact @isClosedWithin_of_instantiate_eq type 0 h

/-- A type is closed if and only if none of its internal parameters points past the function
types around it. -/
theorem isBindable_iff_occurs {type : Ty} :
  type.isBindable = true ↔ ∀ index around, type.Occurs index around → index < around
  := by
  rw [isBindable, isClosedWithin_iff_mentions]
  constructor
  · intro h index around hoccurs
    by_contra hpast
    rw [← Nat.add_sub_cancel' (Nat.not_lt.mp hpast)] at hoccurs
    exact Nat.not_lt_zero _ (h _ (mentions_iff.mpr ⟨around, hoccurs⟩))
  · intro h number hnumber
    obtain ⟨around, hoccurs⟩ := mentions_iff.mp hnumber
    have := h _ _ hoccurs
    omega

end Ty

/-! ### Arguments that can be bound -/

/-- What the entry for an argument of a function type with parameters of its own tells. -/
structure FunctionType.BindableEntry (function : FunctionType) (arg : Ty) (entry : Option Ty) :
    Prop where
  /-- It is there if the argument mentions no parameter, be it the function type's own or one
  around it. -/
  isSome_iff : entry.isSome = true ↔ ∀ number, arg.mentions number = false
  /-- Where the function type is closed, its own parameters are all there are to mention. -/
  isSome_iff_own : function.toTy.isBindable = true →
    (entry.isSome = true ↔ ∀ number < function.typeParams.length, arg.mentions number = false)
  /-- It is the argument itself, which no choice changes. -/
  unchanged : ∀ bound, entry = some bound → bound = arg ∧ ∀ chosen, arg.instantiate chosen = arg

theorem isBindable_iff_mentions {type : Ty} :
  type.isBindable = true ↔ ∀ number, type.mentions number = false
  := by
  simp [isBindable, isClosedWithin_iff_mentions]

/-- The arguments of a closed function type mention only its own parameters. -/
theorem isClosedWithin_arg {function : FunctionType} {arg : Ty}
    (h : function.toTy.isBindable = true) (harg : arg ∈ function.args) :
  arg.isClosedWithin function.typeParams.length = true
  := by
  simp only [FunctionType.toTy, isBindable, isClosedWithin, areClosedWithin_eq_all,
    Nat.zero_add, Bool.and_eq_true, List.all_eq_true] at h
  exact h.1 arg harg

theorem bindableArgs_of_not_ground {function : FunctionType} (h : function.isGround = false) :
  function.bindableArgs
    = function.args.map fun type => if type.isBindable then some type else none
  := by
  rw [FunctionType.bindableArgs, h, if_neg Bool.false_ne_true]

/-- A type is bindable if and only if each internal parameter in it is one of the function types
around it, and if and only if no choice changes it.  The arguments of a function type with
parameters of its own have entries if they are bindable themselves. -/
theorem bindable_iff_closed (type : Ty) :
  (type.isBindable = true ↔ ∀ index around, type.Occurs index around → index < around)
    ∧ (type.isBindable = true ↔ ∀ chosen, type.instantiate chosen = type)
    ∧ ∀ function : FunctionType, function.isGround = false →
      List.Forall₂ function.BindableEntry function.args function.bindableArgs
  := by
  refine ⟨isBindable_iff_occurs, isBindable_iff_instantiate_eq, fun function hground => ?_⟩
  rw [bindableArgs_of_not_ground hground, List.forall₂_map_right_iff, List.forall₂_same]
  intro arg harg
  have hsome : (if arg.isBindable then some arg else none).isSome = true
      ↔ ∀ number, arg.mentions number = false := by
    rw [← isBindable_iff_mentions]
    split <;> simp_all
  refine ⟨hsome, fun hclosed => ?_, fun bound hbound => ?_⟩
  · have hown := isClosedWithin_iff_mentions.mp (isClosedWithin_arg hclosed harg)
    rw [hsome]
    refine ⟨fun h number _ => h number, fun h number => ?_⟩
    by_contra hmentions
    rw [Bool.not_eq_false] at hmentions
    exact absurd (h number (hown number hmentions)) (by simp [hmentions])
  · obtain ⟨hbindable, ⟨⟩⟩ := Option.ite_none_right_eq_some.mp hbound
    exact ⟨rfl, isBindable_iff_instantiate_eq.mp hbindable⟩

/-- Of the arguments of `<T>(T, Integer, <U>(U) -> T, <U>(U) -> Integer) -> T`, the second and the
fourth can be bound. -/
theorem bindable_generic :
  let open' := Ty.function false [⟨"U", none⟩] [.internal 0] (.internal 1)
  let closed := Ty.function false [⟨"U", none⟩] [.internal 0] .integer
  let generic : FunctionType :=
    ⟨false, [⟨"T", none⟩], [.internal 0, .integer, open', closed], .internal 0⟩
  generic.isGround = false
    ∧ generic.bindableArgs = [none, some .integer, none, some closed]
    ∧ List.Forall₂ generic.BindableEntry generic.args generic.bindableArgs
  := ⟨rfl, rfl, (bindable_iff_closed .integer).2.2 _ rfl⟩

/-- Within a function type around it, `<T>(U) -> Integer` may have an argument that mentions none
of its own parameters.  The argument has no entry, and a choice for `T` numbers its parameter
anew. -/
theorem outer_argument :
  let function : FunctionType := ⟨false, [⟨"T", none⟩], [.internal 1], .integer⟩
  ¬ List.Forall₂
      (fun arg entry => entry.isSome = true
        ↔ ∀ number < function.typeParams.length, arg.mentions number = false)
      function.args function.bindableArgs
    ∧ function.bindableArgs = [none]
    ∧ function.args.map (Ty.instantiate [some .integer]) = [.internal 0]
  := by
  refine ⟨fun h => ?_, rfl, rfl⟩
  obtain ⟨hentry, -⟩ := List.forall₂_cons.mp h
  exact absurd (hentry.mpr (by decide)) (by decide)

end TypedModules
