import TypedModules.Proofs.Eval.Dispatch
import TypedModules.Proofs.Value.Slots

/-!
# Filling a binding in stages

The open slots of a binding may be filled some first and others later.  A stage numbers the slots
that those before it leave open, so that a slot has another number in each stage until it receives a
value.  Any number of stages comes to one, in which every slot receives what it receives in any of
them, and to apply what they leave to the remaining values comes to applying the binding to all of
them: `fill_in_stages`.
-/

namespace TypedModules
namespace Binding

/-! ### What a slot receives -/

/-- Whether each stage has an entry for every slot that is open before it, where `count` slots are
open before the first. -/
def StagesFit : (count : Nat) → List (List (Option Value)) → Prop
  | _, [] => True
  | count, stage :: later => stage.length = count ∧ StagesFit (stage.countP (·.isNone)) later

/-- What a slot receives that has the number `index` in a stage: what the stage has for it, or what
it receives `otherwise`, with its number among the slots that the stage leaves open. -/
def receivedOr (stage : List (Option Value)) (otherwise : Nat → Option Value) (index : Nat) :
    Option Value :=
  match stage[index]? with
  | some (some value) => some value
  | _ => otherwise ((stage.take index).countP (·.isNone))

/-- What the slot with the number `index` in the first stage receives in one of the stages. -/
def received : List (List (Option Value)) → (index : Nat) → Option Value
  | [] => fun _ => none
  | stage :: later => receivedOr stage (received later)

/-- What the slots receive in a stage and after it is the stage with what is received after it in
its open entries. -/
theorem map_receivedOr (stage : List (Option Value)) (otherwise : Nat → Option Value) :
  (List.range stage.length).map (receivedOr stage otherwise)
    = fillSlots stage ((List.range (stage.countP (·.isNone))).map otherwise)
  := by
  induction stage generalizing otherwise with
  | nil => rfl
  | cons entry stage ih =>
    cases entry with
    | some value =>
      have hnext : ∀ index, receivedOr (some value :: stage) otherwise (index + 1)
          = receivedOr stage otherwise index := by
        intro index
        simp [receivedOr]
      have hcount : (some value :: stage).countP (·.isNone) = stage.countP (·.isNone) := by
        simp
      rw [List.length_cons, List.range_succ_eq_map, List.map_cons, List.map_map, hcount, fillSlots,
        ← ih otherwise]
      simp only [Function.comp_def, Nat.succ_eq_add_one, hnext]
      rfl
    | none =>
      have hnext : ∀ index, receivedOr (none :: stage) otherwise (index + 1)
          = receivedOr stage (fun number => otherwise (number + 1)) index := by
        intro index
        simp [receivedOr]
      have hcount : ((none : Option Value) :: stage).countP (·.isNone)
          = stage.countP (·.isNone) + 1 := by
        simp
      rw [List.length_cons, List.range_succ_eq_map, List.map_cons, List.map_map, hcount,
        List.range_succ_eq_map, List.map_cons, List.map_map, fillSlots]
      simp only [Function.comp_def, Nat.succ_eq_add_one, hnext, ih]
      rfl

/-! ### One stage -/

variable {binding filled staged : Binding} {values : List (Option Value)}
  {stages : List (List (Option Value))}

theorem fill?_eq_some :
  binding.fill? values = some filled
    ↔ values.length = binding.openSlots
      ∧ mk binding.target (fillSlots binding.slots values) binding.chosen = filled
  := by
  unfold fill?
  split
  next h => simp [h]
  next h => simp [h]

/-- A slot that holds a value keeps it. -/
theorem getElem?_fillSlots_some {slots : List (Option Value)} {index : Nat} {value : Value}
    (h : slots[index]? = some (some value)) (values : List (Option Value)) :
  (fillSlots slots values)[index]? = some (some value)
  := by
  induction slots, values using fillSlots.induct generalizing index with
  | case1 values => simp at h
  | case2 first slots values ih =>
    cases index with
    | zero => exact h
    | succ index => exact ih h
  | case3 slots first values ih =>
    cases index with
    | zero => simp at h
    | succ index => exact ih h
  | case4 slots ih =>
    cases index with
    | zero => simp at h
    | succ index => exact ih h

/-- As many slots stay open as the values supplied are fewer than those open before. -/
theorem openSlots_fill? (h : binding.fill? values = some filled) :
  filled.openSlots + values.countP (·.isSome) = binding.openSlots
  := by
  obtain ⟨hcount, rfl⟩ := fill?_eq_some.mp h
  have hsupplied : values.length = values.countP (·.isNone) + values.countP (·.isSome) := by
    have hrest : values.countP (·.isSome) = values.countP (fun entry => decide ¬entry.isNone) :=
      List.countP_congr fun entry _ => by cases entry <;> simp
    rw [hrest]
    exact List.length_eq_countP_add_countP Option.isNone
  show (fillSlots binding.slots values).countP (·.isNone) + _ = _
  rw [countP_fillSlots hcount, ← hcount, hsupplied]

/-! ### Several stages -/

/-- Stages succeed exactly if each of them fits, and then they fill each slot with what it
receives. -/
theorem foldlM_fill?_eq_some :
  stages.foldlM fill? binding = some staged
    ↔ StagesFit binding.openSlots stages
      ∧ mk binding.target
          (fillSlots binding.slots ((List.range binding.openSlots).map (received stages)))
          binding.chosen = staged
  := by
  induction stages generalizing binding with
  | nil =>
    have hopen : (List.range binding.openSlots).map (received [])
        = List.replicate binding.openSlots none := by
      simp [received]
    have hslots : fillSlots binding.slots (List.replicate binding.openSlots none)
        = binding.slots := fillSlots_open binding.slots
    rw [hopen, hslots]
    cases binding
    simp [StagesFit, Binding.target, Binding.slots, Binding.chosen]
  | cons stage later ih =>
    have hreceived : stage.length = binding.openSlots →
        (List.range binding.openSlots).map (received (stage :: later))
          = fillSlots stage ((List.range (stage.countP (·.isNone))).map (received later)) := by
      intro hcount
      rw [← hcount]
      exact map_receivedOr stage (received later)
    have hopen : stage.length = binding.openSlots →
        (mk binding.target (fillSlots binding.slots stage) binding.chosen).openSlots
          = stage.countP (·.isNone) := countP_fillSlots
    rw [List.foldlM_cons, Option.bind_eq_bind, Option.bind_eq_some_iff]
    constructor
    · rintro ⟨filled, hfill, hlater⟩
      obtain ⟨hcount, rfl⟩ := fill?_eq_some.mp hfill
      obtain ⟨hfit, rfl⟩ := ih.mp hlater
      rw [hopen hcount] at hfit ⊢
      rw [hreceived hcount, ← fillSlots_fillSlots hcount]
      exact ⟨⟨hcount, hfit⟩, rfl⟩
    · rintro ⟨⟨hcount, hfit⟩, rfl⟩
      refine ⟨_, fill?_eq_some.mpr ⟨hcount, rfl⟩, ih.mpr ?_⟩
      rw [hopen hcount, hreceived hcount, ← fillSlots_fillSlots hcount]
      exact ⟨hfit, rfl⟩

/-- In several stages as many slots are filled as values are supplied. -/
theorem openSlots_foldlM_fill? (h : stages.foldlM fill? binding = some staged) :
  staged.openSlots + stages.flatten.countP (·.isSome) = binding.openSlots
  := by
  induction stages generalizing binding with
  | nil =>
    cases h
    rfl
  | cons stage later ih =>
    rw [List.foldlM_cons, Option.bind_eq_bind, Option.bind_eq_some_iff] at h
    obtain ⟨filled, hfill, hlater⟩ := h
    have hfirst := openSlots_fill? hfill
    have hrest := ih hlater
    rw [List.flatten_cons, List.countP_append]
    omega

/-- What slots receive in stages is all there is if a value for each slot that is open after them is
supplied at the end. -/
theorem exists_received (h : stages.foldlM fill? binding = some staged) {rest : List Value}
    (hrest : rest.length = staged.openSlots) :
  ∃ values all : List Value,
    (List.range binding.openSlots).map (received (stages ++ [rest.map some])) = all.map some
      ∧ all.length = binding.openSlots
      ∧ fillSlots staged.slots (rest.map some) = values.map some
      ∧ fillSlots binding.slots (all.map some) = values.map some
  := by
  obtain ⟨values, hvalues⟩ : ∃ values : List Value,
      fillSlots staged.slots (rest.map some) = values.map some := exists_fillSlots hrest
  have hlast : (stages ++ [rest.map some]).foldlM fill? binding
      = some (mk staged.target (values.map some) staged.chosen) := by
    rw [List.foldlM_append, h]
    show [rest.map some].foldlM fill? staged = _
    rw [← hvalues]
    simpa using fill?_eq_some.mpr ⟨by simpa using hrest, rfl⟩
  obtain ⟨-, heq⟩ := foldlM_fill?_eq_some.mp hlast
  have hslots : fillSlots binding.slots
      ((List.range binding.openSlots).map (received (stages ++ [rest.map some])))
      = values.map some := congrArg Binding.slots heq
  have hcount : ((List.range binding.openSlots).map
      (received (stages ++ [rest.map some]))).length = binding.slots.countP (·.isNone) := by
    rw [List.length_map, List.length_range]
    rfl
  have hnone : ((List.range binding.openSlots).map
      (received (stages ++ [rest.map some]))).countP (·.isNone) = 0 := by
    rw [← countP_fillSlots hcount, hslots]
    simp
  obtain ⟨all, hall⟩ := exists_map_some hnone
  rw [hall] at hslots
  exact ⟨values, all, hall, by simpa using congrArg List.length hall.symm, hvalues, hslots⟩

/-- To apply a binding filled in stages to values for the slots open after them is to apply the
binding to all that its slots receive. -/
theorem apply_foldlM_fill? (h : stages.foldlM fill? binding = some staged) {rest : List Value}
    (hrest : rest.length = staged.openSlots) :
  ∃ all : List Value,
    (List.range binding.openSlots).map (received (stages ++ [rest.map some])) = all.map some
      ∧ ∀ (program : Program) (fuel : Nat),
          program.apply fuel staged rest = program.apply fuel binding all
  := by
  obtain ⟨values, all, hreceived, hall, hstaged, hslots⟩ := exists_received h hrest
  have htarget : staged.target = binding.target := by
    obtain ⟨-, rfl⟩ := foldlM_fill?_eq_some.mp h
    rfl
  refine ⟨all, hreceived, fun program fuel => ?_⟩
  cases fuel with
  | zero => rfl
  | succ fuel =>
    show applyBinding (program.answer fuel) staged rest
      = applyBinding (program.answer fuel) binding all
    rw [applyBinding_eq hrest hstaged, applyBinding_eq hall hslots, htarget]

/-- Filling in stages is filling at once.  Stages succeed exactly if each has an entry for every
slot that is open before it, and their outcome is that of the one stage in which every slot receives
what it receives in any of them.  What is filled stays so, each value that is supplied fills one
slot, and applied to values for the slots that are open at the end, the outcome gives what the
binding gives for all values in the order of its slots. -/
theorem fill_in_stages (binding : Binding) (stages : List (List (Option Value))) :
  ((stages.foldlM fill? binding).isSome ↔ StagesFit binding.openSlots stages)
    ∧ ∀ staged : Binding, stages.foldlM fill? binding = some staged →
        binding.fill? ((List.range binding.openSlots).map (received stages)) = some staged
          ∧ (∀ (index : Nat) (value : Value), binding.slots[index]? = some (some value) →
              staged.slots[index]? = some (some value))
          ∧ staged.openSlots + stages.flatten.countP (·.isSome) = binding.openSlots
          ∧ ∀ rest : List Value, rest.length = staged.openSlots → ∃ all : List Value,
              (List.range binding.openSlots).map (received (stages ++ [rest.map some]))
                  = all.map some
                ∧ ∀ (program : Program) (fuel : Nat),
                    program.apply fuel staged rest = program.apply fuel binding all
  := by
  constructor
  · rw [Option.isSome_iff_exists]
    constructor
    · rintro ⟨staged, h⟩
      exact (foldlM_fill?_eq_some.mp h).left
    · intro hfit
      exact ⟨_, foldlM_fill?_eq_some.mpr ⟨hfit, rfl⟩⟩
  · intro staged h
    have hstaged := (foldlM_fill?_eq_some.mp h).right
    refine ⟨fill?_eq_some.mpr ⟨by simp, hstaged⟩, fun index value hslot => ?_,
      openSlots_foldlM_fill? h, fun rest hrest => apply_foldlM_fill? h hrest⟩
    rw [← hstaged]
    exact getElem?_fillSlots_some hslot _

/-- A binding of four slots whose second holds a value. -/
def partlyFilled (target : Target) : Binding :=
  mk target [none, some (.integer 2), none, none] []

/-- The third slot is filled first, which is the second of those that are open, then the first. -/
theorem fill_in_stages_partlyFilled :
  ([[none, some (.integer 3), none], [some (.integer 1), none]].foldlM fill?
      (partlyFilled default)).isSome
    ∧ (partlyFilled default).fill? [some (.integer 1), some (.integer 3), none]
      = some (mk default [some (.integer 1), some (.integer 2), some (.integer 3), none] [])
    ∧ ∀ (program : Program) (fuel : Nat),
        program.apply fuel
            (mk default [some (.integer 1), some (.integer 2), some (.integer 3), none] [])
            [.integer 7]
          = program.apply fuel (partlyFilled default) [.integer 1, .integer 3, .integer 7]
  := by
  obtain ⟨hfit, hstaged⟩ := fill_in_stages (partlyFilled default)
    [[none, some (.integer 3), none], [some (.integer 1), none]]
  obtain ⟨honce, -, -, happly⟩ := hstaged _ rfl
  obtain ⟨all, hall, heq⟩ := happly [.integer 7] rfl
  obtain rfl : [.integer 1, .integer 3, .integer 7] = all :=
    List.map_injective_iff.mpr (fun _ _ => Option.some.inj) hall
  exact ⟨hfit.mpr ⟨rfl, rfl, trivial⟩, honce, heq⟩

end Binding
end TypedModules
