import TypedModules.Proofs.Eval.Mirrored
import TypedModules.Proofs.Eval.Settled
import TypedModules.Proofs.Typing.Sites

/-!
# Equal values are not told apart

Values that are the same may differ in the references by which types are written, and the headers
and closures in them are compared by their entities and sites alone.  In the graph of a module these
determine the rest, so values of the graph that are the same and hold no builder agree up to the
numbers of builders, and evaluations that start with them mirror each other:
`evaluation_respects_sameness`.  The two create different builders, and those that the one creates
are paired with those that the other one does.
-/

namespace TypedModules

/-! ### Values of a module -/

/-- Whether what a value is apart from its parts is declared, or written, in a module or in one that
it finds. -/
def Module.Knows (module : Module) : Value → Prop
  | .struct header _ => module.library.shape? header.entity = some header
  | .object interface _ => module.library.interface? interface.entity = some interface
  | .union union _ _ => module.library.union? union.entity = some union
  | .function binding => binding.target.Holds module.Writes
  | _ => True

/-- Whether a value is one of a module and of those that it finds: all that it contains is
declared, or written, in one of them. -/
def Module.HasValue (module : Module) (value : Value) : Prop :=
  ∀ part, value.Contains part → module.Knows part

/-- Whether a value holds no list builder. -/
def Value.Plain (value : Value) : Prop :=
  ∀ number, ¬value.Contains (.builder number)

/-- Being identical and known to a module. -/
def Module.likeness (module : Module) (builders : Nat → Nat → Prop) : Likeness where
  headers a b := a = b ∧ module.library.shape? a.entity = some a
  interfaces a b := a = b ∧ module.library.interface? a.entity = some a
  unions a b := a = b ∧ module.library.union? a.entity = some a
  targets a b := a = b ∧ a.Holds module.Writes
  builders := builders

section Values

variable {module : Module} {v w : Value}

theorem Module.HasValue.alike (h : module.HasValue v) {builders : Nat → Nat → Prop}
    (hbuilders : ∀ number, v.Contains (.builder number) → builders number number) :
  v.Alike (module.likeness builders) v
  := by
  refine Value.alike_self_iff.mpr fun part hpart => ?_
  have hknows := h part hpart
  cases part with
  | struct | object | union | function => exact ⟨rfl, hknows⟩
  | builder number => exact hbuilders number hpart
  | _ => trivial

/-- What a module knows under one entity is one. -/
theorem eq_of_entity_eq {α : Type} {entityOf : α → Entity} {find? : Entity → Option α} {a b : α}
    (ha : find? (entityOf a) = some a) (hb : find? (entityOf b) = some b)
    (h : entityOf a = entityOf b) :
  a = b
  := by
  rw [h, hb] at ha
  exact (Option.some.inj ha).symm

theorem Accepted.target_unique (h : Accepted module) {a b : Target} (ha : a.Holds module.Writes)
    (hb : b.Holds module.Writes) (hsame : a.same b = true) :
  a = b
  := by
  cases a <;> cases b <;> simp only [Target.same, Bool.false_eq_true, beq_iff_eq] at hsame
  case entity => rw [hsame]
  case closure => rw [h.closure_unique ha hb hsame]

/-- Values of a module that are the same agree, if they hold no builder. -/
theorem Accepted.like_of_same (h : Accepted module) (hsame : v.same w = true)
    (hv : module.HasValue v) (hw : module.HasValue w) (hplain : v.Plain) (left right : Nat) :
  v.Like (.none left right) w
  := by
  rw [same_iff] at hsame
  have hleft : v.Alike (module.likeness fun _ _ => False) v := hv.alike hplain
  have hright : w.Alike (module.likeness Eq) w := hw.alike fun _ _ => rfl
  refine (alike_imp ?_).1 v w (alike_comp.1 v w (alike_comp.1 v v hleft w hsame) w hright)
  constructor
  case targets =>
    rintro a b ⟨_, ⟨_, ⟨rfl, ha⟩, hab⟩, rfl, hb⟩
    exact h.target_unique ha hb hab
  case builders =>
    rintro m n ⟨_, ⟨_, ⟨⟩, _⟩, _⟩
  all_goals
    rintro a b ⟨_, ⟨_, ⟨rfl, ha⟩, hab⟩, rfl, hb⟩
    exact eq_of_entity_eq ha hb hab

/-- A value that holds no builder is the same as all with which it agrees. -/
theorem Value.Plain.same_of_like (hplain : v.Plain) {pairing : Pairing} (h : v.Like pairing w) :
  v.same w = true
  := by
  have hself : v.Like (.none 0 0) v := by
    refine Value.alike_self_iff.mpr fun part hpart => ?_
    cases part with
    | struct | object | union | function => rfl
    | builder number => exact absurd hpart (hplain number)
    | _ => trivial
  rw [same_iff]
  refine (alike_imp ?_).1 v w (hself.comp h)
  constructor
  case builders => rintro m n ⟨_, ⟨⟩, _⟩
  case targets =>
    rintro a _ rfl
    exact a.same_refl
  all_goals
    rintro a _ rfl
    rfl

end Values

/-- Whether two lists of values of a module are pairwise the same and hold no builder. -/
structure Module.SameArgs (module : Module) (args others : List Value) : Prop where
  same : sameValues args others = true
  left : ∀ arg ∈ args, module.HasValue arg ∧ arg.Plain
  right : ∀ arg ∈ others, module.HasValue arg ∧ arg.Plain

theorem Module.SameArgs.like {module : Module} (haccepted : Accepted module)
    {args others : List Value} (h : module.SameArgs args others) (left right : Nat) :
  ValuesLike (.none left right) args others
  := by
  have hsame := sameValues_iff_forall₂.mp h.same
  have hleft := (List.forall₂_and_left _ _).mpr ⟨h.left, hsame⟩
  have hboth := (List.forall₂_and_left _ _).mpr ⟨h.right, hleft.flip⟩
  refine hboth.flip.imp ?_
  rintro v w ⟨hw, hv, hvw⟩
  exact haccepted.like_of_same hvw hv.1 hw.1 hv.2 left right

/-! ### Renaming builders -/

/-- Whether a pairing is a one-to-one renaming of all builders that two evaluations have created,
from stores that had `left` and `right` of them. -/
structure Pairing.Renames (pairing : Pairing) (left right : Nat) : Prop where
  grown : left ≤ pairing.left ∧ right ≤ pairing.right
  created : ∀ {m n}, pairing.pairs m n → left ≤ m ∧ right ≤ n
  exists_right : ∀ {m}, left ≤ m → m < pairing.left → ∃ n, pairing.pairs m n
  exists_left : ∀ {n}, right ≤ n → n < pairing.right → ∃ m, pairing.pairs m n

theorem renames_none (left right : Nat) :
  (Pairing.none left right).Renames left right
  := by
  constructor
  case grown => exact ⟨Nat.le_refl _, Nat.le_refl _⟩
  case created => exact False.elim
  case exists_right => exact fun h h' => absurd h' (Nat.not_lt.mpr h)
  case exists_left => exact fun h h' => absurd h' (Nat.not_lt.mpr h)

theorem Pairing.Renames.create {pairing : Pairing} {left right : Nat}
    (h : pairing.Renames left right) :
  pairing.create.Renames left right
  := by
  constructor
  case grown => exact ⟨Nat.le_succ_of_le h.grown.1, Nat.le_succ_of_le h.grown.2⟩
  case created =>
    rintro m n (hpair | ⟨rfl, rfl⟩)
    · exact h.created hpair
    · exact h.grown
  case exists_right =>
    intro m hle hlt
    obtain hlt | rfl := Nat.lt_succ_iff_lt_or_eq.mp hlt
    · obtain ⟨n, hpair⟩ := h.exists_right hle hlt
      exact ⟨n, .inl hpair⟩
    · exact ⟨pairing.right, .inr ⟨rfl, rfl⟩⟩
  case exists_left =>
    intro n hle hlt
    obtain hlt | rfl := Nat.lt_succ_iff_lt_or_eq.mp hlt
    · obtain ⟨m, hpair⟩ := h.exists_left hle hlt
      exact ⟨m, .inl hpair⟩
    · exact ⟨pairing.left, .inr ⟨rfl, rfl⟩⟩

/-- Errors agree if they are the same, and all builders that are created are minded to be
paired. -/
def renamingMirror (left right : Nat) : Mirror where
  errors := Eq
  minds pairing _ := pairing.Renames left right
  errors_new _ := rfl
  errors_leaving entity h := congrArg (·.leaving entity) h
  minds_create _ h := h.create
  minds_append _ _ _ h := h

/-! ### Runs -/

/-- Whether evaluations run out of fuel, from a store, whatever they are given. -/
def Diverges {α : Type} (run : Nat → Eval α) (store : Store) : Prop :=
  ∀ fuel, ((run fuel).outcome store).1 = .error .outOfFuel

/-- Whether evaluations from two stores both diverge, both end with the same error, or both end with
values that agree up to a one-to-one renaming of the list builders that each has created.  Builders
that correspond hold values that agree. -/
inductive AlikeRuns (run other : Nat → Eval Value) (store start : Store) : Prop
  | diverge : Diverges run store → Diverges other start → AlikeRuns run other store start
  | error {error : EvalError} {after last : Store} {pairing : Pairing} :
    Settles run store (.error (.error error), after) →
    Settles other start (.error (.error error), last) →
    pairing.Renames store.next start.next → after.Like pairing last →
    AlikeRuns run other store start
  | value {v w : Value} {after last : Store} {pairing : Pairing} :
    Settles run store (.ok v, after) →
    Settles other start (.ok w, last) →
    pairing.Renames store.next start.next → after.Like pairing last → v.Like pairing w →
    AlikeRuns run other store start

section Runs

variable {program : Program} {request other : Request} {store start : Store}

/-- What ends for a request settles for every other that agrees. -/
theorem follows_of_ends (h : Mirror.RequestLike (.none store.next start.next) request other)
    {fuel : Nat} (hends : ((program.answer fuel request).outcome store).1 ≠ .error .outOfFuel) :
  (renamingMirror store.next start.next).Follows (.none store.next start.next) Value.Like
    ((program.answer fuel request).outcome store) (fun fuel => program.answer fuel other) start
  := answers_program _ program fuel _ _ _ h store start
    ⟨Store.Like.none store start, renames_none store.next start.next⟩ hends

/-- Requests that agree where no builder is paired are answered alike. -/
theorem alikeRuns_of_requestLike
    (h : Mirror.RequestLike (.none store.next start.next) request other) :
  AlikeRuns (fun fuel => program.answer fuel request) (fun fuel => program.answer fuel other)
    store start
  := by
  have hback : Mirror.RequestLike (.none start.next store.next) other request := h.symm
  by_cases hdiverges : Diverges (fun fuel => program.answer fuel other) start
  · refine .diverge (fun fuel => ?_) hdiverges
    -- what ended for the one would settle for the other
    by_contra hends
    obtain ⟨_, last, -, ⟨enough, hlast⟩, hresult, -⟩ := follows_of_ends h hends
    exact hresult.ends (by rw [← hlast enough (Nat.le_refl _), hdiverges enough])
  · -- what ends for the other settles for the one, and so for the other
    obtain ⟨fuel, hends⟩ := not_forall.mp hdiverges
    obtain ⟨_, ⟨result, after⟩, -, hafter, hresult, -⟩ := follows_of_ends hback hends
    obtain ⟨enough, hsettled⟩ := id hafter
    have hfirst := hsettled enough (Nat.le_refl _)
    obtain ⟨pairing, ⟨result', last⟩, -, hlast, hresults, hfits⟩ :=
      follows_of_ends h (by rw [hfirst]; exact hresult.ends)
    rw [hfirst] at hresults hfits
    cases hresults with
    | ok hlike => exact .value hafter hlast hfits.minded hfits.toLike hlike
    | error herror =>
      obtain rfl := herror
      exact .error hafter hlast hfits.minded hfits.toLike

/-- Where one of two runs that are alike has a value without builders, the other has one that is the
same. -/
theorem AlikeRuns.same {run run' : Nat → Eval Value} (h : AlikeRuns run run' store start)
    {v : Value} {after : Store} (hv : Settles run store (.ok v, after)) (hplain : v.Plain) :
  ∃ w last, Settles run' start (.ok w, last) ∧ v.same w = true
  := by
  cases h with
  | diverge hdiverges _ =>
    obtain ⟨enough, hv⟩ := hv
    have hends := hdiverges enough
    rw [hv enough (Nat.le_refl _)] at hends
    cases hends
  | error herror => cases hv.unique herror
  | value hvalue hother _ _ hlike =>
    cases hv.unique hvalue
    exact ⟨_, _, hother, hplain.same_of_like hlike⟩

end Runs

/-- Evaluation does not tell equal values apart, whichever functions of the program have overrides.
That values are the same is an equivalence, and for lists of values of the module's graph that are
pairwise the same and hold no builder, from any two stores, the evaluations of an entity both
diverge, both end with the same error, or both end with values that agree up to a one-to-one
renaming of the builders that each has created; so do those of two bindings that are the same.  If
the one ends with a value that holds no builder, the other ends with one that is the same. -/
theorem evaluation_respects_sameness :
  Equivalence (fun v w : Value => v.same w = true)
    ∧ ∀ program : Program, Accepted program.module →
      ∀ args others, program.module.SameArgs args others → ∀ store start : Store,
        (∀ entity, AlikeRuns (fun fuel => program.evaluate fuel entity args)
          (fun fuel => program.evaluate fuel entity others) store start)
        ∧ (∀ f g, program.module.SameArgs [.function f] [.function g] →
          AlikeRuns (fun fuel => program.apply fuel f args)
            (fun fuel => program.apply fuel g others) store start)
        ∧ ∀ entity v after,
          Settles (fun fuel => program.evaluate fuel entity args) store (.ok v, after) → v.Plain →
          ∃ w last, Settles (fun fuel => program.evaluate fuel entity others) start (.ok w, last)
            ∧ v.same w = true
  := by
  refine ⟨equivalence_same, fun program haccepted args others hargs store start => ?_⟩
  have hlike := hargs.like haccepted store.next start.next
  have hcalls : ∀ entity, AlikeRuns (fun fuel => program.evaluate fuel entity args)
      (fun fuel => program.evaluate fuel entity others) store start :=
    fun entity => alikeRuns_of_requestLike (.call entity hlike)
  refine ⟨hcalls, ?apply, fun entity v after hv hplain => (hcalls entity).same hv hplain⟩
  case apply =>
    intro f g hfunctions
    have hfg : f.Like (.none store.next start.next) g := by
      obtain _ | ⟨hvalue, -⟩ := hfunctions.like haccepted store.next start.next
      cases hvalue
      assumption
    exact alikeRuns_of_requestLike (.apply hfg hlike)

/-! ### A binding whose type is written in two ways -/

/-- The function `Try.success` for texts, with a reference by which the type of texts is written. -/
def successOfText (written : Reference) : Binding :=
  .mk (.entity NativeFunction.trySuccess.entity) [none]
    [some (.named false Native.string.entity written [])]

theorem contains_successOfText {written : Reference} {part : Value}
    (h : (Value.function (successOfText written)).Contains part) :
  part = .function (successOfText written)
  := by
  obtain rfl | ⟨_, hpart, -⟩ := h.cases_head
  · rfl
  · cases hpart

theorem sameArgs_successOfText (module : Module) (written other : Reference) :
  module.SameArgs [.function (successOfText written)] [.function (successOfText other)]
  := by
  have hown : ∀ written : Reference, ∀ value ∈ [Value.function (successOfText written)],
      module.HasValue value ∧ value.Plain := by
    intro written value hvalue
    obtain rfl := List.mem_singleton.mp hvalue
    constructor
    · intro part hpart
      obtain rfl := contains_successOfText hpart
      trivial
    · intro number hnumber
      cases contains_successOfText hnumber
  refine ⟨?_, hown written, hown other⟩
  simp [sameValues, Value.same, successOfText, Binding.same, Target.same, sameSlots, Ty.sameOptions,
    Ty.sameOption, Ty.same, Ty.sameAll]

theorem settles_trySuccess (program : Program) (value : Value) (store : Store) :
  Settles (fun fuel => program.evaluate fuel NativeFunction.trySuccess.entity [value]) store
    (.ok (.success value), store)
  := by
  use 1
  intro fuel hfuel
  obtain ⟨less, rfl⟩ := Nat.exists_eq_add_of_le' hfuel
  show (program.answer (less + 1) (.call NativeFunction.trySuccess.entity [value])).outcome store = _
  rw [answer_native]
  rfl

/-- `Try.success` is given itself, with the type of texts written without and with a module. -/
theorem evaluation_respects_sameness_successOfText :
  ∃ (module : Module) (f g : Binding), Accepted module ∧ f.chosen ≠ g.chosen
    ∧ module.SameArgs [.function f] [.function g]
    ∧ ∃ w last, Settles (fun fuel => Program.evaluate { module := module } fuel
        NativeFunction.trySuccess.entity [.function g]) {} (.ok w, last)
      ∧ (Value.success (.function f)).same w = true
  := by
  obtain ⟨module, warnings, h⟩ := exists_pick
  have hsame := sameArgs_successOfText module ⟨none, ⟨["Unicode", "String"]⟩⟩
    ⟨some ⟨none, "Native", none⟩, ⟨["Unicode", "String"]⟩⟩
  have hruns := evaluation_respects_sameness.2 { module := module } (Accepted.alone h) _ _ hsame
    {} {}
  refine ⟨module, _, _, Accepted.alone h, ?_, hsame,
    hruns.2.2 _ _ _ (settles_trySuccess { module := module } _ {}) ?_⟩
  · simp [successOfText, Binding.chosen]
  · intro number hnumber
    obtain ⟨⟨⟩⟩ | ⟨part, hpart, hdeep⟩ := hnumber.cases_head
    obtain rfl := List.mem_singleton.mp hpart
    cases contains_successOfText hdeep

end TypedModules
