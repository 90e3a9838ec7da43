import Mathlib.Logic.Relation
import TypedModules.Proofs.Eval.Contained

/-!
# Regions of list builders

A list builder is reachable from a value if the value is made of it, or of builders that hold it,
at any depth.  A region is a set of builders to which evaluation may keep: it makes values of the
builders in the region and of those that it creates, and it changes no others.  That makes a
region a containment.  What is reachable from a value in the region then stays in the region, and
whatever reaches a builder in the region reached one before: `Region.Fits.reaches_before`.
-/

namespace TypedModules

open Relation

/-- Whether a value is another or is made of it, at any depth. -/
def Value.Contains : Value → Value → Prop :=
  ReflTransGen fun value part => part ∈ value.parts

namespace Store

variable {store : Store} {value : Value} {number : Nat}

/-- Whether a value is made of another, or is a builder that holds it. -/
def Leads (store : Store) (value next : Value) : Prop :=
  next ∈ value.parts ∨ ∃ number, value.builder? = some number ∧ next ∈ store.items number

/-- Whether one comes from a value to another by going to what it is made of and to what builders
hold, at any depth. -/
def LeadsTo (store : Store) : Value → Value → Prop :=
  ReflTransGen store.Leads

/-- Whether a list builder is reachable from a value. -/
def Reaches (store : Store) (value : Value) (number : Nat) : Prop :=
  ReflTransGen store.Leads value (.builder number)

theorem reaches_builder (store : Store) (number : Nat) :
  store.Reaches (.builder number) number
  := .refl

theorem Reaches.of_part {part : Value} (h : store.Reaches part number)
    (hpart : part ∈ value.parts) :
  store.Reaches value number
  := .head (.inl hpart) h

theorem Reaches.of_contains {part : Value} (h : store.Reaches part number)
    (hpart : value.Contains part) :
  store.Reaches value number
  := by
  induction hpart using ReflTransGen.head_induction_on with
  | refl => exact h
  | head hstep _ ih => exact ih.of_part hstep

theorem Reaches.of_item {item : Value} (h : store.Reaches item number) {target : Nat}
    (hitem : item ∈ store.items target) :
  store.Reaches (.builder target) number
  := .head (.inr ⟨target, rfl, hitem⟩) h

end Store

theorem Value.eq_builder_of_builder? {value : Value} {number : Nat}
    (h : value.builder? = some number) :
  value = .builder number
  := by
  cases value <;> cases h
  rfl

/-- The builders to which evaluation keeps, among those of an original store: with them belong all
that are created later.  The closures and the struct values in the region have a property. -/
structure Region where
  closures : Closure → Prop
  structs : StructHeader → List Value → Prop
  builders : Nat → Prop
  /-- Whether all builders in the region exist. -/
  bounded : Prop
  origin : Store
  fresh : ∀ number, origin.next ≤ number → builders number

namespace Region

variable {region : Region} {count : Nat} {value : Value} {store : Store}

/-- Whether a value is in the region apart from what it is made of, where that many builders
exist. -/
structure Admits (region : Region) (count : Nat) (value : Value) : Prop where
  closures : ∀ closure, value.closure? = some closure → region.closures closure
  structs : ∀ header members, value.struct? = some (header, members) →
    region.structs header members
  builders : ∀ number, value.builder? = some number →
    region.builders number ∧ (region.bounded → number < count)

/-- Whether all that a value is made of is in the region. -/
def Holds (region : Region) (count : Nat) (value : Value) : Prop :=
  ∀ part, value.Contains part → region.Admits count part

theorem holds_iff :
  region.Holds count value
    ↔ (∀ closure, value.closure? = some closure → region.closures closure)
      ∧ (∀ header members, value.struct? = some (header, members) →
        region.structs header members)
      ∧ (∀ number, value.builder? = some number →
        region.builders number ∧ (region.bounded → number < count))
      ∧ ∀ part ∈ value.parts, region.Holds count part
  := by
  constructor
  · intro h
    have hself := h value .refl
    exact ⟨hself.closures, hself.structs, hself.builders,
      fun part hpart deep hdeep => h deep (.head hpart hdeep)⟩
  · rintro ⟨hclosures, hstructs, hbuilders, hparts⟩ deep hdeep
    obtain rfl | ⟨part, hpart, hdeep⟩ := hdeep.cases_head
    · exact ⟨hclosures, hstructs, hbuilders⟩
    · exact hparts part hpart deep hdeep

theorem Holds.mono (h : region.Holds count value) {later : Nat} (hle : count ≤ later) :
  region.Holds later value
  := by
  intro part hpart
  obtain ⟨hclosures, hstructs, hbuilders⟩ := h part hpart
  refine ⟨hclosures, hstructs, fun number hnumber => ?_⟩
  obtain ⟨hregion, hlt⟩ := hbuilders number hnumber
  exact ⟨hregion, fun hbounded => Nat.lt_of_lt_of_le (hlt hbounded) hle⟩

/-- Whether the builders of the region hold nothing but values in the region, and the others what
they held in the original store. -/
structure Fits (region : Region) (count : Nat) (store : Store) : Prop where
  next : store.next = count
  grown : region.origin.next ≤ count
  items : ∀ number, region.builders number → ∀ item ∈ store.items number, region.Holds count item
  outside : ∀ number, ¬region.builders number → store.items number = region.origin.items number

/-- A region fits its original store if what its builders hold there is in the region. -/
theorem fits_origin
    (h : ∀ number, region.builders number → number < region.origin.next →
      ∀ item ∈ region.origin.items number, region.Holds region.origin.next item) :
  region.Fits region.origin.next region.origin
  := by
  constructor
  case next => rfl
  case grown => exact Nat.le_refl _
  case items =>
    intro number hnumber item hitem
    obtain hlt | hle := Nat.lt_or_ge number region.origin.next
    · exact h number hnumber hlt item hitem
    · rw [Store.items_of_le _ hle] at hitem
      exact absurd hitem List.not_mem_nil
  case outside => exact fun _ _ => rfl

theorem Fits.create (h : region.Fits count store) :
  region.Fits (count + 1) store.create
  := by
  constructor
  case next => rw [Store.next_create, h.next]
  case grown => exact Nat.le_succ_of_le h.grown
  case items =>
    intro number hnumber item hitem
    rw [Store.items_create] at hitem
    exact (h.items number hnumber item hitem).mono (Nat.le_succ count)
  case outside => simpa using h.outside

theorem Fits.append (h : region.Fits count store) {target : Nat} (htarget : region.builders target)
    {items : List Value} (hitems : ∀ item ∈ items, region.Holds count item) :
  region.Fits count (store.append target items)
  := by
  constructor
  case next => rw [Store.next_append, h.next]
  case grown => exact h.grown
  case items =>
    intro number hnumber item hitem
    exact (Store.mem_items_append hitem).elim (h.items number hnumber item) (hitems item)
  case outside =>
    intro number hnumber
    have hne : number ≠ target := fun e => hnumber (e ▸ htarget)
    rw [Store.items_append_of_ne store items hne, h.outside number hnumber]

/-- Evaluation in a region, which may end for any reason. -/
def containment (region : Region) : Containment where
  World := Nat
  grows := (· ≤ ·)
  refl := Nat.le_refl
  trans := Nat.le_trans
  fits := region.Fits
  allows _ := True
  closures := region.closures
  structs := region.structs
  literals _ _ := True
  builders count number := region.builders number ∧ (region.bounded → number < count)
  holds := region.Holds
  holds_iff := holds_iff
  lasting hle _ h := h.mono hle
  create {count store} hfits := by
    refine ⟨count + 1, Nat.le_succ count, hfits.create, region.fresh store.next ?_, ?_⟩
    · exact hfits.next ▸ hfits.grown
    · exact fun _ => hfits.next ▸ Nat.lt_succ_self store.next
  append hfits hnumber hitems := hfits.append hnumber.1 hitems
  items hfits hnumber := hfits.items _ hnumber.1
  mismatch _ _ := trivial
  member _ _ := trivial
  assumed := trivial

theorem lenient (region : Region) :
  region.containment.Lenient
  := ⟨fun _ _ => trivial, fun _ _ _ => trivial⟩

/-- Where all closures may be contained, all bodies may be run. -/
theorem runsAll (h : ∀ closure, region.closures closure) (program : Program) :
  region.containment.RunsAll program
  := by
  have hruns : ∀ {args : List Argument} {body : Block}, region.containment.Runs args body :=
    ⟨fun _ _ _ => trivial, fun _ _ => ⟨fun closure _ => h closure, fun _ _ => trivial⟩⟩
  exact ⟨fun _ _ => trivial, fun _ _ => hruns, fun _ _ _ => hruns, fun _ _ _ _ _ => hruns⟩

/-! ### What is reachable -/

/-- All to which a value in the region leads is in the region. -/
theorem Fits.leadsTo (hfits : region.Fits count store) (h : region.Holds count value) {found : Value}
    (hleads : store.LeadsTo value found) :
  region.Holds count found
  := by
  induction hleads with
  | refl => exact h
  | tail _ hstep ih =>
    obtain hpart | ⟨target, htarget, hitem⟩ := hstep
    · exact (holds_iff.mp ih).2.2.2 _ hpart
    · exact hfits.items target ((ih _ .refl).builders target htarget).1 _ hitem

/-- All that is reachable from a value in the region is a builder of the region. -/
theorem Fits.reaches (hfits : region.Fits count store) (h : region.Holds count value) {number : Nat}
    (hreach : store.Reaches value number) :
  region.builders number ∧ (region.bounded → number < count)
  := (hfits.leadsTo h hreach _ .refl).builders number rfl

/-- What reaches a builder of the region later reaches one in the original store. -/
theorem Fits.reaches_before (hfits : region.Fits count store) {number : Nat}
    (hnumber : region.builders number) (hreach : store.Reaches value number) :
  ∃ first, region.builders first ∧ region.origin.Reaches value first
  := by
  induction hreach using ReflTransGen.head_induction_on with
  | refl => exact ⟨number, hnumber, .refl⟩
  | @head value next hstep _ ih =>
    obtain ⟨first, hfirst, hreach⟩ := ih
    obtain hpart | ⟨target, htarget, hitem⟩ := hstep
    · exact ⟨first, hfirst, hreach.of_part hpart⟩
    · obtain rfl := Value.eq_builder_of_builder? htarget
      by_cases hin : region.builders target
      · exact ⟨target, hin, .refl⟩
      · rw [hfits.outside target hin] at hitem
        exact ⟨first, hfirst, hreach.of_item hitem⟩

end Region
end TypedModules
