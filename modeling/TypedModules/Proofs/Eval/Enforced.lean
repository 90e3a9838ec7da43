import TypedModules.Proofs.Alias.Sharing
import TypedModules.Proofs.Eval.Determined

/-!
# The `requires` blocks of structs are enforced

A struct value comes into being in two places only, the constructor and the literal of its struct,
and both make it after the `requires` block was evaluated to `true` for its members.  Everything
else moves values as they are.  The invariant of a run is that all struct values that it holds were
checked, by the run itself or before: it holds of what is reachable from the arguments and of what
the run creates.  It is the region of these builders that carries it through the run, and since one
step is determined by what it asks for, it is enough that this is answered within the region.
-/

namespace TypedModules

open Relation

/-! ### What is checked -/

/-- Whether answering a request from a store evaluates the `requires` block of a struct for
members, and to `true`. -/
inductive Program.Checks (program : Program) (ask : Request → Eval Value) (request : Request)
    (store : Store) (struct : Struct) (members : List Value) : Prop
  | intro {requires : Block} {inside after : Store} :
    struct.requires = some requires →
    program.Enters ask request store struct.members requires members inside →
    (callBody ask struct.members requires members).outcome inside = (.ok (.boolean true), after) →
    Checks program ask request store struct members

/-- Whether a run that answers a request from a store with some fuel evaluates the `requires` block
of a struct for members, and to `true`. -/
def Program.Verifies (program : Program) (fuel : Nat) (request : Request) (store : Store)
    (struct : Struct) (members : List Value) : Prop :=
  ∃ depth served start, program.Serves fuel request store (depth + 1) served start
    ∧ program.Checks (program.answer depth) served start struct members

/-- Whether a struct value is one that was checked, if its struct has a `requires` block. -/
def Program.Admits (program : Program) (checked : Struct → List Value → Prop)
    (header : StructHeader) (members : List Value) : Prop :=
  ∀ struct, program.struct? header.entity = some struct → struct.requires.isSome →
    checked struct members

/-- Whether all struct values that are reachable from a value were checked, if their structs have a
`requires` block. -/
def Program.Upholds (program : Program) (checked : Struct → List Value → Prop) (store : Store)
    (value : Value) : Prop :=
  ∀ header members, store.LeadsTo value (.struct header members) →
    program.Admits checked header members

variable {program : Program} {checked : Struct → List Value → Prop}

theorem Program.Upholds.of_leadsTo {store : Store} {value next : Value}
    (h : program.Upholds checked store value) (hnext : store.LeadsTo value next) :
  program.Upholds checked store next
  := fun header members hleads => h header members (hnext.trans hleads)

/-- A value that is no builder upholds the checks if it does itself and its parts do. -/
theorem Program.upholds_of_parts {store : Store} {value : Value} (hbuilder : value.builder? = none)
    (hself : ∀ header members, value.struct? = some (header, members) →
      program.Admits checked header members)
    (hparts : ∀ part ∈ value.parts, program.Upholds checked store part) :
  program.Upholds checked store value
  := by
  intro header members hleads
  obtain rfl | ⟨next, hstep, hrest⟩ := hleads.cases_head
  · exact hself header members rfl
  · obtain hpart | ⟨number, hnumber, -⟩ := hstep
    · exact hparts next hpart header members hrest
    · cases hbuilder ▸ hnumber

/-! ### Where struct values come into being -/

theorem callBody_of_satisfies {ask : Request → Eval Value} {header : StructHeader}
    {requires : Block} {members : List Value} {store after : Store}
    (h : (satisfies ask header requires members).outcome store = (.ok true, after)) :
  (callBody ask header.members requires members).outcome store = (.ok (.boolean true), after)
  := by
  have hbind : satisfies ask header requires members
      = callBody ask header.members requires members >>= Value.asBoolean := rfl
  rw [hbind, Discipline.outcome_bind] at h
  rcases e : (callBody ask header.members requires members).outcome store with
    ⟨halt | value, left⟩ <;> rw [e] at h
  · cases h
  · cases value <;> cases h
    rfl

/-- The structs and interfaces of an accepted module know their module. -/
theorem Accepted.module_eq {module : Module} (h : Accepted module) :
  (∀ struct ∈ module.structs, struct.module = module.id)
    ∧ ∀ interface ∈ module.interfaces, interface.module = module.id
  := by
  have hformed := h.formed _ _ (definitionsOf?_self h.not_native)
  exact ⟨fun struct hstruct => (hformed.structs _ (List.mem_map_of_mem hstruct)).1,
    fun interface hinterface => (hformed.interfaces _ hinterface).1⟩

theorem Module.entity_of_struct? {module : Module} (h : Accepted module) {entity : Entity}
    (hmodule : module.id = entity.module) {struct : Struct}
    (hstruct : module.struct? entity.id = some struct) :
  struct.entity = entity
  := by
  have hid : struct.id = entity.id := by simpa using List.find?_some hstruct
  have hown := h.module_eq.1 struct (List.mem_of_find?_eq_some hstruct)
  rw [StructHeader.entity, hid, hown, hmodule]

theorem entity_of_native {entity : Entity} (hnative : entity.module.isNative = true)
    {header : StructHeader} (hheader : nativeDefinitions.struct? entity.id = some header) :
  header.entity = entity
  := by
  have hmodules : ∀ header ∈ nativeDefinitions.structs, header.module = nativeModule := by
    decide +kernel
  obtain ⟨hmem, hid⟩ := Definitions.struct?_eq_some hheader
  have hmodule : entity.module = nativeModule := by simpa [ModuleId.isNative] using hnative
  rw [StructHeader.entity, hid, hmodules header hmem, ← hmodule]

/-- A struct that is found under an entity is that entity. -/
theorem Accepted.entity_of_struct? (haccepted : Accepted program.module) {entity : Entity}
    {struct : Struct} (h : program.struct? entity = some struct) :
  struct.entity = entity
  := by
  unfold Program.struct? at h
  split at h
  next hnative =>
    obtain ⟨header, hheader, rfl⟩ := Option.map_eq_some_iff.mp h
    exact entity_of_native hnative hheader
  next =>
    obtain ⟨module, hmodule, hstruct⟩ := Option.bind_eq_some_iff.mp h
    exact Module.entity_of_struct? (haccepted.find? hmodule) (Module.mem_of_find? hmodule).2 hstruct

/-- A struct value with a `requires` block is made where the block was evaluated to `true`, also
where answers break off more often than others that agree otherwise. -/
theorem checks_of_builds (haccepted : Accepted program.module) {ask other : Request → Eval Value}
    (hother : ∀ request store, (other request).outcome store = (ask request).outcome store
      ∨ ∃ left, (other request).outcome store = (.error .outOfFuel, left))
    {request : Request} {store : Store} {header : StructHeader} {members : List Value}
    (h : program.Builds other request store header members) :
  program.Admits (program.Checks ask request store) header members
  := by
  intro struct hstruct hrequires
  obtain ⟨requires, hblock⟩ := Option.isSome_iff_exists.mp hrequires
  have hchecks : ∀ {inside : Store}, struct.Passes other members inside →
      ∃ after, (callBody ask struct.members requires members).outcome inside
        = (.ok (.boolean true), after) := by
    intro inside hpasses
    obtain ⟨after, hholds⟩ := hpasses requires hblock
    have hbody := callBody_of_satisfies hholds
    exact ⟨after, (determined_callBody struct.members requires members).of_breaks hother hbody⟩
  cases h with
  | native hnative hheader =>
    rw [entity_of_native hnative hheader, Program.struct?, if_pos hnative, hheader] at hstruct
    cases hstruct
    cases hblock
  | @construct entity module found _ _ hnative hmodule hfunction hfound hlength hpasses =>
    have hid := Module.entity_of_struct? (haccepted.find? hmodule) (Module.mem_of_find? hmodule).2
      hfound
    rw [hid, Program.struct?, hnative, if_neg Bool.false_ne_true, hmodule, Option.bind_some, hfound]
      at hstruct
    cases hstruct
    obtain ⟨after, hbody⟩ := hchecks hpasses
    exact .intro hblock (.construct hnative hmodule hfunction hfound hblock hlength) hbody
  | @adapter entity module interface _ _ hnative hmodule hfunction hnone hinterface howner =>
    have hid : interface.adapterId = entity.id := by simpa using List.find?_some howner
    have hown := (haccepted.find? hmodule).module_eq.2 interface (List.mem_of_find?_eq_some howner)
    have hentity : interface.adapter.entity = entity := by
      show (⟨interface.module, interface.adapterId⟩ : Entity) = entity
      rw [hid, hown, (Module.mem_of_find? hmodule).2]
    rw [hentity, Program.struct?, hnative, if_neg Bool.false_ne_true, hmodule, Option.bind_some,
      hnone] at hstruct
    cases hstruct
  | @literal isReference entity written args found member text value _ after hentity hfound hmember
      hvalue hpasses =>
    rw [haccepted.entity_of_struct? hfound, hfound] at hstruct
    cases hstruct
    obtain ⟨left, hbody⟩ := hchecks hpasses
    have hasked := (determined_ask _).of_breaks hother hvalue
    exact .intro hblock (.literal hentity hfound hmember hblock hasked) hbody

/-! ### What a run upholds -/

/-- The builders that some values reach, and all that are new, where all struct values that have to
be were checked. -/
def Region.upholding (program : Program) (checked : Struct → List Value → Prop) (store : Store)
    (values : List Value) : Region where
  closures _ := True
  structs := program.Admits checked
  builders number := store.next ≤ number ∨ ∃ v ∈ values, store.Reaches v number
  bounded := False
  origin := store
  fresh _ h := .inl h

section Upholding

variable {store : Store} {values : List Value}

/-- What upholds the checks and reaches nothing but builders of the region is in the region. -/
theorem Region.holds_upholding {value : Value} (h : program.Upholds checked store value)
    (hreaches : ∀ number, store.Reaches value number →
      (Region.upholding program checked store values).builders number) (count : Nat) :
  (Region.upholding program checked store values).Holds count value
  := by
  intro part hpart
  have hleads : store.LeadsTo value part := ReflTransGen.mono (fun _ _ h => .inl h) _ _ hpart
  constructor
  · exact fun _ _ => trivial
  · intro header members hstruct
    cases part <;> cases hstruct
    exact h header members hleads
  · intro number hnumber
    obtain rfl := Value.eq_builder_of_builder? hnumber
    exact ⟨hreaches number hleads, nofun⟩

variable (hvalues : ∀ v ∈ values, program.Upholds checked store v)

include hvalues

theorem Region.holds_upholding_of_mem {value : Value} (hvalue : value ∈ values) (count : Nat) :
  (Region.upholding program checked store values).Holds count value
  := holds_upholding (hvalues value hvalue) (fun _ hreach => .inr ⟨value, hvalue, hreach⟩) count

theorem Region.fits_upholding :
  (Region.upholding program checked store values).Fits store.next store
  := by
  refine fits_origin fun number hnumber hlt item hitem => ?_
  obtain ⟨v, hv, hreach⟩ := hnumber.resolve_left (Nat.not_le_of_lt hlt)
  have hleads : store.LeadsTo v item := hreach.tail (.inr ⟨number, rfl, hitem⟩)
  exact holds_upholding ((hvalues v hv).of_leadsTo hleads)
    (fun deep hdeep => .inr ⟨v, hv, hleads.trans hdeep⟩) _

end Upholding

section Answers

variable (haccepted : Accepted program.module) {fuel : Nat} {request : Request} {store : Store}
  {values : List Value}
  (hchecked : ∀ struct members, program.Verifies fuel request store struct members →
    checked struct members)

include haccepted hchecked

/-- Whatever a run comes to keeps to the region, if what the run checks counts as checked.  The
induction is on the fuel that is left: a step may rely on the answers to what it asks for, since the
run comes to these requests as well. -/
theorem keepsAt_upholding {depth : Nat} {served : Request} {start : Store}
    (hserves : program.Serves fuel request store depth served start) {count : Nat}
    (hfits : (Region.upholding program checked store values).Fits count start)
    (hasked : (Region.upholding program checked store values).containment.Asked count served) :
  (Region.upholding program checked store values).containment.KeepsAt count start
    (program.answer depth served)
    (Region.upholding program checked store values).containment.holds
  := by
  classical
  let region := Region.upholding program checked store values
  induction depth generalizing served start count with
  | zero => exact Discipline.keeps_outOfFuel.at hfits
  | succ depth ih =>
    -- the answers where they are asked for, which is all that the step depends on
    let other : Request → Eval Value := fun r s =>
      if Asks (program.step depth · served) (program.answer depth) start r s then
        program.answer depth r s
      else (.error .outOfFuel, s)
    have hother : ∀ r s, (other r).outcome s = (program.answer depth r).outcome s
        ∨ ∃ left, (other r).outcome s = (.error .outOfFuel, left) := by
      intro r s
      by_cases h : Asks (program.step depth · served) (program.answer depth) start r s
      · exact .inl (if_pos h)
      · exact .inr ⟨s, if_neg h⟩
    have hanswers : region.containment.Answers other := by
      intro later r hr s hs
      by_cases h : Asks (program.step depth · served) (program.answer depth) start r s
      · have hsame : (other r).outcome s = (program.answer depth r).outcome s := if_pos h
        rw [hsame]
        exact ih (.asks hserves h) hs hr
      · have hbreaks : (other r).outcome s = (.error .outOfFuel, s) := if_neg h
        rw [hbreaks]
        exact ⟨later, Nat.le_refl later, hs, trivial⟩
    have hbuilds : ∀ header members, program.Builds other served start header members →
        region.structs header members := by
      intro header members hbuilds struct hstruct hrequires
      have hchecks := checks_of_builds haccepted hother hbuilds struct hstruct hrequires
      exact hchecked struct members ⟨depth, served, start, hserves, hchecks⟩
    have hstep := Containment.keepsAt_step hanswers (Region.runsAll (fun _ => trivial) program)
      (Region.lenient region) hfits hasked hbuilds depth
    have hsame : (program.step depth other served).outcome start
        = (program.answer (depth + 1) served).outcome start :=
      determined_step program depth served (program.answer depth) other start
        fun r s hdemands => if_pos (demands_iff_asks.mp hdemands)
    unfold Discipline.KeepsAt at hstep ⊢
    rwa [hsame] at hstep

end Answers

/-- All to which a value in the region leads was checked. -/
theorem Region.Fits.upholds {store after : Store} {values : List Value} {count : Nat}
    (hfits : (Region.upholding program checked store values).Fits count after) {value : Value}
    (h : (Region.upholding program checked store values).Holds count value) :
  program.Upholds checked after value
  := fun header members hleads => (hfits.leadsTo h hleads _ .refl).structs header members rfl

/-- The `requires` block of a struct cannot be bypassed, whatever a program is asked for and
whichever native functions stand in for bodies: if all struct values that are reachable from the
arguments were checked before, then those that are reachable from the result, and from what any list
builder holds that a run can change, were checked before or are checked by the run.  The other list
builders hold what they held. -/
theorem requires_enforced (haccepted : Accepted program.module) {request : Request} {store : Store}
    (hvalues : ∀ v ∈ request.values, program.Upholds checked store v) {fuel : Nat}
    {result : Except Halt Value} {after : Store}
    (houtcome : (program.answer fuel request).outcome store = (result, after)) :
  (∀ value, result = .ok value → program.Upholds (fun struct members =>
      checked struct members ∨ program.Verifies fuel request store struct members) after value)
    ∧ ∀ number,
      ((store.next ≤ number ∨ ∃ v ∈ request.values, store.Reaches v number) →
        ∀ item ∈ after.items number, program.Upholds (fun struct members =>
          checked struct members ∨ program.Verifies fuel request store struct members) after item)
      ∧ (number < store.next → (∀ v ∈ request.values, ¬store.Reaches v number) →
        after.items number = store.items number)
  := by
  let verified : Struct → List Value → Prop := fun struct members =>
    checked struct members ∨ program.Verifies fuel request store struct members
  let region := Region.upholding program verified store request.values
  have hverified : ∀ v ∈ request.values, program.Upholds verified store v :=
    fun v hv header members hleads struct hstruct hrequires =>
      .inl (hvalues v hv header members hleads struct hstruct hrequires)
  have hholds : ∀ v ∈ request.values, region.Holds store.next v :=
    fun v hv => Region.holds_upholding_of_mem hverified hv _
  have hasked : region.containment.Asked store.next request := by
    cases request with
    | call entity args => exact hholds
    | apply binding args => exact List.forall_mem_cons.mp hholds
    | literal => trivial
  obtain ⟨count, -, hfits, hends⟩ := keepsAt_upholding haccepted (fun _ _ => .inr) .start
    (Region.fits_upholding hverified) hasked
  rw [houtcome] at hfits hends
  refine ⟨?_, fun number => ⟨fun hnumber item hitem => ?_, fun hold hunreached => ?_⟩⟩
  · rintro value rfl
    exact hfits.upholds hends
  · exact hfits.upholds (hfits.items number hnumber item hitem)
  · refine hfits.outside number fun hnumber => ?_
    obtain hnew | ⟨v, hv, hreach⟩ := hnumber
    · exact absurd hold (Nat.not_lt.mpr hnew)
    · exact hunreached v hv hreach

/-! ### A chain of positive numbers -/

/-- A context with the struct `Chain<T>(rest: T, value: Integer)`, which requires that `value` is
greater than zero. -/
def chainContext : Context where
  structs := [{
      id := ⟨["Chain"]⟩
      typeParams := [⟨"T", none⟩]
      members := [⟨"rest", .named false ⟨none, ⟨["T"]⟩⟩ [] none⟩, ⟨"value", .integer⟩]
      requires := some (.mk [.bare (.call ⟨none, ⟨["Integer", "greaterThan"]⟩⟩
        [.variable "value" none, .literal .integer "0" none] [] none)] none)
      annotations := []
      location := none }]

/-- Whether a struct has a `requires` block that members satisfy, where there is no list builder. -/
def Struct.accepts (ask : Request → Eval Value) (struct : Struct) (members : List Value) : Bool :=
  match struct.requires with
  | none => false
  | some requires => members.length == struct.members.length
    && match ((satisfies ask struct.toStructHeader requires members).outcome {}).1 with
      | .ok holds => holds
      | .error _ => false

/-- The constructor of a struct makes a value of members that satisfy the `requires` block. -/
theorem Struct.construct_of_accepts {ask : Request → Eval Value} {struct : Struct}
    {members : List Value} (h : struct.accepts ask members = true) :
  ∃ requires after, struct.requires = some requires
    ∧ (construct ask struct members).outcome {}
      = (.ok (.success (.struct struct.toStructHeader members)), after)
  := by
  unfold accepts at h
  split at h
  next => cases h
  next requires hrequires =>
    rw [Bool.and_eq_true, beq_iff_eq] at h
    obtain ⟨hlength, h⟩ := h
    rcases e : (satisfies ask struct.toStructHeader requires members).outcome {} with
      ⟨halt | holds, after⟩ <;> rw [e] at h
    · cases h
    obtain rfl : holds = true := h
    refine ⟨requires, after, hrequires, ?_⟩
    unfold construct Eval.checkArity
    rw [if_pos hlength.symm, hrequires]
    show (satisfies ask struct.toStructHeader requires members >>= _).outcome {} = _
    rw [Discipline.outcome_bind, e]
    rfl

/-- A chain that was checked before is extended, and the longer one is checked. -/
theorem requires_enforced_chain :
  ∃ (program : Program) (struct : Struct) (rest : Value) (request : Request) (after : Store),
    Accepted program.module ∧ program.struct? struct.entity = some struct ∧ struct.requires.isSome
      ∧ rest = .struct struct.toStructHeader [.integer 0, .integer 1]
      ∧ request = .call struct.entity [rest, .integer 3]
      ∧ (program.answer 3 request).outcome {}
        = (.ok (.success (.struct struct.toStructHeader [rest, .integer 3])), after)
      ∧ program.Verifies 3 request {} struct [rest, .integer 3]
  := by
  have hmakes : (validate 0 chainContext ⟨"example", "chain"⟩ [] {}).module?.any
      (fun module => module.functions.isEmpty && (module.struct? ⟨["Chain"]⟩).any fun struct =>
        struct.accepts (Program.answer { module := module } 2)
          [.struct struct.toStructHeader [.integer 0, .integer 1], .integer 3]) = true := by
    decide +kernel
  obtain ⟨module, warnings, h, hmakes⟩ := Verdict.exists_success hmakes
  rw [Bool.and_eq_true, List.isEmpty_iff] at hmakes
  obtain ⟨hnone, hmakes⟩ := hmakes
  obtain ⟨struct, hfound, hmakes⟩ := (Option.any_eq_true _ _).mp hmakes
  let program : Program := { module := module }
  have haccepted : Accepted program.module := Accepted.alone h
  obtain ⟨rest, hrest⟩ :
      ∃ rest, rest = Value.struct struct.toStructHeader [.integer 0, .integer 1] := ⟨_, rfl⟩
  rw [← hrest] at hmakes
  obtain ⟨requires, after, hrequires, hvalue⟩ := Struct.construct_of_accepts hmakes
  have hstruct : program.struct? ⟨module.id, ⟨["Chain"]⟩⟩ = some struct := by
    have hnative : module.id.isNative = false := haccepted.not_native
    rw [Program.struct?, hnative, if_neg Bool.false_ne_true, Module.find?_self]
    exact hfound
  have hentity : struct.entity = ⟨module.id, ⟨["Chain"]⟩⟩ := haccepted.entity_of_struct? hstruct
  have hown : program.answer 3 (.call ⟨module.id, ⟨["Chain"]⟩⟩ [rest, .integer 3]) = _ :=
    answer_own haccepted 2 ⟨["Chain"]⟩ [rest, .integer 3]
  have hdeclared : evalDeclared program (program.answer 2) 2 module ⟨module.id, ⟨["Chain"]⟩⟩
      [rest, .integer 3] = construct (program.answer 2) struct [rest, .integer 3] := by
    simp only [evalDeclared, Module.function?, hnone, List.find?_nil, hfound]
  have houtcome : (program.answer 3 (.call struct.entity [rest, .integer 3])).outcome {}
      = (.ok (.success (.struct struct.toStructHeader [rest, .integer 3])), after) := by
    rw [hentity, hown, outcome_inFrame, hdeclared, hvalue]
  -- the struct values that the constructor is given hold 0 and 1
  let before : Struct → List Value → Prop := fun _ members => members = [.integer 0, .integer 1]
  have hinteger : ∀ n : Int, program.Upholds before {} (.integer n) := fun n =>
    Program.upholds_of_parts rfl (by rintro _ _ ⟨⟩) fun _ hpart => absurd hpart List.not_mem_nil
  have hvalues : ∀ v ∈ Request.values (.call struct.entity [rest, .integer 3]),
      program.Upholds before {} v := by
    rw [Request.values, List.forall_mem_cons, List.forall_mem_singleton, hrest]
    refine ⟨Program.upholds_of_parts rfl ?_ ?_, hinteger 3⟩
    · rintro _ _ ⟨⟩ _ _ _
      rfl
    · simp [Value.parts, hinteger]
  have hupholds := (requires_enforced haccepted hvalues houtcome).1 _ rfl
  have hself := hupholds _ _ (.single (.inl (List.mem_singleton.mpr rfl))) struct
    (by rw [hentity, hstruct]) (by rw [hrequires]; rfl)
  refine ⟨program, struct, rest, _, after, haccepted, by rw [hentity, hstruct],
    by rw [hrequires]; rfl, hrest, rfl, houtcome, hself.resolve_left ?_⟩
  simp [before, hrest]

end TypedModules
