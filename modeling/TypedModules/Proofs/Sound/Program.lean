import TypedModules.Proofs.Sound.Entities

/-!
# Type soundness

A program without overrides answers each request as its types say: calls of what is declared,
applications of what inhabits function types, and literals.  So a function of an accepted module
that is given inhabitants of the types of its arguments yields an inhabitant of the type that it
declares, unless a failure is assumed to be a success or a `requires` block refuses a literal.

Arguments may hold bindings that no module makes, its guests, as long as they yield inhabitants of
what they return when they are applied to inhabitants of what they take.  And the methods of
interfaces have to leave the name free that is invented for the data: where one of them takes it,
an adapter may be made of an implementation that returns the data for what the method was given
(`captured_data`).
-/

namespace TypedModules

open Realm

/-- Whether guests of a program yield inhabitants of what they return when they are applied to
inhabitants of what they take. -/
def Accepted.Welcomes {program : Program} (h : Accepted program.module) (guests : Guests) : Prop :=
  ∀ fuel world binding types output args, guests.callable world binding types output →
    (h.realm guests).InhabitAll world args types →
    (h.realm guests).Yields EvalCause.Tolerated world (program.apply fuel binding args) output

section Answers

variable {program : Program} (h : Accepted program.module) {guests : Guests} {fuel : Nat}

theorem hosts_realm :
  (h.realm guests).Hosts
  := .inr

/-- The target of a binding that the library makes is run as its signature says, or as the closure
does. -/
theorem yields_run_of_makes (hserves : (h.realm guests).Serves (program.answer fuel))
    {world : World} {base : Binding} {params : List Ty} {result : Ty}
    (hmakes : program.module.library.Makes base params result) {values : List Value}
    (hvalues : (h.realm guests).InhabitAll world values params) :
  (h.realm guests).Yields EvalCause.Tolerated world
    (base.target.run (program.answer fuel) values) result
  := by
  cases hmakes with
  | entity hdeclares hsignature hcount hchosen =>
    exact hserves.call hdeclares hsignature ⟨hcount, hchosen⟩ hvalues
  | @closure closure σ hbody hsame hσ =>
    have hlength := hvalues.length_eq.trans (List.length_map _)
    have hrun := yields_callBody hserves (hosts_realm h) hσ hvalues hbody hsame
    rw [Binding.target, Target.run, callClosure, checkArity_of_eq hlength, pure_bind]
    exact hrun

/-- What inhabits a function type is applied as the type says. -/
theorem answers_apply (hwelcomes : h.Welcomes guests)
    (hserves : (h.realm guests).Serves (program.answer fuel)) :
  (h.realm guests).Answers EvalCause.Tolerated (program.answer (fuel + 1))
  := by
  intro world binding types output args happlies hargs
  obtain ⟨base, params, result, values, hcallable, htarget, hvalues, hslots, hsame⟩ :=
    happlies.exists_values hargs
  have hcount : args.length = binding.openSlots := hargs.length_eq.trans happlies.openSlots.symm
  have hcount' : values.length = base.openSlots :=
    hvalues.length_eq.trans ((h.realm guests).counted hcallable).symm
  obtain ⟨all, hall⟩ := Binding.exists_fillSlots hcount'
  have happly : program.answer (fuel + 1) (.apply binding args)
      = base.target.run (program.answer fuel) all :=
    htarget ▸ applyBinding_eq hcount (hslots.trans hall)
  rw [happly]
  refine Yields.same ?_ hsame
  obtain hguest | hmakes := hcallable
  · have hbase : program.apply (fuel + 1) base values
        = base.target.run (program.answer fuel) all := applyBinding_eq hcount' hall
    exact hbase ▸ hwelcomes (fuel + 1) world base params result values hguest hvalues
  · have hslots : base.slots = List.replicate (values.map some).length none := by
      rw [hmakes.slots, List.length_map, hvalues.length_eq]
    rw [hslots, Binding.fillSlots_replicate] at hall
    obtain rfl := List.map_injective_iff.mpr (fun _ _ => Option.some.inj) hall
    exact yields_run_of_makes h hserves hmakes hvalues

/-- With any fuel, requests are answered as their types say. -/
theorem serves_answer (hplain : ∀ entity, program.override? entity = none)
    (hfresh : ∀ other, other = program.module ∨ other ∈ program.module.reachable → other.Fresh)
    (hwelcomes : h.Welcomes guests) (fuel : Nat) :
  (h.realm guests).Serves (program.answer fuel)
  := by
  induction fuel with
  | zero =>
    constructor
    case call => exact fun _ _ _ _ => Discipline.keeps_outOfFuel
    case apply => exact fun _ _ _ _ _ _ _ => Discipline.keeps_outOfFuel
    case literal => exact fun _ _ _ _ => Discipline.keeps_outOfFuel
  | succ fuel ih =>
    constructor
    case call =>
      intro world entry signature chosen args hdeclares hsignature hchoice hargs
      exact Discipline.Keeps.inFrame (yields_evalEntity ih (hosts_realm h) h rfl hplain hfresh
        hdeclares hsignature hchoice hargs fuel)
    case apply => exact answers_apply h hwelcomes ih
    case literal =>
      intro world type form text σ hformed hform haccepts hσ
      exact yields_decode ih (hosts_realm h) h rfl hformed hform haccepts hσ

end Answers

/-- Whether a binding has an open slot for each argument of a function type and takes inhabitants
of the arguments to inhabitants of the result, whatever is chosen for the type's own parameters. -/
structure Realm.Maps (realm : Realm) (program : Program) (world : World) (binding : Binding)
    (type : FunctionType) : Prop where
  slots : binding.openSlots = type.args.length
  yields : ∀ chosen values fuel, realm.Choice type.typeParams.length chosen →
    realm.InhabitAll world values (type.ground chosen).args →
    realm.Yields EvalCause.Tolerated world (program.apply fuel binding values)
      (type.ground chosen).output

/-- A signature without type parameters takes and returns what it says. -/
theorem Signature.Formed.ground_nil {library : Library} {signature : Signature}
    (h : signature.Formed library) (hparams : signature.typeParams = []) :
  signature.functionType.ground [] = ⟨false, [], signature.args, signature.output⟩
  := by
  have hnone : ∀ p, ¬(library.scopeOf signature.typeParams).allows p := by
    intro p hp
    rw [hparams] at hp
    exact List.not_mem_nil hp
  rw [h.ground (congrArg List.length hparams).symm, h.output.assign_eq hnone,
    List.map_congr_left fun arg harg => (h.args arg harg).assign_eq hnone _, List.map_id']

/-- What a module sees of a function of its own. -/
def Module.own (module : Module) (function : Function) : Visible :=
  ⟨⟨module.id, function.id⟩, .function, false⟩

/-- The library of an accepted module declares its own functions with their signatures. -/
theorem Accepted.declares_own {module : Module} (h : Accepted module) {function : Function}
    (hfunction : function ∈ module.functions) :
  module.library.Declares (module.own function)
    ∧ module.library.signature? (module.own function) = some function.signature
  := by
  have hd := definitionsOf?_self h.not_native
  have hmem : function.signature ∈ module.definitions.functions := List.mem_map_of_mem hfunction
  have hfound := (h.formed _ _ hd).distinct.function?_of_mem hmem
  constructor
  · exact .definitions h.not_native hd (mem_entries_function hmem) (by simp [Module.own])
  · exact Option.bind_eq_some_iff.mpr ⟨_, hd, hfound⟩

section Soundness

variable {program : Program} (haccepted : Accepted program.module)
  (hplain : ∀ entity, program.override? entity = none)
  (hfresh : ∀ other, other = program.module ∨ other ∈ program.module.reachable → other.Fresh)
  {guests : Guests} (hwelcomes : haccepted.Welcomes guests)

include hplain hfresh hwelcomes

/-- What inhabits a function type maps inhabitants to inhabitants. -/
theorem maps_of_inhabits {world : World} {type : FunctionType} {binding : Binding}
    (h : (haccepted.realm guests).Inhabits world type.toTy (.function binding)) :
  (haccepted.realm guests).Maps program world binding type
  := by
  obtain ⟨_, e, happlies⟩ := inhabits_toTy_iff.mp h
  cases e
  constructor
  case slots =>
    have hopen := (happlies _ (choice_integers _ _)).openSlots
    rwa [FunctionType.length_args_ground] at hopen
  case yields =>
    intro chosen values fuel hchosen hvalues
    have hserves := serves_answer haccepted hplain hfresh hwelcomes fuel
    exact hserves.apply world binding _ _ values (happlies chosen hchosen) hvalues

/-- The interpretation of a function without type parameters is sound, in an accepted module and
without overrides, if the methods of all interfaces that are reached leave the invented name free.
Given inhabitants of the types of the arguments, and a store whose builders hold what the world
says, it yields an inhabitant of the declared type and leaves builders that hold what a larger
world says, or it ends because a failure was assumed to be a success or a `requires` block refused
a literal, or its fuel runs out.  What inhabits a function type, among the arguments or in what is
yielded, maps inhabitants to inhabitants. -/
theorem type_soundness {function : Function} (hfunction : function ∈ program.module.functions)
    (hparams : function.typeParams = []) {world : World} {args : List Value}
    (hargs : (haccepted.realm guests).InhabitAll world args (function.args.map (·.type)))
    (fuel : Nat) :
  (haccepted.realm guests).Yields EvalCause.Tolerated world
      (program.interpret fuel function.id args) function.output
    ∧ ∀ (later : World) (type : FunctionType) (binding : Binding),
      (haccepted.realm guests).Inhabits later type.toTy (.function binding) →
      (haccepted.realm guests).Maps program later binding type
  := by
  obtain ⟨hdeclares, hsignature⟩ := haccepted.declares_own hfunction
  have hcount : [].length = function.signature.typeParams.length :=
    (congrArg List.length hparams).symm
  have hground := (haccepted.formed.signature hsignature).ground_nil hparams
  have hargs : (haccepted.realm guests).InhabitAll world args
      (function.signature.functionType.ground []).args := by
    rwa [hground]
  have hcall := (serves_answer haccepted hplain hfresh hwelcomes fuel).call hdeclares hsignature
    ⟨hcount, fun _ hc => absurd hc List.not_mem_nil⟩ hargs
  rw [hground] at hcall
  exact ⟨hcall, fun _ _ _ h => maps_of_inhabits haccepted hplain hfresh hwelcomes h⟩

end Soundness

/-- Whether a function takes nothing and is declared to return an integer. -/
def Function.isConstant (function : Function) : Bool :=
  function.typeParams.isEmpty && function.args.isEmpty && function.output.same .integer

theorem Function.isConstant_iff {function : Function} :
  function.isConstant = true
    ↔ function.typeParams = [] ∧ function.args = [] ∧ function.output = .integer
  := by
  have hinteger : function.output.same .integer = true ↔ function.output = .integer := by
    cases function.output <;> simp [Ty.same]
  simp only [isConstant, Bool.and_eq_true, List.isEmpty_iff, hinteger, and_assoc]

instance (module : Module) : Decidable module.Fresh :=
  inferInstanceAs (Decidable (∀ _ ∈ _, ∀ _ ∈ _, _))

/-- A context with the interface `I`, whose method `m<B>(x: B): B` leaves the invented name free,
and the function `sum(): Integer`, which adds 2 and 3. -/
def sumContext : Context where
  interfaces := [{
      id := ⟨["I"]⟩
      typeParams := []
      methods := [{
          name := "m"
          typeParams := [⟨"B", none⟩]
          args := [⟨"x", .named false ⟨none, ⟨["B"]⟩⟩ [] none, none⟩]
          output := .named false ⟨none, ⟨["B"]⟩⟩ [] none }]
      annotations := []
      location := none }]
  functions := [{
      id := ⟨["sum"]⟩
      typeParams := []
      args := []
      output := .integer
      body := .mk [.bare (.call ⟨none, ⟨["Integer", "plus"]⟩⟩
        [.literal .integer "2" none, .literal .integer "3" none] [] none)] none
      annotations := []
      location := none }]

theorem type_soundness_sum :
  ∃ (module : Module) (function : Function) (haccepted : Accepted module),
    module.Fresh ∧ module.interfaces ≠ [] ∧ function ∈ module.functions
      ∧ function.typeParams = [] ∧ function.args = []
      ∧ ∀ fuel, (haccepted.realm .none).Yields EvalCause.Tolerated []
        (Program.interpret { module := module } fuel function.id []) .integer
  := by
  have hsum : (validate 0 sumContext ⟨"example", "sum"⟩ [] {}).module?.any (fun module =>
      decide module.Fresh && !module.interfaces.isEmpty && module.reachable.isEmpty
        && module.functions.any Function.isConstant) = true := by
    decide +kernel
  obtain ⟨module, warnings, h, hsum⟩ := Verdict.exists_success hsum
  have haccepted := Accepted.alone h
  simp only [Bool.and_eq_true, decide_eq_true_eq, Bool.not_eq_true', List.isEmpty_iff,
    List.isEmpty_eq_false_iff, List.any_eq_true, Function.isConstant_iff] at hsum
  obtain ⟨⟨⟨hfresh, hinterfaces⟩, hreachable⟩, function, hfunction, hparams, hargs, houtput⟩ := hsum
  have hreached : ∀ other, other = module ∨ other ∈ module.reachable → other.Fresh := by
    simpa [hreachable] using hfresh
  have hwelcomes : @Accepted.Welcomes { module := module } haccepted .none :=
    fun _ _ _ _ _ _ hcallable => hcallable.elim
  have hvalues : (haccepted.realm .none).InhabitAll [] [] (function.args.map (·.type)) := by
    rw [hargs]
    exact .nil
  refine ⟨module, function, haccepted, hfresh, hinterfaces, hfunction, hparams, hargs, ?_⟩
  intro fuel
  rw [← houtput]
  exact (@type_soundness { module := module } haccepted (fun _ => rfl) hreached .none hwelcomes
    function hfunction hparams [] [] hvalues fuel).1

end TypedModules
