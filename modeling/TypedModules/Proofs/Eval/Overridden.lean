import TypedModules.Proofs.Alias.Sharing
import TypedModules.Proofs.Eval.Mirrored

/-!
# Faithful overrides are not observable

Code that stands in for the body of a function may do anything: it is called with the arguments, and
may ask for whatever a body may ask for, also for the function itself.  It is faithful if it ends as
the body would where both run among the same stand-ins, up to the numbers of the list builders that
are created on the way.  A `Machine` runs such code in place of bodies; the machine of a program
runs its native functions.  If all the code is faithful then whatever ends without it ends with it
and in the same way (`overrides_unobservable`): step by step the evaluation with the code mirrors
the one without, and at a function with a stand-in it goes on from where its body would have ended.
-/

namespace TypedModules

open Mirror

/-! ### Machines -/

/-- Code that stands in for the body of a function: what it makes of arguments, with answers to what
it asks for and with some fuel. -/
abbrev Implementation := (Request → Eval Value) → Nat → List Value → Eval Value

/-- The function of a module with those on which it depends, the native one excepted, that an entity
is. -/
def Module.ownFunction? (module : Module) (entity : Entity) : Option Function :=
  if entity.module.isNative then none
  else (module.find? entity.module).bind (·.function? entity.id)

/-- What evaluation takes place in, where any code may stand in for the body of a function. -/
structure Machine where
  module : Module
  table : Entity → Option Implementation
  enabled : Bool

namespace Machine

/-- The program without anything that stands in for a body. -/
def plain (machine : Machine) : Program :=
  { module := machine.module, useOverrides := false }

/-- The code that is run in place of the body of a function. -/
def code? (machine : Machine) (entity : Entity) : Option Implementation :=
  if machine.enabled then (machine.module.ownFunction? entity).bind fun _ => machine.table entity
  else none

/-- The value of an entity. -/
def evalEntity (machine : Machine) (ask : Request → Eval Value) (fuel : Nat) (entity : Entity)
    (args : List Value) : Eval Value :=
  match machine.code? entity with
  | some code => code ask fuel args
  | none => TypedModules.evalEntity machine.plain ask fuel entity args

/-- The answer to a request, with the help of answers to others. -/
def step (machine : Machine) (fuel : Nat) (ask : Request → Eval Value) : Request → Eval Value
  | .call entity args => .inFrame entity (machine.evalEntity ask fuel entity args)
  | .apply binding args => applyBinding ask binding args
  | .literal type text => decode machine.plain ask type text

/-- The answer to a request, with at most `fuel` steps inside one another. -/
def answer (machine : Machine) : (fuel : Nat) → Request → Eval Value
  | 0, _ => throw .outOfFuel
  | fuel + 1, request => machine.step fuel (machine.answer fuel) request

end Machine

/-- The machine that runs the native functions of a program. -/
def Program.machine (program : Program) : Machine where
  module := program.module
  table entity := (program.overrides.get? entity).map fun native ask fuel args =>
    native.run ask fuel args
  enabled := program.useOverrides

theorem evalEntity_of_ownFunction? {program : Program} {entity : Entity} {function : Function}
    (h : program.module.ownFunction? entity = some function) (ask : Request → Eval Value)
    (fuel : Nat) (args : List Value) :
  evalEntity program ask fuel entity args = match program.override? entity with
    | some native => native.run ask fuel args
    | none => callFunction ask function args
  := by
  unfold Module.ownFunction? at h
  split at h
  · cases h
  next hnative =>
    obtain ⟨module, hmodule, hfunction⟩ := Option.bind_eq_some_iff.mp h
    have hdeclared : evalEntity program ask fuel entity args
        = evalDeclared program ask fuel module entity args := by
      rw [evalEntity, if_neg hnative, hmodule]
    rw [hdeclared]
    cases hoverride : program.override? entity <;>
      simp only [evalDeclared, hfunction, hoverride]

/-- What stands in for bodies does not matter to entities that are no functions. -/
theorem evalEntity_of_not_ownFunction? {program other : Program} {entity : Entity}
    (h : program.module.ownFunction? entity = none) (hmodule : other.module = program.module)
    (ask : Request → Eval Value) (fuel : Nat) (args : List Value) :
  evalEntity program ask fuel entity args = evalEntity other ask fuel entity args
  := by
  unfold Module.ownFunction? at h
  unfold evalEntity
  split
  · rfl
  next hnative =>
    rw [if_neg hnative] at h
    rw [hmodule]
    cases hfound : program.module.find? entity.module with
    | none => rfl
    | some module =>
      rw [hfound, Option.bind_some] at h
      simp only [evalDeclared, h]

theorem evalEntity_machine (program : Program) (ask : Request → Eval Value) (fuel : Nat)
    (entity : Entity) (args : List Value) :
  program.machine.evalEntity ask fuel entity args = evalEntity program ask fuel entity args
  := by
  have hplain : program.machine.plain.module = program.module := rfl
  unfold Machine.evalEntity Machine.code?
  cases h : program.module.ownFunction? entity with
  | none =>
    have hnone : program.machine.module.ownFunction? entity = none := h
    rw [hnone, evalEntity_of_not_ownFunction? h hplain]
    simp only [Option.bind_none, ite_self]
  | some function =>
    have hsome : program.machine.module.ownFunction? entity = some function := h
    have hbody : program.machine.plain.module.ownFunction? entity = some function := h
    rw [hsome, evalEntity_of_ownFunction? h, evalEntity_of_ownFunction? hbody]
    obtain ⟨module, overrides, _ | _⟩ := program
    · rfl
    · simp only [Option.bind_some, Program.machine, Program.override?, if_true]
      cases overrides.get? entity <;> rfl

/-- The machine of a program answers as the program does. -/
theorem answer_machine (program : Program) (fuel : Nat) (request : Request) :
  program.machine.answer fuel request = program.answer fuel request
  := by
  induction fuel generalizing request with
  | zero => rfl
  | succ fuel ih =>
    have hanswers : program.machine.answer fuel = program.answer fuel := funext ih
    cases request with
    | call entity args =>
      show Eval.inFrame entity (program.machine.evalEntity _ fuel entity args) = .inFrame entity _
      rw [hanswers, evalEntity_machine]
    | apply binding args => exact congrArg (applyBinding · binding args) hanswers
    | literal type text =>
      exact congrArg (TypedModules.decode program.machine.plain · type text) hanswers

/-- Machines answer in the same way if the same code stands in for the same functions of the same
modules. -/
theorem answer_congr {machine other : Machine} (hplain : machine.plain = other.plain)
    (hcode : ∀ entity, machine.code? entity = other.code? entity) :
  machine.answer = other.answer
  := by
  have hstep : machine.step = other.step := by
    funext fuel ask request
    cases request with
    | call entity args => simp only [Machine.step, Machine.evalEntity, hplain, hcode]
    | apply binding args => rfl
    | literal type text => simp only [Machine.step, hplain]
  funext fuel
  induction fuel with
  | zero => rfl
  | succ fuel ih =>
    funext request
    show machine.step fuel (machine.answer fuel) request
      = other.step fuel (other.answer fuel) request
    rw [hstep, ih]

/-! ### Faithful code -/

/-- Whether two outcomes are the same, where that many builders existed before: the same value or
the same cause of failure, and builders with the same contents, up to the numbers of the builders
that are new. -/
def SameOutcome (count : Nat) (outcome other : Except Halt Value × Store) : Prop :=
  ∃ pairing : Pairing, pairing.Extends (.same count)
    ∧ EndsAlike (fun e e' => e.cause = e'.cause) (Value.Like pairing) outcome.1 other.1
    ∧ outcome.2.Like pairing other.2

/-- Whether all code that stands in for the body of a function ends as the body does, among the same
stand-ins, and leaves no builder that holds one which does not exist. -/
def Machine.Faithful (machine : Machine) : Prop :=
  ∀ entity function code, machine.module.ownFunction? entity = some function →
    machine.table entity = some code →
    ∀ args store, store.Closed → (∀ arg ∈ args, store.Covers arg) →
    ∀ outcome,
      Settles (fun fuel => callFunction (machine.answer fuel) function args) store outcome →
      outcome.1 ≠ .error .outOfFuel →
      ∃ other, Settles (fun fuel => code (machine.answer fuel) fuel args) store other
        ∧ SameOutcome store.next outcome other ∧ other.2.Closed

/-! ### Stores in which all builders exist -/

section Closed

variable {store : Store}

theorem Store.Closed.fits (h : store.Closed) :
  (Region.whole fun _ => True).Fits store.next store
  := Region.fits_whole (fun _ value _ => (holds_of_forall fun _ => trivial).1 value) h

theorem Store.Closed.create (h : store.Closed) :
  store.create.Closed
  := h.fits.create.closed

theorem Store.Closed.append (h : store.Closed) {number : Nat} {items : List Value}
    (hitems : ∀ item ∈ items, store.Covers item) :
  (store.append number items).Closed
  := by
  refine (h.fits.append trivial fun item hitem => ?_).closed
  exact Region.holds_whole ((holds_of_forall fun _ => trivial).1 item) (hitems item hitem)

/-- A value whose builders all exist agrees with itself. -/
theorem Store.Covers.like {value : Value} (h : store.Covers value) :
  value.Like (.same store.next) value
  := by
  refine Value.alike_self_iff.mpr fun part hpart => ?_
  cases part with
  | builder number => exact ⟨rfl, h number ((store.reaches_builder number).of_contains hpart)⟩
  | _ => trivial

theorem Store.Closed.like (h : store.Closed) :
  store.Like (.same store.next) store
  := by
  refine ⟨rfl, rfl, ?_⟩
  rintro number _ ⟨rfl, -⟩
  exact List.forall₂_same.mpr fun item hitem => (h number item hitem).like

/-- All builders of a value exist that agrees with another. -/
theorem Store.Closed.covers {pairing : Pairing} {v w : Value} (h : store.Closed)
    (hnext : store.next = pairing.right) (hlike : v.Like pairing w) :
  store.Covers w
  := by
  refine h.fits.covers fun part hpart => ⟨fun _ _ => trivial, fun _ _ _ => trivial, ?_⟩
  intro number hnumber
  have hself := Value.alike_self_iff.mp (hlike.symm.comp hlike) part hpart
  obtain rfl := Value.eq_builder_of_builder? hnumber
  obtain ⟨_, -, hpair⟩ := hself
  exact ⟨trivial, fun _ => hnext ▸ (pairing.bounded hpair).2⟩

end Closed

/-! ### Evaluation with faithful code -/

/-- Errors agree if they have the same cause, and on the right all builders are minded to exist. -/
def causeMirror : Mirror where
  errors e e' := e.cause = e'.cause
  minds _ store := store.Closed
  errors_new _ := rfl
  errors_leaving _ h := h
  minds_create _ hclosed := hclosed.create
  minds_append hnext _ hitems hclosed := hclosed.append fun item hitem =>
    have ⟨_, hlike⟩ := hitems item hitem
    hclosed.covers hnext hlike

section Faithful

variable {machine : Machine} {pairing : Pairing} {args args' : List Value}

theorem EndsAlike.trans {α β γ : Type} {related : α → β → Prop} {related' : β → γ → Prop}
    {related'' : α → γ → Prop} {result : Except Halt α} {other : Except Halt β}
    {last : Except Halt γ} (h : EndsAlike (fun e e' => e.cause = e'.cause) related result other)
    (h' : EndsAlike (fun e e' => e.cause = e'.cause) related' other last)
    (htrans : ∀ a b c, related a b → related' b c → related'' a c) :
  EndsAlike (fun e e' => e.cause = e'.cause) related'' result last
  := by
  cases h with
  | ok hab =>
    cases h' with
    | ok hbc => exact .ok (htrans _ _ _ hab hbc)
  | error he =>
    cases h' with
    | error he' => exact .error (he.trans he')

/-- Where the body of a function is mirrored, so it is by faithful code in its place. -/
theorem Machine.Faithful.simulates (h : machine.Faithful) {entity : Entity} {function : Function}
    {code : Implementation} (hfunction : machine.module.ownFunction? entity = some function)
    (hcode : machine.table entity = some code) {run : Eval Value}
    (hargs : ValuesLike pairing args args')
    (hrun : causeMirror.Simulates pairing run
      (fun fuel => callFunction (machine.answer fuel) function args') Value.Like) :
  causeMirror.Simulates pairing run (fun fuel => code (machine.answer fuel) fuel args') Value.Like
  := by
  intro store start hfits hends
  obtain ⟨later, body, hlater, hbody, hresult, hlast⟩ := hrun store start hfits hends
  have hcovers : ∀ arg ∈ args', start.Covers arg :=
    forall_of_related hargs fun _ _ hlike => hfits.minded.covers hfits.right hlike
  obtain ⟨other, hother, ⟨between, hbetween, hsame, hstores⟩, hclosed⟩ :=
    h entity function code hfunction hcode args' start hfits.minded hcovers body hbody hresult.ends
  rw [hfits.right] at hbetween
  exact ⟨later.comp between, other, hlater.comp hbetween, hother,
    hresult.trans hsame fun _ _ _ hvw hwu => hvw.comp hwu, hlast.toLike.comp hstores, hclosed⟩

/-- The answers without stand-ins are mirrored by those with faithful code. -/
theorem Machine.Faithful.answers (h : machine.Faithful) (fuel : Nat) :
  causeMirror.Answers (machine.plain.answer fuel) machine.answer
  := by
  induction fuel with
  | zero => exact fun _ _ _ _ => simulates_outOfFuel
  | succ fuel ih =>
    intro pairing request other hrequest
    apply Simulates.of_succ
    cases hrequest with
    | apply hfg hargs => exact simulates_applyBinding ih hfg hargs
    | literal type text => exact simulates_decode ih machine.plain type text
    | @call entity args args' hargs =>
      apply Simulates.inFrame entity
      unfold Machine.evalEntity
      cases hcode : machine.code? entity with
      | none => exact simulates_evalEntity ih machine.plain fuel entity hargs
      | some code =>
        unfold Machine.code? at hcode
        split at hcode
        · obtain ⟨function, hfunction, htable⟩ := Option.bind_eq_some_iff.mp hcode
          have hplain : machine.plain.module.ownFunction? entity = some function := hfunction
          rw [evalEntity_of_ownFunction? hplain]
          exact h.simulates hfunction htable hargs (simulates_callFunction ih function hargs)
        · cases hcode

end Faithful

/-- Faithful code in place of the bodies of functions is not observable.  Whatever ends without it,
for whatever arguments, ends with it with the same value or the same cause and with builders that
hold the same.  An entry for what is no function of a module never matters, and where overrides are
not used no entry does.  A program does what its machine does. -/
theorem overrides_unobservable :
  (∀ machine : Machine, machine.Faithful →
      ∀ entity args store, store.Closed → (∀ arg ∈ args, store.Covers arg) →
      ∀ fuel, ((machine.plain.evaluate fuel entity args).outcome store).1 ≠ .error .outOfFuel →
        ∃ other, Settles (fun fuel => machine.answer fuel (.call entity args)) store other
          ∧ SameOutcome store.next ((machine.plain.evaluate fuel entity args).outcome store) other)
    ∧ (∀ machine other : Machine, machine.module = other.module → machine.enabled = other.enabled →
      (∀ entity, (machine.module.ownFunction? entity).isSome →
        machine.table entity = other.table entity) →
      machine.answer = other.answer)
    ∧ (∀ machine : Machine, machine.enabled = false → machine.answer = machine.plain.answer)
    ∧ ∀ program : Program, program.machine.answer = program.answer
  := by
  refine ⟨?faithful, ?others, ?disabled, fun program => funext₂ (answer_machine program)⟩
  case faithful =>
    intro machine hfaithful entity args store hclosed hcovers fuel hends
    have hargs : ValuesLike (.same store.next) args args :=
      List.forall₂_same.mpr fun arg harg => (hcovers arg harg).like
    obtain ⟨later, other, hlater, hother, hresult, hlast⟩ :=
      hfaithful.answers fuel _ _ _ (.call entity hargs) store store ⟨hclosed.like, hclosed⟩ hends
    exact ⟨other, hother, later, hlater, hresult, hlast.toLike⟩
  case others =>
    intro machine other hmodule henabled htable
    have hcode : ∀ entity, machine.code? entity = other.code? entity := by
      intro entity
      unfold Machine.code?
      rw [← hmodule, ← henabled]
      cases h : machine.module.ownFunction? entity with
      | none => rfl
      | some function => rw [Option.bind_some, Option.bind_some, htable entity (by rw [h]; rfl)]
    have hplain : machine.plain = other.plain := by rw [Machine.plain, hmodule]; rfl
    exact answer_congr hplain hcode
  case disabled =>
    intro machine hdisabled
    rw [← funext₂ (answer_machine machine.plain)]
    refine answer_congr rfl fun entity => ?_
    rw [Machine.code?, hdisabled]
    rfl

/-! ### An override that spares a literal -/

/-- A context with the function `one(): Integer`, whose body is the literal 1. -/
def oneContext : Context where
  functions := [{
      id := ⟨["one"]⟩
      typeParams := []
      args := []
      output := .integer
      body := .mk [.bare (.literal .integer "1" none)] none
      annotations := []
      location := none }]

/-- Whether a function takes nothing and its body is the literal 1. -/
def Function.isOne (function : Function) : Bool :=
  match function.args, function.body with
  | [], .mk [] (.mk .integer _ (.literal "1")) => true
  | _, _ => false

/-- Code that returns 1 at once, with the arity of a function. -/
def Function.oneCode (function : Function) : Implementation := fun _ _ args => do
  .checkArity function.id.text function.args.length args.length
  return .integer 1

/-- Code that returns 1 at once in place of all functions of a module. -/
def oneMachine (module : Module) : Machine where
  module := module
  table entity := (module.ownFunction? entity).map Function.oneCode
  enabled := true

theorem decode_one (program : Program) (ask : Request → Eval Value) :
  decode program ask .integer "1" = pure (.integer 1)
  := by
  have hone : parseInteger? (Text.trim "1".toList) = some 1 := by decide
  show primitiveLiteral .integer "1" ((parseInteger? (Text.trim "1".toList)).map .integer) = _
  rw [hone]
  rfl

theorem args_of_isOne {function : Function} (h : function.isOne = true) :
  function.args = []
  := by
  unfold Function.isOne at h
  split at h
  · assumption
  · cases h

theorem callFunction_of_isOne {function : Function} (h : function.isOne = true)
    {ask : Request → Eval Value} (hask : ask (.literal .integer "1") = pure (.integer 1))
    (fuel : Nat) (args : List Value) :
  callFunction ask function args = function.oneCode ask fuel args
  := by
  unfold Function.isOne at h
  split at h
  next hargs hbody =>
    have hcall : ∀ values, callBody ask function.args function.body values = pure (.integer 1) := by
      intro values
      rw [hbody]
      exact hask
    simp only [callFunction, hcall, Function.oneCode]
  · cases h

/-- What returns at once leaves the store as it is. -/
theorem sameOutcome_oneCode (function : Function) (ask : Request → Eval Value) (fuel : Nat)
    (args : List Value) {store : Store} (hclosed : store.Closed) :
  SameOutcome store.next ((function.oneCode ask fuel args).outcome store)
      ((function.oneCode ask fuel args).outcome store)
    ∧ ((function.oneCode ask fuel args).outcome store).2.Closed
  := by
  unfold Function.oneCode Eval.checkArity
  split
  · exact ⟨⟨.same store.next, .refl _, .ok (.integer 1), hclosed.like⟩, hclosed⟩
  · exact ⟨⟨.same store.next, .refl _, .error rfl, hclosed.like⟩, hclosed⟩

theorem faithful_one {module : Module}
    (h : ∀ other, other = module ∨ other ∈ module.reachable →
      ∀ function ∈ other.functions, function.isOne = true) :
  (oneMachine module).Faithful
  := by
  intro entity function code hfunction hcode args store hclosed _ outcome hbody _
  have hone : function.isOne = true := by
    unfold Module.ownFunction? at hfunction
    split at hfunction
    · cases hfunction
    · obtain ⟨owner, howner, hfound⟩ := Option.bind_eq_some_iff.mp hfunction
      exact h owner (Module.mem_of_find? howner).1 function (List.mem_of_find?_eq_some hfound)
  have htable : (oneMachine module).table entity = some function.oneCode :=
    congrArg (Option.map Function.oneCode) hfunction
  obtain rfl := Option.some.inj (htable.symm.trans hcode)
  have hequal : ∀ fuel, 1 ≤ fuel → callFunction ((oneMachine module).answer fuel) function args
      = function.oneCode ((oneMachine module).answer fuel) fuel args := by
    intro fuel hfuel
    obtain ⟨less, rfl⟩ := Nat.exists_eq_add_of_le' hfuel
    have hliteral : (oneMachine module).answer (less + 1) (.literal .integer "1")
        = pure (.integer 1) :=
      decode_one (oneMachine module).plain ((oneMachine module).answer less)
    exact callFunction_of_isOne hone hliteral (less + 1) args
  obtain ⟨enough, hsettles⟩ := hbody
  have houtcome :
      (callFunction ((oneMachine module).answer (enough + 1)) function args).outcome store
        = outcome :=
    hsettles (enough + 1) (Nat.le_succ enough)
  rw [hequal _ (Nat.le_add_left 1 enough)] at houtcome
  obtain ⟨hsame, hkept⟩ := sameOutcome_oneCode function ((oneMachine module).answer (enough + 1))
    (enough + 1) args hclosed
  rw [houtcome] at hsame hkept
  refine ⟨outcome, ⟨enough + 1, fun fuel hfuel => ?_⟩, hsame, hkept⟩
  dsimp only
  rw [← hequal fuel (by omega)]
  exact hsettles fuel (by omega)

theorem overrides_unobservable_one :
  ∃ (module : Module) (entity : Entity), Accepted module
    ∧ (oneMachine module).Faithful ∧ ((oneMachine module).code? entity).isSome
    ∧ ∃ other, Settles (fun fuel => (oneMachine module).answer fuel (.call entity [])) {} other
      ∧ SameOutcome 0 (.ok (.integer 1), {}) other
  := by
  have hone : (validate 0 oneContext ⟨"example", "one"⟩ [] {}).module?.any (fun module =>
      module.reachable.isEmpty && module.functions.length == 1
        && module.functions.all Function.isOne) = true := by
    decide +kernel
  obtain ⟨module, warnings, h, hone⟩ := Verdict.exists_success hone
  simp only [Bool.and_eq_true, List.isEmpty_iff, beq_iff_eq, List.all_eq_true] at hone
  obtain ⟨⟨hreachable, hlength⟩, hone⟩ := hone
  obtain ⟨function, hfunctions⟩ := List.length_eq_one_iff.mp hlength
  have haccepted := Accepted.alone h
  have hfaithful : (oneMachine module).Faithful := by
    refine faithful_one ?_
    simpa [hreachable] using hone
  have hfunction : module.ownFunction? ⟨module.id, function.id⟩ = some function := by
    simp [Module.ownFunction?, haccepted.not_native, Module.find?_self, Module.function?,
      hfunctions]
  have hplain : (oneMachine module).plain.module.ownFunction? ⟨module.id, function.id⟩
      = module.ownFunction? ⟨module.id, function.id⟩ := rfl
  have hcode : (oneMachine module).code? ⟨module.id, function.id⟩ = some function.oneCode := by
    simp [Machine.code?, oneMachine, hfunction]
  have hends : ((oneMachine module).plain.evaluate 2 ⟨module.id, function.id⟩ []).outcome {}
      = (.ok (.integer 1), {}) := by
    have hbody := evalEntity_of_ownFunction? (hplain.trans hfunction)
      ((oneMachine module).plain.answer 1) 1 []
    have hliteral : (oneMachine module).plain.answer 1 (.literal .integer "1")
        = pure (.integer 1) :=
      decode_one (oneMachine module).plain ((oneMachine module).plain.answer 0)
    have hvalue := callFunction_of_isOne (hone function (by simp [hfunctions])) hliteral 1 []
    have hargs : function.args = [] := args_of_isOne (hone function (by simp [hfunctions]))
    have hrun : evalEntity (oneMachine module).plain ((oneMachine module).plain.answer 1) 1
        ⟨module.id, function.id⟩ [] = function.oneCode ((oneMachine module).plain.answer 1) 1 [] :=
      hbody.trans hvalue
    show (Eval.inFrame _ (evalEntity (oneMachine module).plain _ 1 _ [])).outcome {} = _
    rw [hrun, Function.oneCode, hargs]
    rfl
  refine ⟨module, ⟨module.id, function.id⟩, haccepted, hfaithful, by rw [hcode]; rfl, ?_⟩
  have hsettles := overrides_unobservable.1 (oneMachine module) hfaithful
    ⟨module.id, function.id⟩ [] {} (by simp [Store.Closed, Store.items]) (by simp) 2
    (by simp [hends])
  rw [hends] at hsettles
  exact hsettles

end TypedModules
