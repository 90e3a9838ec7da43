import TypedModules.Proofs.Eval.Determined
import TypedModules.Proofs.Eval.Overridden
import TypedModules.Proofs.Native.Positions

/-!
# List builders are shared logs

A run calls functions of list builders one after another: `Program.Performs` says which, with what
they are given and how they end.  Each builder is a log of what these calls append to it, through
whichever values it is reached: building a list answers with all that has been appended to the
builder so far and takes nothing away, and a new builder has a number that no value had before.  The
invariant of the run is that all builders that it can reach exist.  Main statement:
`builders_are_shared_logs`.
-/

namespace TypedModules

/-! ### Calls and what they append -/

/-- What is done with list builders. -/
inductive BuilderUse where
  | create
  | append (target : Nat) (items : List Value)
  | build (target : Nat)

/-- The value that something done with list builders has, and the store that it leaves. -/
def BuilderUse.effect (store : Store) : BuilderUse → Value × Store
  | create => (.builder store.next, store.create)
  | append target items => (.builder target, store.append target items)
  | build target => (.list (store.items target), store)

/-- Whether the list builder with which something is done exists. -/
def BuilderUse.Stands (count : Nat) : BuilderUse → Prop
  | create => True
  | append target _ => target < count
  | build target => target < count

/-- What a native function does with list builders, if the arguments are right. -/
def NativeFunction.builderUse? : NativeFunction → List Value → Option BuilderUse
  | builderCreate, [] => some .create
  | builderAppend, [.builder target, item] => some (.append target [item])
  | builderAppendAll, [.builder target, .list items] => some (.append target items)
  | builderBuild, [.builder target] => some (.build target)
  | _, _ => none

/-- A call of a function of list builders, and how it ends. -/
structure BuilderCall where
  function : NativeFunction
  args : List Value
  result : Except Halt Value

namespace BuilderCall

/-- What a call does with list builders. -/
def use? (call : BuilderCall) : Option BuilderUse :=
  call.function.builderUse? call.args

/-- The items that a call appends to a builder. -/
def appends (call : BuilderCall) (number : Nat) : List Value :=
  match call.use? with
  | some (.append target items) => if target = number then items else []
  | _ => []

/-- Whether a call makes a new builder. -/
def creates (call : BuilderCall) : Bool :=
  match call.use? with
  | some .create => true
  | _ => false

end BuilderCall

/-- The items that calls append to a builder, in order. -/
def appended (calls : List BuilderCall) (number : Nat) : List Value :=
  calls.flatMap (·.appends number)

/-- The number of builders that calls make. -/
def created (calls : List BuilderCall) : Nat :=
  calls.countP (·.creates)

/-- Whether a call that follows others since a store was left ends as the logs say: a new builder
has the next number, appending answers with the builder that it is given, and building a list with
what the builder held and what has been appended to it since.  Other arguments are an error. -/
def BuilderCall.Answered (store : Store) (before : List BuilderCall) (call : BuilderCall) : Prop :=
  match call.use? with
  | some .create => call.result = .ok (.builder (store.next + created before))
  | some (.append target _) =>
    target < store.next + created before ∧ call.result = .ok (.builder target)
  | some (.build target) =>
    target < store.next + created before
      ∧ call.result = .ok (.list (store.items target ++ appended before target))
  | none => ∃ error, call.result = .error (.error error)

/-- Whether calls lead from one store to another as the logs say. -/
structure Logged (store : Store) (calls : List BuilderCall) (last : Store) : Prop where
  answered : ∀ before call rest, calls = before ++ call :: rest → call.Answered store before
  items : ∀ number, last.items number = store.items number ++ appended calls number
  next : last.next = store.next + created calls

section Logged

variable {store between last : Store}

theorem appended_append (calls rest : List BuilderCall) (number : Nat) :
  appended (calls ++ rest) number = appended calls number ++ appended rest number
  := List.flatMap_append

theorem created_append (calls rest : List BuilderCall) :
  created (calls ++ rest) = created calls + created rest
  := List.countP_append

theorem Logged.nil (store : Store) :
  Logged store [] store
  := ⟨by simp, by simp [appended], by simp [created]⟩

/-- What ends as the logs say after some calls does so after these and those before them. -/
theorem BuilderCall.Answered.later {calls before : List BuilderCall} {call : BuilderCall}
    (hlogged : Logged store calls between) (h : call.Answered between before) :
  call.Answered store (calls ++ before)
  := by
  unfold Answered at h ⊢
  rw [hlogged.next] at h
  simp only [hlogged.items, appended_append, created_append, ← Nat.add_assoc,
    ← List.append_assoc] at h ⊢
  exact h

/-- Calls after others lead on as the logs say. -/
theorem Logged.append {calls rest : List BuilderCall} (h : Logged store calls between)
    (h' : Logged between rest last) :
  Logged store (calls ++ rest) last
  := by
  constructor
  case answered =>
    intro before call others e
    obtain ⟨firsts, rfl, hrest⟩ | ⟨firsts, rfl, hothers⟩ := List.append_eq_append_iff.mp e
    · exact .later h (h'.answered firsts call others hrest)
    · cases firsts with
      | nil =>
        rw [List.append_nil] at h
        rw [← List.append_nil before]
        exact .later h (h'.answered [] call others hothers.symm)
      | cons first firsts =>
        obtain ⟨rfl, -⟩ := List.cons.inj hothers
        exact h.answered before _ firsts rfl
  case items =>
    intro number
    rw [h'.items, h.items, appended_append, List.append_assoc]
  case next => rw [h'.next, h.next, created_append, Nat.add_assoc]

/-- One call leads on as the logs say if it ends so and changes the store so. -/
theorem Logged.singleton {call : BuilderCall} (hanswered : call.Answered store [])
    (hitems : ∀ number, last.items number = store.items number ++ call.appends number)
    (hnext : last.next = store.next + if call.creates then 1 else 0) :
  Logged store [call] last
  := by
  constructor
  case answered =>
    intro before other rest e
    obtain ⟨rfl, he⟩ | ⟨others, rfl, he⟩ := List.cons_eq_append_iff.mp e
    · obtain ⟨rfl, -⟩ := List.cons.inj he
      exact hanswered
    · simp at he
  case items => simpa [appended] using hitems
  case next => simpa [created, List.countP_singleton] using hnext

/-- What is done with a builder that exists is logged. -/
theorem logged_of_use {function : NativeFunction} {args : List Value} {use : BuilderUse}
    (huse : function.builderUse? args = some use) (hstands : use.Stands store.next) :
  Logged store [⟨function, args, .ok (use.effect store).1⟩] (use.effect store).2
  := by
  cases use with
  | create =>
    apply Logged.singleton <;>
      simp [BuilderCall.Answered, BuilderCall.appends, BuilderCall.creates, BuilderCall.use?, huse,
        BuilderUse.effect, created]
  | append target items =>
    have hlt : target < store.next := hstands
    apply Logged.singleton
    case hanswered =>
      simpa [BuilderCall.Answered, BuilderCall.use?, huse, BuilderUse.effect, created] using hlt
    case hitems =>
      intro number
      simp only [BuilderCall.appends, BuilderCall.use?, huse, BuilderUse.effect]
      split
      next e =>
        subst e
        rw [Store.items_append store target items hlt]
      next hne => rw [Store.items_append_of_ne store items (Ne.symm hne), List.append_nil]
    case hnext => simp [BuilderCall.creates, BuilderCall.use?, huse, BuilderUse.effect]
  | build target =>
    have hlt : target < store.next := hstands
    apply Logged.singleton
    case hanswered =>
      simpa [BuilderCall.Answered, BuilderCall.use?, huse, BuilderUse.effect, created, appended]
        using hlt
    all_goals
      simp [BuilderCall.appends, BuilderCall.creates, BuilderCall.use?, huse, BuilderUse.effect]

/-- What ends with an error is logged if it does nothing with builders. -/
theorem logged_of_error {function : NativeFunction} {args : List Value}
    (huse : function.builderUse? args = none) (error : EvalError) :
  Logged store [⟨function, args, .error (.error error)⟩] store
  := by
  apply Logged.singleton <;>
    simp [BuilderCall.Answered, BuilderCall.appends, BuilderCall.creates, BuilderCall.use?, huse]

end Logged

/-! ### One call -/

section Calls

variable {function : NativeFunction} (hbuilder : function.isBuilder = true) {args : List Value}

include hbuilder

theorem outcome_run_of_use {use : BuilderUse} (huse : function.builderUse? args = some use)
    (ask : Request → Eval Value) (fuel : Nat) (store : Store) :
  (function.run ask fuel args).outcome store = (.ok (use.effect store).1, (use.effect store).2)
  := by
  unfold NativeFunction.builderUse? at huse
  split at huse <;> cases huse <;> rfl

theorem run_of_no_use (huse : function.builderUse? args = none) (ask : Request → Eval Value)
    (fuel : Nat) :
  ∃ cause, function.run ask fuel args = .fail cause
  := by
  cases function
  case builderCreate =>
    rcases args with _ | ⟨first, rest⟩
    · cases huse
    · exact ⟨_, rfl⟩
  case builderAppend =>
    rcases args with _ | ⟨builder, _ | ⟨item, _ | ⟨third, rest⟩⟩⟩
    case cons.cons.nil => cases builder <;> first | exact ⟨_, rfl⟩ | cases huse
    all_goals exact ⟨_, rfl⟩
  case builderAppendAll =>
    rcases args with _ | ⟨builder, _ | ⟨list, _ | ⟨third, rest⟩⟩⟩
    case cons.cons.nil =>
      cases list <;> first | exact ⟨_, rfl⟩ | skip
      cases builder <;> first | exact ⟨_, rfl⟩ | cases huse
    all_goals exact ⟨_, rfl⟩
  case builderBuild =>
    rcases args with _ | ⟨builder, _ | ⟨second, rest⟩⟩
    case cons.nil => cases builder <;> first | exact ⟨_, rfl⟩ | cases huse
    all_goals exact ⟨_, rfl⟩
  all_goals cases hbuilder

end Calls

/-! ### The calls of a run -/

/-- Whether answering a request from a store with some fuel makes these calls of functions of list
builders, in order: a call of one is one, and anything else makes those that what it asks for
makes. -/
def Program.Performs (program : Program) : Nat → Request → Store → List BuilderCall → Prop
  | 0, _, _, calls => calls = []
  | fuel + 1, request, store, calls =>
    match program.builderCall? request with
    | some (function, args) =>
      calls = [⟨function, args, ((program.answer (fuel + 1) request).outcome store).1⟩]
    | none => ∃ asked parts,
      AsksFor (program.body fuel · request) (program.answer fuel) store asked
        ∧ List.Forall₂ (fun p part => program.Performs fuel p.1 p.2 part) asked parts
        ∧ calls = parts.flatten

/-- Whether every list builder that is reachable from a request, or from what builders hold,
exists. -/
structure Request.Stands (request : Request) (store : Store) : Prop where
  closed : store.Closed
  covers : ∀ value ∈ request.values, store.Covers value

section Performs

variable {program : Program} {fuel : Nat} {request : Request} {store : Store}

theorem Request.Stands.fits (h : request.Stands store) :
  (Region.whole fun _ => True).containment.fits store.next store
    ∧ (Region.whole fun _ => True).containment.Asked store.next request
  := by
  have hholds := holds_of_forall (P := fun _ => True) fun _ => trivial
  refine ⟨h.closed.fits, Region.asked_whole ?_ h.covers⟩
  cases request with
  | call entity args => exact fun arg _ => hholds.1 arg
  | apply binding args => exact ⟨hholds.2 binding, fun arg _ => hholds.1 arg⟩
  | literal type text => trivial

theorem Request.stands_of_fits {count : Nat}
    (hfits : (Region.whole fun _ => True).containment.fits count store)
    (hasked : (Region.whole fun _ => True).containment.Asked count request) :
  request.Stands store
  := by
  use Region.Fits.closed hfits
  cases request with
  | call entity args => exact fun arg harg => Region.Fits.covers hfits (hasked arg harg)
  | apply binding args =>
    rw [Request.values, List.forall_mem_cons]
    exact ⟨Region.Fits.covers hfits hasked.1,
      fun arg harg => Region.Fits.covers hfits (hasked.2 arg harg)⟩
  | literal type text => exact List.forall_mem_nil _

theorem hosts_whole (program : Program) :
  (Region.whole fun _ => True).containment.Hosts program
  := ((Region.whole fun _ => True).runsAll (fun _ => trivial) program).lenient (Region.lenient _)
    fun _ _ => trivial

/-- What is asked for on the way stands if the request does. -/
theorem Request.Stands.asked (h : request.Stands store) {asked : List (Request × Store)}
    (hasks : AsksFor (program.body fuel · request) (program.answer fuel) store asked) :
  ∀ p ∈ asked, p.1.Stands p.2
  := by
  intro p hp
  obtain ⟨_, hfits, hasked⟩ := Containment.asked_of_asks
    (Containment.answers_program (hosts_whole program) fuel)
    (fun other hother =>
      Containment.answers_step (hosts_whole program) hother fuel store.next request h.fits.2)
    (Region.exists_not_fits _) h.fits.1 (hasks.asks hp)
  exact Request.stands_of_fits hfits hasked

/-- After the answer to a request that stands all builders that can be reached exist. -/
theorem Request.Stands.answered (h : request.Stands store) (fuel : Nat) :
  ((program.answer fuel request).outcome store).2.Closed
    ∧ ∀ value, ((program.answer fuel request).outcome store).1 = .ok value →
      ((program.answer fuel request).outcome store).2.Covers value
  := by
  obtain ⟨_, -, hfits, hends⟩ :=
    Containment.answers_program (hosts_whole program) fuel _ _ h.fits.2 store h.fits.1
  use Region.Fits.closed hfits
  intro value hvalue
  rw [hvalue] at hends
  exact Region.Fits.covers hfits hends

theorem performs_of_builderCall? {function : NativeFunction} {args : List Value}
    (h : program.builderCall? request = some (function, args)) {calls : List BuilderCall} :
  program.Performs (fuel + 1) request store calls
    ↔ calls = [⟨function, args, ((program.answer (fuel + 1) request).outcome store).1⟩]
  := by
  rw [Program.Performs, h]

theorem performs_of_no_builderCall (h : program.builderCall? request = none)
    {calls : List BuilderCall} :
  program.Performs (fuel + 1) request store calls ↔ ∃ asked parts,
    AsksFor (program.body fuel · request) (program.answer fuel) store asked
      ∧ List.Forall₂ (fun p part => program.Performs fuel p.1 p.2 part) asked parts
      ∧ calls = parts.flatten
  := by
  rw [Program.Performs, h]

/-- A run makes one sequence of calls. -/
theorem existsUnique_performs (program : Program) (fuel : Nat) (request : Request) (store : Store) :
  ∃! calls, program.Performs fuel request store calls
  := by
  induction fuel generalizing request store with
  | zero => exact ⟨[], rfl, fun _ h => h⟩
  | succ fuel ih =>
    rcases hcall : program.builderCall? request with _ | ⟨function, args⟩
    · simp only [performs_of_no_builderCall hcall]
      obtain ⟨asked, hasked⟩ :=
        (scripted_body fuel hcall).exists_asksFor (program.answer fuel) store
      choose part hpart hunique using fun p : Request × Store => ih p.1 p.2
      refine ⟨(asked.map part).flatten, ⟨asked, asked.map part, hasked, ?_, rfl⟩, ?_⟩
      · rw [List.forall₂_map_right_iff, List.forall₂_same]
        exact fun p _ => hpart p
      · rintro _ ⟨asked', parts, hasked', hparts, rfl⟩
        obtain rfl := hasked.unique hasked'
        have heq : List.Forall₂ Eq (asked.map part) parts :=
          List.forall₂_map_left_iff.mpr (hparts.imp fun p _ h => (hunique p _ h).symm)
        rw [List.forall₂_eq_eq_eq] at heq
        rw [heq]
    · simp only [performs_of_builderCall? hcall]
      exact existsUnique_eq

/-- Along a script, what is asked for leads on as the logs say if each of it does. -/
theorem Script.logged {α : Type} {ask : Request → Eval Value} (script : Script α) {store : Store}
    {parts : List (List BuilderCall)}
    (h : List.Forall₂ (fun p part => Logged p.2 part ((ask p.1).outcome p.2).2)
      (script.asked ask store) parts) :
  Logged store parts.flatten ((script.run ask).outcome store).2
  := by
  induction script generalizing store parts with
  | done result =>
    cases h
    exact .nil store
  | ask request next ih =>
    rw [asked] at h
    obtain ⟨part, rest, hpart, hrest, rfl⟩ := List.forall₂_cons_left_iff.mp h
    rw [List.flatten_cons, outcome_run_ask]
    dsimp only at hpart
    rcases e : (ask request).outcome store with ⟨halt | answer, after⟩
    · rw [e] at hpart hrest
      cases hrest
      rwa [List.flatten_nil, List.append_nil]
    · rw [e] at hpart hrest
      exact hpart.append (ih answer hrest)

theorem Request.outcome_frame_snd {α : Type} (request : Request) (run : Eval α) (store : Store) :
  ((request.frame run).outcome store).2 = (run.outcome store).2
  := by
  cases request with
  | call entity args =>
    show ((Eval.inFrame entity run).outcome store).2 = _
    rw [outcome_inFrame]
    rcases run.outcome store with ⟨(_ | _) | _, _⟩ <;> rfl
  | apply binding args => rfl
  | literal type text => rfl

/-- Something done with a list builder among the arguments stands if these do. -/
theorem BuilderUse.stands_of_covers {function : NativeFunction} {args : List Value}
    {use : BuilderUse} (huse : function.builderUse? args = some use)
    (h : ∀ arg ∈ args, store.Covers arg) :
  use.Stands store.next
  := by
  have hexists : ∀ number, .builder number ∈ args → number < store.next :=
    fun number hmem => h _ hmem number (store.reaches_builder number)
  unfold NativeFunction.builderUse? at huse
  split at huse <;> cases huse
  case h_1 => trivial
  all_goals exact hexists _ List.mem_cons_self

/-- A call of a function of list builders leads on as the logs say. -/
theorem logged_of_builderCall? (h : request.Stands store) {function : NativeFunction}
    {args : List Value} (hcall : program.builderCall? request = some (function, args)) :
  Logged store [⟨function, args, ((program.answer (fuel + 1) request).outcome store).1⟩]
    ((program.answer (fuel + 1) request).outcome store).2
  := by
  rw [Program.answer, Program.step_eq,
    Program.body_of_builderCall? hcall fuel _ (fun _ => throw .outOfFuel) fuel]
  obtain ⟨hbuilder, entity, rfl, -⟩ := Program.builderCall?_eq_some.mp hcall
  show Logged store [⟨function, args, ((Eval.inFrame entity _).outcome store).1⟩]
    ((Eval.inFrame entity _).outcome store).2
  rw [outcome_inFrame]
  rcases huse : function.builderUse? args with _ | use
  · obtain ⟨cause, hcause⟩ := run_of_no_use hbuilder huse (fun _ => throw .outOfFuel) fuel
    rw [hcause]
    exact logged_of_error huse _
  · rw [outcome_run_of_use hbuilder huse]
    exact logged_of_use huse (BuilderUse.stands_of_covers huse h.covers)

/-- A run from where all builders exist leads on as the logs say. -/
theorem logged_of_performs (h : request.Stands store) {calls : List BuilderCall}
    (hcalls : program.Performs fuel request store calls) :
  Logged store calls ((program.answer fuel request).outcome store).2
  := by
  induction fuel generalizing request store calls with
  | zero =>
    obtain rfl : calls = [] := hcalls
    exact .nil store
  | succ fuel ih =>
    rcases hcall : program.builderCall? request with _ | ⟨function, args⟩
    · obtain ⟨asked, parts, hasked, hparts, rfl⟩ := (performs_of_no_builderCall hcall).mp hcalls
      have hlogged := (List.forall₂_and_left _ _).mpr ⟨h.asked hasked, hparts⟩
      obtain ⟨script, hscript, rfl⟩ := hasked
      have hrun := script.logged (hlogged.imp fun p part hp => ih hp.1 hp.2)
      rw [← hscript] at hrun
      rwa [Program.answer, Program.step_eq, Request.outcome_frame_snd]
    · obtain rfl := (performs_of_builderCall? hcall).mp hcalls
      exact logged_of_builderCall? h hcall

end Performs

/-! ### Runs one after another -/

/-- Whether requests that are answered one after another make these calls, and lead from one store
to another.  Each brings along values whose builders exist by then. -/
inductive Program.Session (program : Program) : Store → List BuilderCall → Store → Prop
  | nil {store : Store} : Session program store [] store
  | cons {fuel : Nat} {request : Request} {store between last : Store}
      {calls rest : List BuilderCall} :
    (∀ value ∈ request.values, store.Covers value) →
    program.Performs fuel request store calls →
    ((program.answer fuel request).outcome store).2 = between →
    Session program between rest last →
    Session program store (calls ++ rest) last

/-- Runs one after another lead on as the logs say. -/
theorem Program.Session.logged {program : Program} {store last : Store} {calls : List BuilderCall}
    (h : program.Session store calls last) (hclosed : store.Closed) :
  Logged store calls last ∧ last.Closed
  := by
  induction h with
  | nil => exact ⟨.nil _, hclosed⟩
  | cons hcovers hperforms hbetween _ ih =>
    subst hbetween
    have hstands := Request.Stands.mk hclosed hcovers
    obtain ⟨hlogged, hlast⟩ := ih (hstands.answered _).1
    exact ⟨(logged_of_performs hstands hperforms).append hlogged, hlast⟩

/-- Values whose builders exist keep them. -/
theorem Store.Covers.later {store last : Store} {calls : List BuilderCall} {value : Value}
    (h : store.Covers value) (hlogged : Logged store calls last) (hclosed : last.Closed) :
  last.Covers value
  := by
  have hholds := Region.holds_whole ((holds_of_forall fun _ => trivial).1 value) h
  have hle : store.next ≤ last.next := by
    rw [hlogged.next]
    exact Nat.le_add_right _ _
  exact hclosed.fits.covers (hholds.mono hle)

/-- A run from where all builders exist keeps all values whose builders exist, and leaves nothing
behind that holds others. -/
theorem Request.Stands.kept {program : Program} {fuel : Nat} {request : Request} {store : Store}
    (h : request.Stands store) :
  ((program.answer fuel request).outcome store).2.Closed
    ∧ (∀ value, ((program.answer fuel request).outcome store).1 = .ok value →
      ((program.answer fuel request).outcome store).2.Covers value)
    ∧ ∀ value, store.Covers value → ((program.answer fuel request).outcome store).2.Covers value
  := by
  refine ⟨(h.answered fuel).1, (h.answered fuel).2, fun value hvalue => ?_⟩
  obtain ⟨calls, hcalls, -⟩ := existsUnique_performs program fuel request store
  exact hvalue.later (logged_of_performs h hcalls) (h.answered fuel).1

/-- A list that is built among other calls has what was appended before, none of which is gone
afterwards. -/
theorem Logged.built {store last : Store} {before rest : List BuilderCall} {call : BuilderCall}
    (h : Logged store (before ++ call :: rest) last) {target : Nat}
    (hbuild : call.use? = some (.build target)) :
  ∃ items, call.result = .ok (.list items)
    ∧ items = store.items target ++ appended before target
    ∧ last.items target = items ++ appended rest target
  := by
  have hanswered := h.answered before call rest rfl
  rw [BuilderCall.Answered, hbuild] at hanswered
  have hnothing : call.appends target = [] := by rw [BuilderCall.appends, hbuild]
  refine ⟨_, hanswered.2, rfl, ?_⟩
  rw [h.items, appended_append, ← List.append_assoc]
  show _ ++ (call.appends target ++ appended rest target) = _
  rw [hnothing, List.nil_append]

/-- List builders are shared logs.  A run makes one sequence of calls of functions of list builders,
and where all builders that it can reach exist, it returns nothing and leaves nothing behind with
which this were otherwise.  So along any runs one after another, through whichever values a builder
is reached, the calls end as the logs say, and they append to each builder in the order in which
they are made.  A list that is built of a builder has all that has been appended to it by then; nothing
is gone from the builder afterwards, and the list has the same items in every store to come. -/
theorem builders_are_shared_logs (program : Program) :
  (∀ fuel request store, ∃! calls, program.Performs fuel request store calls)
    ∧ (∀ fuel request store, request.Stands store →
      ((program.answer fuel request).outcome store).2.Closed
        ∧ (∀ value, ((program.answer fuel request).outcome store).1 = .ok value →
          ((program.answer fuel request).outcome store).2.Covers value)
        ∧ ∀ value, store.Covers value →
          ((program.answer fuel request).outcome store).2.Covers value)
    ∧ ∀ store calls last, store.Closed → program.Session store calls last →
      Logged store calls last
        ∧ ∀ before call rest target, calls = before ++ call :: rest →
          call.use? = some (.build target) →
          ∃ items, call.result = .ok (.list items)
            ∧ items = store.items target ++ appended before target
            ∧ last.items target = items ++ appended rest target
            ∧ ∀ fuel position, program.runNative fuel .listGet [.list items, .natural position]
              = pure (.ofOption items[position]?)
  := by
  refine ⟨existsUnique_performs program, fun fuel request store h => h.kept, ?_⟩
  intro store calls last hclosed hsession
  have hlogged := (hsession.logged hclosed).1
  use hlogged
  rintro before call rest target rfl hbuild
  obtain ⟨items, hresult, hitems, hlast⟩ := hlogged.built hbuild
  exact ⟨items, hresult, hitems, hlast, fun fuel => runNative_listGet program fuel items⟩

/-! ### A callback that appends -/

section Example

theorem Store.closed_empty :
  Store.Closed {}
  := by
  simp [Store.Closed, Store.items]

/-- All builders of a value exist if those of its parts do, unless it is a builder itself. -/
theorem Store.covers_of_parts {store : Store} {value : Value} (hbuilder : value.builder? = none)
    (hparts : ∀ part ∈ value.parts, store.Covers part) :
  store.Covers value
  := by
  intro number hreaches
  obtain rfl | ⟨next, hleads, hreaches⟩ := hreaches.cases_head
  · cases hbuilder
  · obtain hpart | ⟨_, hnumber, -⟩ := hleads
    · exact hparts next hpart number hreaches
    · rw [hbuilder] at hnumber
      cases hnumber

theorem Store.Closed.covers_builder {store : Store} (h : store.Closed) {number : Nat}
    (hlt : number < store.next) :
  store.Covers (.builder number)
  := by
  intro other hreaches
  obtain e | ⟨next, ⟨⟨⟩⟩ | ⟨_, ⟨⟩, hitem⟩, hreaches⟩ := hreaches.cases_head
  · cases e
    exact hlt
  · exact h number next hitem other hreaches

/-- The function that appends what it is given to the first list builder. -/
def appendToFirst : Binding :=
  .mk (.entity NativeFunction.builderAppend.entity) [some (.builder 0), none] []

/-- Mapping over two numbers with this function. -/
def appendBoth : Request :=
  .call NativeFunction.listMap.entity [.list [.natural 7, .natural 8], .function appendToFirst]

/-- The store that is left if this is done after the first list builder has been made. -/
def bothAppended : Store :=
  ((Store.create {}).append 0 [.natural 7]).append 0 [.natural 8]

variable (program : Program) (fuel : Nat) (store : Store)

/-- Calling a function of list builders by its entity is one call. -/
theorem performs_entity {function : NativeFunction} (hbuilder : function.isBuilder = true)
    {args : List Value} {use : BuilderUse} (huse : function.builderUse? args = some use) :
  program.Performs (fuel + 1) (.call function.entity args) store
      [⟨function, args, .ok (use.effect store).1⟩]
    ∧ (program.answer (fuel + 1) (.call function.entity args)).outcome store
      = (.ok (use.effect store).1, (use.effect store).2)
  := by
  have hanswer : (program.answer (fuel + 1) (.call function.entity args)).outcome store
      = (.ok (use.effect store).1, (use.effect store).2) := by
    rw [answer_native, outcome_inFrame, Program.runNative, outcome_run_of_use hbuilder huse]
  refine ⟨?_, hanswer⟩
  rw [performs_of_builderCall? (Program.builderCall?_eq_some.mpr
    ⟨hbuilder, _, rfl, program.native?_entity function⟩), hanswer]

theorem performs_appendToFirst (item : Value) :
  program.Performs (fuel + 2) (.apply appendToFirst [item]) store
      [⟨.builderAppend, [.builder 0, item], .ok (.builder 0)⟩]
    ∧ (program.answer (fuel + 2) (.apply appendToFirst [item])).outcome store
      = (.ok (.builder 0), store.append 0 [item])
  := by
  have huse : NativeFunction.builderAppend.builderUse? [.builder 0, item]
      = some (.append 0 [item]) := rfl
  obtain ⟨hcall, hanswer⟩ := performs_entity program fuel store rfl huse
  have hasks : AsksFor (program.body (fuel + 1) · (.apply appendToFirst [item]))
      (program.answer (fuel + 1)) store
      [(.call NativeFunction.builderAppend.entity [.builder 0, item], store)] := by
    use .ask (.call NativeFunction.builderAppend.entity [.builder 0, item])
      fun result => .done (.ok result)
    constructor
    · exact fun ask =>
        (bind_pure (ask (.call NativeFunction.builderAppend.entity [.builder 0, item]))).symm
    · rw [Script.asked, hanswer]
      rfl
  exact ⟨(performs_of_no_builderCall rfl).mpr ⟨_, [[_]], hasks, .cons hcall .nil, rfl⟩, hanswer⟩

/-- Mapping over two numbers appends both, one after the other. -/
theorem performs_appendBoth :
  program.Performs (fuel + 3) appendBoth store
      [⟨.builderAppend, [.builder 0, .natural 7], .ok (.builder 0)⟩,
        ⟨.builderAppend, [.builder 0, .natural 8], .ok (.builder 0)⟩]
    ∧ ((program.answer (fuel + 3) appendBoth).outcome store).2
      = (store.append 0 [.natural 7]).append 0 [.natural 8]
  := by
  obtain ⟨hfirst, hanswer⟩ := performs_appendToFirst program fuel store (.natural 7)
  obtain ⟨hsecond, hanswer'⟩ :=
    performs_appendToFirst program fuel (store.append 0 [.natural 7]) (.natural 8)
  have hbody : ∀ ask, program.body (fuel + 2) ask appendBoth
      = Script.run ask (.ask (.apply appendToFirst [.natural 7]) fun first =>
        .ask (.apply appendToFirst [.natural 8]) fun second =>
          .done (.ok (.list [first, second]))) := by
    intro ask
    show evalEntity program ask (fuel + 2) _ _ = _
    rw [evalEntity_of_native? (program.native?_entity _)]
    show (do return Value.list (← NativeFunction.mapItems (ask <| .apply appendToFirst ·)
      [.natural 7, .natural 8])) = (_ : Eval Value)
    simp only [NativeFunction.mapItems, bind_assoc, pure_bind]
    rfl
  have hasks : AsksFor (program.body (fuel + 2) · appendBoth) (program.answer (fuel + 2)) store
      [(.apply appendToFirst [.natural 7], store),
        (.apply appendToFirst [.natural 8], store.append 0 [.natural 7])] := by
    refine ⟨_, hbody, ?_⟩
    rw [Script.asked, hanswer]
    dsimp only
    rw [Script.asked, hanswer']
    rfl
  have hcall : program.builderCall? appendBoth = none := by
    rw [appendBoth, Program.builderCall?, program.native?_entity]
    rfl
  constructor
  · exact (performs_of_no_builderCall hcall).mpr
      ⟨_, [[_], [_]], hasks, .cons hfirst (.cons hsecond .nil), rfl⟩
  · rw [Program.answer, Program.step_eq, Request.outcome_frame_snd, hbody, Script.outcome_run_ask,
      hanswer]
    dsimp only
    rw [Script.outcome_run_ask, hanswer']
    rfl

theorem session_appendBoth :
  Program.Session default {}
    [⟨.builderCreate, [], .ok (.builder 0)⟩,
      ⟨.builderAppend, [.builder 0, .natural 7], .ok (.builder 0)⟩,
      ⟨.builderAppend, [.builder 0, .natural 8], .ok (.builder 0)⟩,
      ⟨.builderBuild, [.builder 0], .ok (.list [.natural 7, .natural 8])⟩]
    bothAppended
  := by
  have hcreates : NativeFunction.builderCreate.builderUse? [] = some .create := rfl
  have hbuilds : NativeFunction.builderBuild.builderUse? [.builder 0] = some (.build 0) := rfl
  obtain ⟨hcreate, hcreated⟩ := performs_entity default 0 {} rfl hcreates
  obtain ⟨happend, happended⟩ := performs_appendBoth default 0 (Store.create {})
  obtain ⟨hbuild, hbuilt⟩ := performs_entity default 0 bothAppended rfl hbuilds
  have hnatural : ∀ (store : Store) n, store.Covers (.natural n) := fun _ _ =>
    Store.covers_of_parts rfl (List.forall_mem_nil _)
  have hclosed : bothAppended.Closed := by
    apply (Store.closed_empty.create.append _).append
    · exact List.forall_mem_singleton.mpr (hnatural _ 8)
    · exact List.forall_mem_singleton.mpr (hnatural _ 7)
  have hargs : ∀ value ∈ appendBoth.values, (Store.create {}).Covers value := by
    refine List.forall_mem_cons.mpr ⟨?_, List.forall_mem_singleton.mpr ?_⟩
    · apply Store.covers_of_parts rfl
      exact List.forall_mem_cons.mpr ⟨hnatural _ 7, List.forall_mem_singleton.mpr (hnatural _ 8)⟩
    · refine Store.covers_of_parts rfl (List.forall_mem_singleton.mpr ?_)
      exact Store.closed_empty.create.covers_builder Nat.zero_lt_one
  refine .cons ?_ hcreate (congrArg Prod.snd hcreated) (.cons hargs happend happended
    (.cons ?_ hbuild (congrArg Prod.snd hbuilt) .nil))
  · exact List.forall_mem_nil _
  · exact List.forall_mem_singleton.mpr (hclosed.covers_builder Nat.zero_lt_one)

end Example

/-- A builder is made, two numbers are appended in the course of mapping over them, and the list that
is built has both, as the builder has from then on. -/
theorem builders_are_shared_logs_appendBoth :
  ∃ (before : List BuilderCall) (call : BuilderCall) (last : Store),
    Program.Session default {} (before ++ [call]) last ∧ Logged {} (before ++ [call]) last
      ∧ call.use? = some (.build 0) ∧ call.result = .ok (.list [.natural 7, .natural 8])
      ∧ last.items 0 = [.natural 7, .natural 8]
  := by
  obtain ⟨-, -, hsessions⟩ := builders_are_shared_logs default
  obtain ⟨hlogged, hbuilds⟩ := hsessions {} _ _ Store.closed_empty session_appendBoth
  obtain ⟨items, ⟨⟩, -, hlast, -⟩ := hbuilds [_, _, _] _ [] 0 rfl rfl
  exact ⟨[_, _, _], _, bothAppended, session_appendBoth, hlogged, rfl, rfl, hlast⟩

end TypedModules
