import TypedModules.Proofs.Eval.Settled

/-!
# Elements of sequences

A sequence has a first element and a function from each element to the next one.  An element is what
so many applications of the function make of the first one, and the search for an element tries one
after another.  Where the applications leave the list builders as they are, the search finds the
first of the elements for which a function returns `true`, and otherwise it ends as the element or
the function does where it gets stuck: `sequence_search_exact`.  What is said holds without fuel: an
evaluation `Concludes` if it ends with enough of it.
-/

namespace TypedModules

/-- Whether evaluations end like this from a store, from some fuel on. -/
def Concludes (run : Nat → Eval Value) (store : Store) (outcome : Except Halt Value × Store) :
    Prop :=
  outcome.1 ≠ .error .outOfFuel ∧ Settles run store outcome

namespace Program

/-- The element of a sequence at a position. -/
def getElement (program : Program) (sequence : Value) (position fuel : Nat) : Eval Value :=
  program.runNative fuel .sequenceGet [sequence, .natural position]

/-- The first element of a sequence for which a function returns `true`. -/
def firstElement (program : Program) (sequence : Value) (holds : Binding) (fuel : Nat) :
    Eval Value :=
  program.runNative fuel .sequenceFirst [sequence, .function holds]

/-- How so many applications of a function to a value end from a store: each starts with the value
and the store that are there after those before it, unless one of them ended with an error. -/
inductive Iterates (program : Program) (next : Binding) (base : Value) (store : Store) :
    Nat → Except Halt Value × Store → Prop
  | zero : Iterates program next base store 0 (.ok base, store)
  | succ {n : Nat} {value : Value} {between : Store} {outcome : Except Halt Value × Store} :
    Iterates program next base store n (.ok value, between) →
    Concludes (program.apply · next [value]) between outcome →
    Iterates program next base store (n + 1) outcome
  | error {n : Nat} {halt : Halt} {last : Store} :
    Iterates program next base store n (.error halt, last) →
    Iterates program next base store (n + 1) (.error halt, last)

/-- How the application of a function to a value ends a search there, if it does: with the value if
the function returns `true`, and with an error if it ends with one or returns no truth value. -/
inductive Stops (program : Program) (holds : Binding) (value : Value) (store : Store) :
    Except Halt Value × Store → Prop
  | found {last : Store} :
    Concludes (program.apply · holds [value]) store (.ok (.boolean true), last) →
    Stops program holds value store (.ok value, last)
  | fails {halt : Halt} {last : Store} :
    Concludes (program.apply · holds [value]) store (.error halt, last) →
    Stops program holds value store (.error halt, last)
  | refuses {result : Value} {last : Store} :
    Concludes (program.apply · holds [value]) store (.ok result, last) →
    (∀ truth, result ≠ .boolean truth) →
    Stops program holds value store
      (.error (.error { cause := .typeMismatch "Boolean" result.kindName }), last)

/-- How a search that starts with a value ends. -/
inductive Searches (program : Program) (next holds : Binding) :
    Value → Store → Except Halt Value × Store → Prop
  | stops {value : Value} {store : Store} {outcome : Except Halt Value × Store} :
    Stops program holds value store outcome → Searches program next holds value store outcome
  | fails {value : Value} {store between last : Store} {halt : Halt} :
    Concludes (program.apply · holds [value]) store (.ok (.boolean false), between) →
    Concludes (program.apply · next [value]) between (.error halt, last) →
    Searches program next holds value store (.error halt, last)
  | goesOn {value element : Value} {store between after : Store}
      {outcome : Except Halt Value × Store} :
    Concludes (program.apply · holds [value]) store (.ok (.boolean false), between) →
    Concludes (program.apply · next [value]) between (.ok element, after) →
    Searches program next holds element after outcome →
    Searches program next holds value store outcome

/-- Whether a function returns `false` for the elements of a sequence before a position. -/
def Skips (program : Program) (sequence : Value) (holds : Binding) (store : Store)
    (position : Nat) : Prop :=
  ∀ i < position, ∃ value, Concludes (program.getElement sequence i) store (.ok value, store)
    ∧ Concludes (program.apply · holds [value]) store (.ok (.boolean false), store)

/-- Whether applications of a function to a value that end with one leave the list builders as they
are. -/
def Spares (program : Program) (f : Binding) (value : Value) (store : Store) : Prop :=
  ∀ fuel result after, (program.apply fuel f [value]).outcome store = (.ok result, after) →
    after = store

end Program

section Concludes

variable {program : Program} {fuel : Nat} {store last : Store}
  {outcome outcome' : Except Halt Value × Store} {run : Nat → Eval Value}

theorem Concludes.unique (h : Concludes run store outcome) (h' : Concludes run store outcome') :
  outcome = outcome'
  := h.2.unique h'.2

theorem Concludes.bind {value : Value} {next : Nat → Value → Eval Value}
    (h : Concludes run store (.ok value, last))
    (hnext : Concludes (fun fuel => next fuel value) last outcome) :
  Concludes (fun fuel => run fuel >>= next fuel) store outcome
  := ⟨hnext.1, h.2.bind hnext.2⟩

theorem Concludes.bind_error {halt : Halt} (h : Concludes run store (.error halt, last))
    (next : Nat → Value → Eval Value) :
  Concludes (fun fuel => run fuel >>= next fuel) store (.error halt, last)
  := ⟨fun e => h.1 (congrArg Except.error (Except.error.inj e)), h.2.bind_error next⟩

theorem concludes_apply {f : Binding} {args : List Value}
    (h : (program.apply fuel f args).outcome store = outcome)
    (hends : outcome.1 ≠ .error .outOfFuel) :
  Concludes (program.apply · f args) store outcome
  := ⟨hends, settles_of_answer hends h⟩

/-- A native function that is called directly concludes once it ends. -/
theorem concludes_runNative_iff {function : NativeFunction} {args : List Value} :
  Concludes (program.runNative · function args) store outcome ↔ outcome.1 ≠ .error .outOfFuel
    ∧ ∃ fuel, (program.runNative fuel function args).outcome store = outcome
  := by
  constructor
  · rintro ⟨hends, enough, h⟩
    exact ⟨hends, enough, h enough (Nat.le_refl _)⟩
  · rintro ⟨hends, fuel, h⟩
    exact ⟨hends, settles_of_runNative hends h⟩

theorem Concludes.spares {f : Binding} {value result : Value}
    (h : Concludes (program.apply · f [value]) store (.ok result, store)) :
  program.Spares f value store
  := fun _ _ _ h' => (Prod.mk.inj ((concludes_apply h' nofun).unique h)).2

theorem Program.Spares.eq {f : Binding} {value result : Value} (h : program.Spares f value store)
    (happly : Concludes (program.apply · f [value]) store (.ok result, last)) :
  last = store
  := by
  obtain ⟨-, enough, hsettled⟩ := happly
  exact h enough result last (hsettled enough (Nat.le_refl _))

end Concludes

/-! ### Elements -/

section Elements

variable {program : Program} {header : StructHeader} {next holds : Binding} {base value : Value}
  {store last : Store} {outcome : Except Halt Value × Store} {n : Nat}

/-- The last of some applications comes after the others. -/
theorem NativeFunction.iterate_succ (apply : List Value → Eval Value) (n : Nat) (value : Value) :
  iterate apply (n + 1) value = iterate apply n value >>= fun result => apply [result]
  := by
  induction n generalizing value with
  | zero =>
    rw [iterate, iterate, pure_bind]
    exact bind_pure _
  | succ n ih =>
    rw [iterate, iterate, bind_assoc]
    congr
    funext result
    exact ih result

theorem getElement_succ (program : Program) (header : StructHeader) (base : Value) (next : Binding)
    (n : Nat) :
  program.getElement (.struct header [base, .function next]) (n + 1)
    = fun fuel => program.getElement (.struct header [base, .function next]) n fuel
      >>= fun value => program.apply fuel next [value]
  := by
  funext fuel
  exact NativeFunction.iterate_succ (program.apply fuel next) n base

/-- The element at a position is what as many applications of the function make of the first
element. -/
theorem concludes_getElement_iff :
  Concludes (program.getElement (.struct header [base, .function next]) n) store outcome
    ↔ program.Iterates next base store n outcome
  := by
  constructor
  · intro hconcludes
    obtain ⟨hends, fuel, h⟩ := concludes_runNative_iff.mp hconcludes
    clear hconcludes
    change (program.getElement _ n fuel).outcome store = outcome at h
    induction n generalizing outcome with
    | zero =>
      obtain rfl : (.ok base, store) = outcome := h
      exact .zero
    | succ n ih =>
      rw [getElement_succ, Discipline.outcome_bind] at h
      rcases e : (program.getElement (.struct header [base, .function next]) n fuel).outcome store
        with ⟨halt | value, between⟩
      · rw [e] at h
        subst h
        exact .error (ih hends e)
      · rw [e] at h
        exact .succ (ih nofun e) (concludes_apply h hends)
  · intro h
    induction h with
    | zero => exact ⟨nofun, settles_pure base store⟩
    | succ _ happly ih =>
      rw [getElement_succ]
      exact ih.bind happly
    | error _ ih =>
      rw [getElement_succ]
      exact ih.bind_error _

/-! ### Searches -/

/-- How a search that may try so many more values goes on after a function has ended for a value. -/
def Program.turn (program : Program) (next holds : Binding) (fuel count : Nat) (value : Value) :
    Except Halt Value × Store → Except Halt Value × Store
  | (.ok (.boolean true), after) => (.ok value, after)
  | (.ok (.boolean false), after) => (program.apply fuel next [value] >>=
      NativeFunction.search (program.apply fuel next) (program.apply fuel holds) count).outcome after
  | (.ok result, after) =>
    (.error (.error { cause := .typeMismatch "Boolean" result.kindName }), after)
  | (.error halt, after) => (.error halt, after)

theorem search_succ (program : Program) (next holds : Binding) (fuel count : Nat) (value : Value)
    (store : Store) :
  (NativeFunction.search (program.apply fuel next) (program.apply fuel holds) (count + 1)
      value).outcome store
    = program.turn next holds fuel count value ((program.apply fuel holds [value]).outcome store)
  := by
  rw [NativeFunction.search, Discipline.outcome_bind]
  rcases (program.apply fuel holds [value]).outcome store with ⟨halt | result, after⟩
  · rfl
  · cases result with
    | boolean truth => cases truth <;> rfl
    | _ => rfl

theorem searches_of_outcome {fuel count : Nat}
    (h : (NativeFunction.search (program.apply fuel next) (program.apply fuel holds) count
      value).outcome store = outcome)
    (hends : outcome.1 ≠ .error .outOfFuel) :
  program.Searches next holds value store outcome
  := by
  induction count generalizing value store with
  | zero =>
    subst h
    exact absurd rfl hends
  | succ count ih =>
    rw [search_succ, Program.turn.eq_def] at h
    split at h
    next after hholds =>
      subst h
      exact .stops (.found (concludes_apply hholds nofun))
    next after hholds =>
      have hfalse := concludes_apply hholds nofun
      rw [Discipline.outcome_bind] at h
      rcases e : (program.apply fuel next [value]).outcome after with ⟨halt | element, later⟩
      · rw [e] at h
        subst h
        exact .fails hfalse (concludes_apply e hends)
      · rw [e] at h
        exact .goesOn hfalse (concludes_apply e nofun) (ih h)
    next result after htrue hfalse hholds =>
      subst h
      apply Program.Searches.stops (.refuses (concludes_apply hholds nofun) _)
      rintro (_ | _) rfl
      · exact hfalse rfl
      · exact htrue rfl
    next halt after hholds =>
      subst h
      exact .stops (.fails (concludes_apply hholds hends))

/-- Whether a search for a value ends like this, from some fuel and some number of values on. -/
def SearchSettles (program : Program) (next holds : Binding) (value : Value) (store : Store)
    (outcome : Except Halt Value × Store) : Prop :=
  ∃ enough, ∀ fuel count, enough ≤ fuel → enough ≤ count →
    (NativeFunction.search (program.apply fuel next) (program.apply fuel holds) count
      value).outcome store = outcome

theorem SearchSettles.of_turn {ended : Except Halt Value × Store}
    (hholds : Concludes (program.apply · holds [value]) store ended)
    (h : ∃ enough, ∀ fuel count, enough ≤ fuel → enough ≤ count →
      program.turn next holds fuel count value ended = outcome) :
  SearchSettles program next holds value store outcome
  := by
  obtain ⟨-, enough, hholds⟩ := hholds
  obtain ⟨enough', h⟩ := h
  use max enough enough' + 1
  intro fuel count hfuel hcount
  obtain ⟨count, rfl⟩ : ∃ n, count = n + 1 := ⟨count - 1, by omega⟩
  rw [search_succ, hholds fuel (by omega)]
  apply h fuel count (by omega) (by omega)

theorem Program.Stops.settles (h : program.Stops holds value store outcome) (next : Binding) :
  SearchSettles program next holds value store outcome
  := by
  cases h with
  | found hholds => exact .of_turn hholds ⟨0, fun _ _ _ _ => rfl⟩
  | fails hholds => exact .of_turn hholds ⟨0, fun _ _ _ _ => rfl⟩
  | @refuses result _ hholds hnot =>
    refine .of_turn hholds ⟨0, fun _ _ _ _ => ?_⟩
    cases result with
    | boolean truth => exact absurd rfl (hnot truth)
    | _ => rfl

theorem Program.Searches.settles (h : program.Searches next holds value store outcome) :
  SearchSettles program next holds value store outcome
  := by
  induction h with
  | stops hstops => exact hstops.settles next
  | fails hholds hnext =>
    obtain ⟨-, enough, hnext⟩ := hnext
    refine .of_turn hholds ⟨enough, fun fuel count hle _ => ?_⟩
    rw [turn, Discipline.outcome_bind, hnext fuel hle]
  | goesOn hholds hnext _ ih =>
    obtain ⟨-, enough, hnext⟩ := hnext
    obtain ⟨enough', ih⟩ := ih
    refine .of_turn hholds ⟨max enough enough', fun fuel count hle hcount => ?_⟩
    rw [turn, Discipline.outcome_bind, hnext fuel (by omega)]
    exact ih fuel count (by omega) (by omega)

theorem Program.Searches.ends (h : program.Searches next holds value store outcome) :
  outcome.1 ≠ .error .outOfFuel
  := by
  induction h with
  | stops hstops =>
    cases hstops with
    | found => nofun
    | fails hholds => exact hholds.1.imp fun e => congrArg Except.error (Except.error.inj e)
    | refuses => nofun
  | fails _ hnext => exact hnext.1.imp fun e => congrArg Except.error (Except.error.inj e)
  | goesOn _ _ _ ih => exact ih

theorem concludes_firstElement_iff :
  Concludes (program.firstElement (.struct header [base, .function next]) holds) store outcome
    ↔ program.Searches next holds base store outcome
  := by
  constructor
  · intro h
    obtain ⟨hends, fuel, h⟩ := concludes_runNative_iff.mp h
    exact searches_of_outcome h hends
  · intro h
    obtain ⟨enough, hsettled⟩ := h.settles
    exact concludes_runNative_iff.mpr
      ⟨h.ends, enough, hsettled enough enough (Nat.le_refl _) (Nat.le_refl _)⟩

theorem Program.Iterates.unique {outcome' : Except Halt Value × Store}
    (h : program.Iterates next base store n outcome)
    (h' : program.Iterates next base store n outcome') :
  outcome = outcome'
  := by
  induction h generalizing outcome' with
  | zero =>
    cases h'
    rfl
  | succ _ happly ih =>
    cases h' with
    | succ hprevious happly' =>
      cases ih hprevious
      exact happly.unique happly'
    | error hprevious => cases ih hprevious
  | error _ ih =>
    cases h' with
    | succ hprevious _ => cases ih hprevious
    | error hprevious => exact ih hprevious

/-! ### Where a search ends -/

section Skips

variable {position : Nat}

theorem Program.Skips.of_succ {sequence : Value}
    (h : program.Skips sequence holds store (position + 1)) :
  program.Skips sequence holds store position
  := fun i hlt => h i (Nat.lt_succ_of_lt hlt)

/-- The application that makes the element after one that a search passes. -/
theorem Program.Skips.apply_of_iterates
    (h : program.Skips (.struct header [base, .function next]) holds store (position + 1))
    (hget : program.Iterates next base store (position + 1) outcome) :
  ∃ value, program.Iterates next base store position (.ok value, store)
    ∧ Concludes (program.apply · holds [value]) store (.ok (.boolean false), store)
    ∧ Concludes (program.apply · next [value]) store outcome
  := by
  obtain ⟨value, hvalue, hfalse⟩ := h position (Nat.lt_succ_self position)
  have hvalue := concludes_getElement_iff.mp hvalue
  cases hget with
  | succ hprevious hnext =>
    cases hprevious.unique hvalue
    exact ⟨value, hvalue, hfalse, hnext⟩
  | error hprevious => cases hprevious.unique hvalue

/-- A search that skips the elements before a position goes on as one that starts there. -/
theorem Program.Skips.searches
    (h : program.Skips (.struct header [base, .function next]) holds store position)
    (hget : program.Iterates next base store position (.ok value, store))
    (hsearches : program.Searches next holds value store outcome) :
  program.Searches next holds base store outcome
  := by
  induction position generalizing value with
  | zero =>
    cases hget
    exact hsearches
  | succ position ih =>
    obtain ⟨before, hbefore, hfalse, hnext⟩ := h.apply_of_iterates hget
    exact ih h.of_succ hbefore (.goesOn hfalse hnext hsearches)

/-- A search ends with the error with which the element after those that it skips does. -/
theorem Program.Skips.searches_error {halt : Halt}
    (h : program.Skips (.struct header [base, .function next]) holds store position)
    (hget : program.Iterates next base store position (.error halt, last)) :
  program.Searches next holds base store (.error halt, last)
  := by
  cases position with
  | zero => cases hget
  | succ position =>
    obtain ⟨before, hbefore, hfalse, hnext⟩ := h.apply_of_iterates hget
    exact h.of_succ.searches hbefore (.fails hfalse hnext)

/-- A search that comes to a position without a change of the list builders skips the elements up
to where it ends. -/
theorem Program.Searches.exists_position
    (hspares : ∀ n value, program.Iterates next base store n (.ok value, store) →
      program.Spares next value store ∧ program.Spares holds value store)
    (h : program.Searches next holds value store outcome)
    (hget : program.Iterates next base store position (.ok value, store))
    (hskips : program.Skips (.struct header [base, .function next]) holds store position) :
  ∃ position, program.Skips (.struct header [base, .function next]) holds store position
    ∧ ((∃ halt last, outcome = (.error halt, last)
        ∧ program.Iterates next base store position outcome)
      ∨ ∃ value, program.Iterates next base store position (.ok value, store)
        ∧ program.Stops holds value store outcome)
  := by
  have hsucc : ∀ position value,
      program.Skips (.struct header [base, .function next]) holds store position →
      program.Iterates next base store position (.ok value, store) →
      Concludes (program.apply · holds [value]) store (.ok (.boolean false), store) →
      program.Skips (.struct header [base, .function next]) holds store (position + 1) := by
    intro position value hskips hget hfalse i hlt
    obtain hlt | rfl := Nat.lt_succ_iff_lt_or_eq.mp hlt
    · exact hskips i hlt
    · exact ⟨value, concludes_getElement_iff.mpr hget, hfalse⟩
  generalize hstore : store = there at h
  induction h generalizing position with
  | stops hstops =>
    subst hstore
    exact ⟨position, hskips, .inr ⟨_, hget, hstops⟩⟩
  | fails hfalse hnext =>
    subst hstore
    obtain rfl := (hspares position _ hget).2.eq hfalse
    exact ⟨position + 1, hsucc position _ hskips hget hfalse,
      .inl ⟨_, _, rfl, .succ hget hnext⟩⟩
  | goesOn hfalse hnext _ ih =>
    subst hstore
    obtain rfl := (hspares position _ hget).2.eq hfalse
    obtain rfl := (hspares position _ hget).1.eq hnext
    exact ih (.succ hget hnext) (hsucc position _ hskips hget hfalse) rfl

end Skips

/-- The element of a sequence at a position, of any size, is what as many applications of the
function make of the first element.  Where applications to elements leave the list builders as they
are, the search for an element ends with a value exactly if this is the element at a position, a
function returns `true` for it, and `false` for the elements at all positions before.  It ends with
an error exactly if the function returns `false` for the elements at all positions before one, and
there is this error at that position: either there is no element there, or the function ends with
the error for it or returns no truth value.  Otherwise the search does not end. -/
theorem sequence_search_exact (program : Program) (header : StructHeader) (base : Value)
    (next holds : Binding) (store : Store)
    (hspares : ∀ n value, program.Iterates next base store n (.ok value, store) →
      program.Spares next value store ∧ program.Spares holds value store) :
  let sequence := .struct header [base, .function next]
  (∀ n outcome, Concludes (program.getElement sequence n) store outcome
      ↔ program.Iterates next base store n outcome)
    ∧ (∀ value last, Concludes (program.firstElement sequence holds) store (.ok value, last)
      ↔ last = store ∧ ∃ position, program.Skips sequence holds store position
        ∧ Concludes (program.getElement sequence position) store (.ok value, store)
        ∧ Concludes (program.apply · holds [value]) store (.ok (.boolean true), store))
    ∧ ∀ halt last, Concludes (program.firstElement sequence holds) store (.error halt, last)
      ↔ ∃ position, program.Skips sequence holds store position
        ∧ (Concludes (program.getElement sequence position) store (.error halt, last)
          ∨ ∃ value, Concludes (program.getElement sequence position) store (.ok value, store)
            ∧ program.Stops holds value store (.error halt, last))
  := by
  have hends : ∀ outcome,
      Concludes (program.firstElement (.struct header [base, .function next]) holds) store outcome →
      ∃ position, program.Skips (.struct header [base, .function next]) holds store position
        ∧ ((∃ halt last, outcome = (.error halt, last)
            ∧ program.Iterates next base store position outcome)
          ∨ ∃ value, program.Iterates next base store position (.ok value, store)
            ∧ program.Stops holds value store outcome) :=
    fun outcome h => (concludes_firstElement_iff.mp h).exists_position hspares .zero nofun
  refine ⟨fun _ _ => concludes_getElement_iff, ?_⟩
  simp only [concludes_getElement_iff]
  refine ⟨fun value last => ⟨fun h => ?_, ?_⟩, fun halt last => ⟨fun h => ?_, ?_⟩⟩
  · obtain ⟨position, hskips, ⟨_, _, e, -⟩ | ⟨_, hget, hstops⟩⟩ := hends _ h
    · cases e
    · cases hstops with
      | found hholds =>
        obtain rfl := (hspares position value hget).2.eq hholds
        exact ⟨rfl, position, hskips, hget, hholds⟩
  · rintro ⟨rfl, position, hskips, hget, hholds⟩
    exact concludes_firstElement_iff.mpr (hskips.searches hget (.stops (.found hholds)))
  · obtain ⟨position, hskips, ⟨_, _, -, hget⟩ | ⟨value, hget, hstops⟩⟩ := hends _ h
    · exact ⟨position, hskips, .inl hget⟩
    · exact ⟨position, hskips, .inr ⟨value, hget, hstops⟩⟩
  · rintro ⟨position, hskips, hget | ⟨value, hget, hstops⟩⟩
    · exact concludes_firstElement_iff.mpr (hskips.searches_error hget)
    · exact concludes_firstElement_iff.mpr (hskips.searches hget (.stops hstops))

end Elements

/-! ### The natural numbers -/

/-- The function that adds one to a natural number. -/
def onePlus : Binding :=
  .mk (.entity NativeFunction.naturalPlus.entity) [some (.natural 1), none] []

/-- The function that tells whether a natural number is two. -/
def isTwo : Binding :=
  .mk (.entity NativeFunction.naturalEquals.entity) [some (.natural 2), none] []

section Naturals

variable (program : Program) (store : Store) (n : Nat)

theorem concludes_onePlus :
  Concludes (program.apply · onePlus [.natural n]) store (.ok (.natural (1 + n)), store)
  := by
  have hanswer : (program.apply 2 onePlus [.natural n]).outcome store
      = (.ok (.natural (1 + n)), store) := by
    show (program.answer 1 (.call NativeFunction.naturalPlus.entity
      [.natural 1, .natural n])).outcome store = _
    rw [answer_native]
    rfl
  exact concludes_apply hanswer nofun

theorem concludes_isTwo :
  Concludes (program.apply · isTwo [.natural n]) store (.ok (.boolean (2 == n)), store)
  := by
  have hanswer : (program.apply 2 isTwo [.natural n]).outcome store
      = (.ok (.boolean (2 == n)), store) := by
    show (program.answer 1 (.call NativeFunction.naturalEquals.entity
      [.natural 2, .natural n])).outcome store = _
    rw [answer_native]
    rfl
  exact concludes_apply hanswer nofun

theorem iterates_onePlus :
  program.Iterates onePlus (.natural 0) store n (.ok (.natural n), store)
  := by
  induction n with
  | zero => exact .zero
  | succ n ih =>
    have happly := concludes_onePlus program store n
    rw [Nat.add_comm 1 n] at happly
    exact .succ ih happly

end Naturals

/-- The search for two among the natural numbers finds it. -/
theorem sequence_search_exact_two :
  (∀ n, Concludes
      (Program.getElement default (.struct Native.sequence [.natural 0, .function onePlus]) n) {}
      (.ok (.natural n), {}))
    ∧ Concludes
      (Program.firstElement default (.struct Native.sequence [.natural 0, .function onePlus]) isTwo)
      {} (.ok (.natural 2), {})
  := by
  have hspares : ∀ n value,
      Program.Iterates default onePlus (.natural 0) {} n (.ok value, {}) →
      Program.Spares default onePlus value {} ∧ Program.Spares default isTwo value {} := by
    intro n value hget
    cases hget.unique (iterates_onePlus default {} n)
    exact ⟨(concludes_onePlus default {} n).spares, (concludes_isTwo default {} n).spares⟩
  obtain ⟨hget, hfirst, -⟩ :=
    sequence_search_exact default Native.sequence (.natural 0) onePlus isTwo {} hspares
  have hnatural := fun n => (hget n _).mpr (iterates_onePlus default {} n)
  refine ⟨hnatural, (hfirst _ _).mpr
    ⟨rfl, 2, fun i hlt => ?_, hnatural 2, concludes_isTwo default {} 2⟩⟩
  use .natural i, hnatural i
  have hfalse : (2 == i) = false := by
    rw [beq_eq_false_iff_ne]
    omega
  rw [← hfalse]
  exact concludes_isTwo default {} i

end TypedModules
