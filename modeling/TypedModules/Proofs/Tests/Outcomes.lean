import TypedModules.Eval.Tests
import TypedModules.Proofs.Literal.Denoted

/-!
# What test cases come to

A case decodes literals, which denote values without builders, and evaluates a function on them.
What it comes to hence does not depend on the builders that there are when it starts, whether it
creates its own in a new store or in one that other cases have left: `comes_of_outcome` and
`Program.Comes.settles`.  `Program.Comes` tells it without fuel.
-/

namespace TypedModules

/-! ### Texts of values that agree -/

theorem Store.size_eq_length (store : Store) (number : Nat) :
  store.size number = (store.items number).length
  := Array.length_toList.symm

namespace Value

theorem texts_eq_of_forall₂ {store other : Store} {vs ws : List Value}
    (h : List.Forall₂ (fun v w => v.text store = w.text other) vs ws) :
  valueTexts store vs = valueTexts other ws
  := by
  induction h with
  | nil => rfl
  | cons hvw _ ih => exact congrArg₂ List.cons hvw ih

/-- Values that agree have one text, where builders that are paired have as many items, and bindings
that agree call the same. -/
theorem text_of_alike {pairing : Pairing} {store other : Store}
    (hstores : store.Like pairing other) :
  (∀ v w : Value, v.Like pairing w → v.text store = w.text other)
    ∧ ∀ f g : Binding, f.Like pairing g → f.target = g.target
  := by
  apply alike_induction
  case list =>
    intro as bs hs
    exact congrArg (fun texts => "[" ++ Text.commaList texts ++ "]") (texts_eq_of_forall₂ hs)
  case success =>
    intro v w hvw
    exact congrArg (fun text => "success(" ++ text ++ ")") hvw
  case struct =>
    rintro a _ as bs rfl hs
    exact congrArg (fun texts => a.id.text ++ "(" ++ Text.commaList texts ++ ")")
      (texts_eq_of_forall₂ hs)
  case object =>
    rintro a _ as bs rfl _
    rfl
  case union =>
    rintro a _ option p q rfl hpq
    cases hpq with
    | none => rfl
    | some hvw =>
      exact congrArg (fun text => a.id.text ++ "." ++ a.optionName option ++ "(" ++ text ++ ")") hvw
  case function =>
    intro f g hfg
    exact congrArg Target.text hfg
  case builder =>
    intro m n hpair
    have hsize : store.size m = other.size n := by
      rw [Store.size_eq_length, Store.size_eq_length, (hstores.items hpair).length_eq]
    exact congrArg (fun size => "<ListBuilder of " ++ toString size ++ ">") hsize
  case binding => exact fun _ _ _ _ _ _ htarget _ _ => htarget
  all_goals
    intros
    rfl

theorem Like.text_eq {pairing : Pairing} {store other : Store} {v w : Value} (h : v.Like pairing w)
    (hstores : store.Like pairing other) :
  v.text store = w.text other
  := (text_of_alike hstores).1 v w h

end Value

/-! ### What a case comes to -/

/-- The literals for the arguments of a case, with their types. -/
def TestCase.literals (case : TestCase) : List (Ty × String) :=
  (case.function.args.map (·.type)).zip case.args

/-- The outcome of a case whose function ends so where a value is expected. -/
def CaseOutcome.ofResult (expected : Value) : Except Halt Value × Store → CaseOutcome
  | (.error halt, _) => Program.haltOutcome EvalError.text halt
  | (.ok actual, store) =>
    if actual.same expected then .passed else .failed (expected.text store) (actual.text store)

namespace Program

/-- The outcome of a case and the store after it, if it starts with a store, and what it computes
next starts with `fresh` of the store that is left. -/
def runCaseOn (program : Program) (fuel : Nat) (fresh : Store → Store) (case : TestCase)
    (store : Store) : CaseOutcome × Store :=
  let (args, store) := (program.decodeAll fuel case.literals).outcome (fresh store)
  let (expected, store) :=
    (program.decode fuel case.function.output case.expected).outcome (fresh store)
  match args, expected with
  | .error halt, _ => (haltOutcome EvalError.message halt, store)
  | .ok _, .error halt => (haltOutcome EvalError.message halt, store)
  | .ok args, .ok expected =>
    let result := (program.interpret fuel case.function.id args).outcome (fresh store)
    (.ofResult expected result, result.2)

/-- What a case comes to: an error in a literal for an argument, or else in the one for the result,
or else what the function ends with on what the literals denote. -/
inductive Comes (program : Program) (case : TestCase) : CaseOutcome → Prop
  | argument {error : EvalError} :
    program.ReadsAll case.literals (.error (.error error)) →
    Comes program case (.error error.message)
  | expected {args : List Value} {error : EvalError} :
    program.ReadsAll case.literals (.ok args) →
    program.Reads case.function.output case.expected (.error (.error error)) →
    Comes program case (.error error.message)
  | evaluated {args : List Value} {expected : Value} {result : Except Halt Value × Store} :
    program.ReadsAll case.literals (.ok args) →
    program.Reads case.function.output case.expected (.ok expected) →
    result.1 ≠ .error .outOfFuel →
    Settles (fun fuel => program.interpret fuel case.function.id args) {} result →
    Comes program case (.ofResult expected result)

end Program

section Outcomes

variable {program : Program} {case : TestCase} {fuel : Nat} {fresh : Store → Store}
  {store left last : Store} {args : List Value} {expected : Value} {halt : Halt}

theorem runCaseOn_of_argument
    (hargs : (program.decodeAll fuel case.literals).outcome (fresh store) = (.error halt, left)) :
  (program.runCaseOn fuel fresh case store).1 = Program.haltOutcome EvalError.message halt
  := by
  simp only [Program.runCaseOn, hargs]

theorem runCaseOn_of_expected
    (hargs : (program.decodeAll fuel case.literals).outcome (fresh store) = (.ok args, left))
    (hexpected : (program.decode fuel case.function.output case.expected).outcome (fresh left)
      = (.error halt, last)) :
  (program.runCaseOn fuel fresh case store).1 = Program.haltOutcome EvalError.message halt
  := by
  simp only [Program.runCaseOn, hargs, hexpected]

theorem runCaseOn_of_values
    (hargs : (program.decodeAll fuel case.literals).outcome (fresh store) = (.ok args, left))
    (hexpected : (program.decode fuel case.function.output case.expected).outcome (fresh left)
      = (.ok expected, last)) :
  (program.runCaseOn fuel fresh case store).1
    = .ofResult expected ((program.interpret fuel case.function.id args).outcome (fresh last))
  := by
  simp only [Program.runCaseOn, hargs, hexpected]

theorem isolated_eq {α : Type} (run : Eval α) :
  Program.isolated run = run.outcome {}
  := rfl

/-- A case is run with a new store for each of its computations. -/
theorem runCase_eq (program : Program) (fuel : Nat) (case : TestCase) :
  program.runCase fuel case = (program.runCaseOn fuel (fun _ => {}) case {}).1
  := by
  rw [Program.runCase, isolated_eq, isolated_eq, ← TestCase.literals]
  rcases hargs : (program.decodeAll fuel case.literals).outcome {} with ⟨halt | args, left⟩
  · rw [runCaseOn_of_argument hargs]
    rw [Program.decodeAll] at hargs
    simp only [hargs]
  · rcases hexpected : (program.decode fuel case.function.output case.expected).outcome {}
      with ⟨halt | expected, last⟩
    · rw [runCaseOn_of_expected hargs hexpected]
      rw [Program.decodeAll] at hargs
      simp only [hargs]
    · rw [runCaseOn_of_values hargs hexpected]
      rw [Program.decodeAll] at hargs
      simp only [hargs, isolated_eq]
      rcases (program.interpret fuel case.function.id args).outcome {} with ⟨_ | _, _⟩ <;> rfl

theorem forall_inert_of_readsAll {literals : List (Ty × String)}
    (h : program.ReadsAll literals (.ok args)) :
  ∀ arg ∈ args, arg.Inert
  := by
  intro arg harg
  obtain ⟨literal, -, hreads⟩ := exists_related_left (readsAll_ok_iff.mp h) harg
  apply hreads.inert

/-- The outcome of a function is the same where its results agree. -/
theorem ofResult_eq (hexpected : expected.Inert) {pairing : Pairing}
    {result other : Except Halt Value × Store}
    (halike : EndsAlike Eq (Value.Like pairing) result.1 other.1)
    (hstores : result.2.Like pairing other.2) :
  CaseOutcome.ofResult expected result = CaseOutcome.ofResult expected other
  := by
  obtain ⟨result, after⟩ := result
  obtain ⟨other, last⟩ := other
  cases halike with
  | error herror => rw [herror]; rfl
  | ok hlike =>
    have hsame := hexpected.like pairing
    rw [CaseOutcome.ofResult, CaseOutcome.ofResult, hlike.same_eq hsame, hlike.text_eq hstores,
      hsame.text_eq hstores]

theorem ends_of_ofResult {result : Except Halt Value × Store}
    (h : CaseOutcome.ofResult expected result ≠ .unfinished) :
  result.1 ≠ .error .outOfFuel
  := by
  obtain ⟨_, after⟩ := result
  rintro ⟨⟩
  exact h rfl

/-- A function that ends on values without builders has the same outcome from every store. -/
theorem exists_settles_ofResult {id : EntityId} (hargs : ∀ arg ∈ args, arg.Inert)
    (hexpected : expected.Inert)
    (hends : ((program.interpret fuel id args).outcome store).1 ≠ .error .outOfFuel)
    (start : Store) :
  ∃ result, result.1 ≠ .error .outOfFuel
    ∧ Settles (fun fuel => program.interpret fuel id args) start result
    ∧ CaseOutcome.ofResult expected result
      = CaseOutcome.ofResult expected ((program.interpret fuel id args).outcome store)
  := by
  have hlike : ValuesLike (.none store.next start.next) args args :=
    List.forall₂_same.mpr fun arg harg => (hargs arg harg).like _
  obtain ⟨later, result, -, hsettles, halike, hfits⟩ :=
    follows_of_ends (.call ⟨program.module.id, id⟩ hlike) hends
  exact ⟨result, halike.ends, hsettles, (ofResult_eq hexpected halike hfits.toLike).symm⟩

/-- What a case has for an outcome, from any store, is what it comes to. -/
theorem comes_of_outcome (hends : (program.runCaseOn fuel fresh case store).1 ≠ .unfinished) :
  program.Comes case (program.runCaseOn fuel fresh case store).1
  := by
  rcases hargs : (program.decodeAll fuel case.literals).outcome (fresh store)
    with ⟨(error | _) | args, left⟩
  · rw [runCaseOn_of_argument hargs]
    apply Program.Comes.argument (readsAll_of_outcome hargs nofun)
  · exact absurd (runCaseOn_of_argument hargs) hends
  · have hreads := readsAll_of_outcome hargs nofun
    rcases hexpected : (program.decode fuel case.function.output case.expected).outcome (fresh left)
      with ⟨(error | _) | expected, last⟩
    · rw [runCaseOn_of_expected hargs hexpected]
      apply Program.Comes.expected hreads (reads_of_outcome hexpected nofun)
    · exact absurd (runCaseOn_of_expected hargs hexpected) hends
    · have hread := reads_of_outcome hexpected nofun
      rw [runCaseOn_of_values hargs hexpected] at hends ⊢
      obtain ⟨result, hended, hsettles, hsame⟩ := exists_settles_ofResult
        (forall_inert_of_readsAll hreads) hread.inert (ends_of_ofResult hends) {}
      rw [← hsame]
      apply Program.Comes.evaluated hreads hread hended hsettles

/-- A case has what it comes to for an outcome, from every store. -/
theorem Program.Comes.settles {outcome : CaseOutcome} (h : program.Comes case outcome)
    (fresh : Store → Store) (store : Store) :
  ∃ enough, ∀ fuel, enough ≤ fuel → (program.runCaseOn fuel fresh case store).1 = outcome
  := by
  cases h with
  | argument hargs =>
    obtain ⟨left, enough, hargs⟩ := hargs.settles (fresh store)
    use enough
    intro fuel hfuel
    apply runCaseOn_of_argument (hargs fuel hfuel)
  | expected hargs hexpected =>
    obtain ⟨left, enough, hargs⟩ := hargs.settles (fresh store)
    obtain ⟨last, enough', hexpected⟩ := hexpected.settles (fresh left)
    use max enough enough'
    intro fuel hfuel
    apply runCaseOn_of_expected (hargs fuel (by omega)) (hexpected fuel (by omega))
  | @evaluated args expected result hargs hexpected hends hresult =>
    have hinert := forall_inert_of_readsAll hargs
    have hinert' := hexpected.inert
    obtain ⟨left, enough, hargs⟩ := hargs.settles (fresh store)
    obtain ⟨last, enough', hexpected⟩ := hexpected.settles (fresh left)
    obtain ⟨least, hresult⟩ := hresult
    have hfirst := hresult least (Nat.le_refl _)
    rw [← hfirst] at hends
    obtain ⟨other, -, ⟨enough'', hother⟩, hsame⟩ :=
      exists_settles_ofResult hinert hinert' hends (fresh last)
    use max enough (max enough' enough'')
    intro fuel hfuel
    rw [runCaseOn_of_values (hargs fuel (by omega)) (hexpected fuel (by omega)),
      hother fuel (by omega), hsame, hfirst]

theorem Program.Comes.runCase {outcome : CaseOutcome} (h : program.Comes case outcome) :
  ∃ enough, ∀ fuel, enough ≤ fuel → program.runCase fuel case = outcome
  := by
  simp only [runCase_eq]
  apply h.settles

theorem Program.Comes.unique {outcome other : CaseOutcome} (h : program.Comes case outcome)
    (hother : program.Comes case other) :
  outcome = other
  := by
  obtain ⟨enough, h⟩ := h.settles id {}
  obtain ⟨enough', hother⟩ := hother.settles id {}
  rw [← h (max enough enough') (by omega), hother (max enough enough') (by omega)]

theorem Program.Comes.ends {outcome : CaseOutcome} (h : program.Comes case outcome) :
  outcome ≠ .unfinished
  := by
  cases h with
  | argument | expected => nofun
  | @evaluated args expected result _ _ hends =>
    obtain ⟨(error | _) | actual, after⟩ := result
    · nofun
    · exact absurd rfl hends
    · rw [CaseOutcome.ofResult]
      split_ifs <;> nofun

end Outcomes

end TypedModules
