import Mathlib.Data.List.Sort
import TypedModules.Eval.Tests
import TypedModules.Proofs.Graph.Reachable
import TypedModules.Proofs.Resolve.Order

/-!
# Test cases of a module

Only an annotation that gives a literal for each argument of its function, and one for the result,
holds a case.  In an accepted module every test annotation does (`Accepted.tests`), so the cases are
one for each annotation, in the order of the functions' ids and then of the annotations
(`Accepted.reports`).
-/

namespace TypedModules

open Check

/-- The test annotations of a function, in order. -/
def Function.tests (function : Function) : List Annotation :=
  function.annotations.filter Annotation.isTest

/-- Whether an annotation gives a literal for each argument of a function, and one for its
result. -/
structure Annotation.Tests (mark : Annotation) (header : FunctionHeader) (args : List String)
    (expected : String) : Prop where
  values : mark.values = [.list (args.map .literal), .literal expected]
  count : args.length = header.args.length

/-! ### Annotations that pass -/

theorem mapM_literal?_eq_some {values : List AnnotationValue} {texts : List String} :
  values.mapM AnnotationValue.literal? = some texts ↔ values = texts.map .literal
  := by
  induction values generalizing texts with
  | nil => cases texts <;> simp
  | cons value rest ih =>
    rw [List.mapM_cons]
    cases value with
    | list values => cases texts <;> simp [AnnotationValue.literal?]
    | literal text =>
      have hfirst : (AnnotationValue.literal text).literal? = some text := rfl
      rw [hfirst]
      cases texts with
      | nil => cases rest.mapM AnnotationValue.literal? <;> simp
      | cons first others =>
        rw [List.map_cons, List.cons.injEq, ← ih]
        cases rest.mapM AnnotationValue.literal? <;> simp

theorem case?_eq_some {mark : Annotation} {args : List String} {expected : String} :
  mark.case? = some (args, expected)
    ↔ mark.values = [.list (args.map .literal), .literal expected]
  := by
  unfold Annotation.case?
  split
  next values text hvalues => simp [hvalues, mapM_literal?_eq_some]
  next hother =>
    constructor
    · nofun
    · intro hvalues
      exact absurd hvalues (hother _ _)

/-- A test annotation that passes gives literals for a function. -/
theorem tests_of_checkTest {owner : EntityId} {location : Option Location}
    {header : FunctionHeader} {mark : Annotation} {a : Unit}
    (h : (checkTest owner location (some header) mark).Passes a) :
  ∃ args expected, mark.Tests header args expected
  := by
  rw [checkTest] at h
  split at h
  · exact absurd h (not_passes_report _ _ _ _)
  · split at h
    next args expected hvalues =>
      split_ifs at h with hcount hcase
      · exact absurd h (not_passes_report _ _ _ _)
      · exact absurd h (not_passes_report _ _ _ _)
      · obtain ⟨⟨texts, text⟩, hsome⟩ := Option.ne_none_iff_exists'.mp
          (fun e => hcase (Option.isNone_iff_eq_none.mpr e))
        have hwritten := case?_eq_some.mp hsome
        rw [hvalues] at hwritten
        obtain ⟨hargs, -⟩ := List.cons.inj hwritten
        obtain rfl := AnnotationValue.list.inj hargs
        refine ⟨texts, text, case?_eq_some.mp hsome, ?_⟩
        simpa using hcount
    · exact absurd h (not_passes_report _ _ _ _)

theorem tests_of_checkAnnotations {owner : EntityId} {location : Option Location}
    {header : FunctionHeader} {annotations : List Annotation} {a : Unit}
    (h : (checkAnnotations owner location (some header) annotations).Passes a) :
  ∀ mark ∈ annotations, mark.isTest = true → ∃ args expected, mark.Tests header args expected
  := by
  intro mark hmark htest
  have hpasses := passes_forM.mp h mark hmark
  rw [htest] at hpasses
  apply tests_of_checkTest hpasses

theorem tests_of_checkFunctionBody {setting : Setting} {headers : Headers}
    {declared : SourceFunction} {function : Function}
    (h : (checkFunctionBody setting headers declared).Passes function) :
  ∀ mark ∈ function.tests, ∃ args expected, mark.Tests function.toFunctionHeader args expected
  := by
  have hannotations := annotations_of_checkFunctionBody h
  have hfound := header_of_checkFunctionBody h
  rw [checkFunctionBody, hfound] at h
  obtain ⟨_, hpasses, -⟩ := passes_bind.mp h
  rw [← hannotations] at hpasses
  intro mark hmark
  rw [Function.tests, List.mem_filter] at hmark
  apply tests_of_checkAnnotations hpasses mark hmark.1 hmark.2

section Accepted

variable {module : Module}

/-- Every test annotation of an accepted module gives literals for its function. -/
theorem Accepted.tests (h : Accepted module) :
  ∀ function ∈ module.functions, ∀ mark ∈ function.tests,
    ∃ args expected, mark.Tests function.toFunctionHeader args expected
  := by
  obtain ⟨_, _, _, _, -, hchecked⟩ := h.checked
  intro function hfunction
  obtain ⟨declared, -, hpasses⟩ := exists_related_left hchecked.functions hfunction
  apply tests_of_checkFunctionBody hpasses

/-- No two functions of an accepted module have one id. -/
theorem Accepted.nodup_functions (h : Accepted module) :
  (module.functions.map (·.id)).Nodup
  := by
  obtain ⟨_, context, _, _, -, hchecked⟩ := h.checked
  have hids : context.functions.map (·.id) = module.functions.map (·.id) := by
    apply map_eq_map_of_related hchecked.functionHeaders
    intro declared function hpasses
    exact (id_of_checkFunctionHeader hpasses).symm
  rw [← hids]
  apply TypedModules.nodup_functions hchecked.distinct

theorem Accepted.function_unique (h : Accepted module) {f g : Function} (hf : f ∈ module.functions)
    (hg : g ∈ module.functions) (hid : f.id = g.id) :
  f = g
  := List.inj_on_of_nodup_map h.nodup_functions hf hg hid

end Accepted

/-! ### Numbered cases -/

/-- The cases of a function are its test annotations that hold cases, with their numbers. -/
theorem mem_cases {function : Function} {case : TestCase} :
  case ∈ function.cases
    ↔ case.function = function ∧ ∃ mark, function.tests[case.number]? = some mark
      ∧ mark.case? = some (case.args, case.expected)
  := by
  obtain ⟨owner, number, args, expected⟩ := case
  rw [Function.cases, List.mem_filterMap]
  constructor
  · rintro ⟨⟨mark, index⟩, hmark, hcase⟩
    rw [List.mem_zipIdx_iff_getElem?] at hmark
    obtain ⟨⟨texts, text⟩, hsome, e⟩ := Option.map_eq_some_iff.mp hcase
    cases e
    exact ⟨rfl, mark, hmark, hsome⟩
  · rintro ⟨rfl, mark, hmark, hsome⟩
    refine ⟨(mark, number), List.mem_zipIdx_iff_getElem?.mpr hmark, ?_⟩
    simp [hsome]

/-- The cases of a function are in the order of their numbers. -/
theorem pairwise_cases (function : Function) :
  function.cases.Pairwise fun a b => a.number < b.number
  := by
  have hnumbers : function.tests.zipIdx.Pairwise fun a b => a.2 < b.2 := by
    rw [← List.pairwise_map, List.zipIdx_map_snd]
    apply List.pairwise_lt_range' _ Nat.one_pos
  rw [Function.cases, List.pairwise_filterMap]
  apply hnumbers.imp
  rintro ⟨mark, m⟩ ⟨mark', n⟩ hlt case hcase case' hcase'
  obtain ⟨_, -, rfl⟩ := Option.map_eq_some_iff.mp hcase
  obtain ⟨_, -, rfl⟩ := Option.map_eq_some_iff.mp hcase'
  exact hlt

theorem mem_testFunctions {module : Module} {function : Function} :
  function ∈ module.testFunctions ↔ function ∈ module.functions ∧ function.tests ≠ []
  := by
  rw [Module.testFunctions, List.mem_mergeSort, List.mem_filter]
  apply and_congr_right
  intro _
  rw [Function.tests, ne_eq, List.filter_eq_nil_iff]
  simp

/-- Whether a result stands before another: by the ids of their functions, and then by their
numbers. -/
def CaseResult.Before (a b : CaseResult) : Prop :=
  a.function.le b.function = true ∧ a.function ≠ b.function
    ∨ a.function = b.function ∧ a.number < b.number

section Reports

variable {module : Module}

theorem EntityId.le_total (a b : EntityId) :
  (a.le b || b.le a) = true
  := by
  have hswap : compare b a = (compare a b).swap := Std.OrientedCmp.eq_swap
  rw [le, le, hswap]
  cases compare a b <;> rfl

theorem EntityId.le_trans (a b c : EntityId) (hab : a.le b = true) (hbc : b.le c = true) :
  a.le c = true
  := Std.TransCmp.isLE_trans hab hbc

/-- The functions with test annotations are in the order of their ids, each once. -/
theorem Accepted.pairwise_testFunctions (h : Accepted module) :
  module.testFunctions.Pairwise fun f g => f.id.le g.id = true ∧ f.id ≠ g.id
  := by
  rw [List.pairwise_and_iff]
  constructor
  · apply List.pairwise_mergeSort
    · intro f g k
      apply EntityId.le_trans
    · intro f g
      apply EntityId.le_total
  · have hperm := List.mergeSort_perm
      (module.functions.filter (·.annotations.any Annotation.isTest)) fun f g => f.id.le g.id
    have hfilter : ((module.functions.filter (·.annotations.any Annotation.isTest)).map
        (·.id)).Nodup := h.nodup_functions.sublist (List.filter_sublist.map _)
    have hids := hperm.map fun function : Function => function.id
    exact List.pairwise_map.mp (hids.nodup_iff.mpr hfilter)

/-- The results for the cases of a module. -/
def Module.results (module : Module) (outcome : TestCase → CaseOutcome) : List CaseResult :=
  module.cases.map fun case => ⟨case.function.id, case.number, outcome case⟩

theorem mem_results {outcome : TestCase → CaseOutcome} {result : CaseResult} :
  result ∈ module.results outcome
    ↔ ∃ function ∈ module.functions, ∃ mark args expected,
      function.tests[result.number]? = some mark ∧ mark.case? = some (args, expected)
        ∧ result = ⟨function.id, result.number, outcome ⟨function, result.number, args, expected⟩⟩
  := by
  rw [Module.results, Module.cases, List.mem_map]
  constructor
  · rintro ⟨⟨owner, number, args, expected⟩, hcase, rfl⟩
    obtain ⟨function, hfunction, hcase⟩ := List.mem_flatMap.mp hcase
    obtain ⟨rfl, mark, hmark, hsome⟩ := mem_cases.mp hcase
    exact ⟨owner, (mem_testFunctions.mp hfunction).1, mark, args, expected, hmark, hsome, rfl⟩
  · rintro ⟨function, hfunction, mark, args, expected, hmark, hsome, hresult⟩
    refine ⟨⟨function, result.number, args, expected⟩, ?_, hresult.symm⟩
    rw [List.mem_flatMap]
    refine ⟨function, mem_testFunctions.mpr ⟨hfunction, ?_⟩,
      mem_cases.mpr ⟨rfl, mark, hmark, hsome⟩⟩
    exact List.ne_nil_of_mem (List.mem_of_getElem? hmark)

theorem Accepted.pairwise_results (h : Accepted module) (outcome : TestCase → CaseOutcome) :
  (module.results outcome).Pairwise CaseResult.Before
  := by
  rw [Module.results, List.pairwise_map, Module.cases, List.pairwise_flatMap]
  constructor
  · intro function _
    apply (pairwise_cases function).imp_of_mem
    intro a b ha hb hlt
    refine .inr ⟨?_, hlt⟩
    rw [(mem_cases.mp ha).1, (mem_cases.mp hb).1]
  · apply h.pairwise_testFunctions.imp
    intro f g hfg a ha b hb
    obtain ⟨rfl, -⟩ := mem_cases.mp ha
    obtain ⟨rfl, -⟩ := mem_cases.mp hb
    exact .inl hfg

/-- Each test annotation of an accepted module has a result. -/
theorem Accepted.mem_numbers (h : Accepted module) (outcome : TestCase → CaseOutcome)
    {function : Function} (hfunction : function ∈ module.functions) {number : Nat} :
  number ∈ ((module.results outcome).filter (·.function == function.id)).map (·.number)
    ↔ number ∈ List.range function.tests.length
  := by
  rw [List.mem_range, List.mem_map]
  constructor
  · rintro ⟨result, hresult, rfl⟩
    obtain ⟨hresult, hid⟩ := List.mem_filter.mp hresult
    obtain ⟨owner, howner, mark, _, _, hmark, -, e⟩ := mem_results.mp hresult
    have hsame : owner.id = function.id := by
      rw [e] at hid
      exact beq_iff_eq.mp hid
    obtain rfl := h.function_unique howner hfunction hsame
    obtain ⟨hlt, -⟩ := List.getElem?_eq_some_iff.mp hmark
    exact hlt
  · intro hlt
    obtain ⟨args, expected, htests⟩ := h.tests function hfunction _ (List.getElem_mem hlt)
    have hresult : ⟨function.id, number, outcome ⟨function, number, args, expected⟩⟩
        ∈ module.results outcome :=
      mem_results.mpr ⟨function, hfunction, _, args, expected, List.getElem?_eq_getElem hlt,
        case?_eq_some.mpr htests.values, rfl⟩
    refine ⟨_, List.mem_filter.mpr ⟨hresult, ?_⟩, rfl⟩
    simp

theorem Accepted.numbers (h : Accepted module) (outcome : TestCase → CaseOutcome)
    {function : Function} (hfunction : function ∈ module.functions) :
  ((module.results outcome).filter (·.function == function.id)).map (·.number)
    = List.range function.tests.length
  := by
  have hsorted : (((module.results outcome).filter (·.function == function.id)).map
      (·.number)).Pairwise (· < ·) := by
    rw [List.pairwise_map]
    apply ((h.pairwise_results outcome).filter _).imp_of_mem
    intro a b ha hb hbefore
    have ha := beq_iff_eq.mp (List.mem_filter.mp ha).2
    have hb := beq_iff_eq.mp (List.mem_filter.mp hb).2
    rcases hbefore with ⟨-, hne⟩ | ⟨-, hlt⟩
    · exact absurd (ha.trans hb.symm) hne
    · exact hlt
  apply hsorted.eq_of_mem_iff List.pairwise_lt_range
  intro number
  apply h.mem_numbers outcome hfunction

end Reports

end TypedModules
