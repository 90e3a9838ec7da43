import Mathlib.Data.List.Pairwise
import TypedModules.Proofs.Check.Spared
import TypedModules.Proofs.Diagnostic.Filtered
import TypedModules.Proofs.Order.Reordered
import TypedModules.Proofs.Order.Runs

/-!
# Ids claimed more than once

Functions, structs, interfaces, adapters, unions, options and case distinctions all claim ids, and
an id that is claimed more than once is reported at each place that claims it, in the first round of
a check; no later round reports one.  A report names the id by its text, so that a sink which drops
equal diagnostics may take the reports of one id for those of another.  It keeps all of them exactly
if no two duplicated ids with the same text, claimed equally often, have claims at the same place in
the same position.

The main statement is `duplicates_reported`.
-/

namespace TypedModules

open Check

/-! ### Reports -/

/-- The message about an id that is claimed more than once. -/
def duplicateMessage (id : EntityId) : String :=
  "duplicate id '" ++ id.text ++ "'"

/-- What is reported about an id claimed `count` times at one of the places that claim it, given
with its position. -/
def duplicateReport (id : EntityId) (count : Nat) (claim : Option Location × Nat) : Diagnostic :=
  ((Diagnostic.error .duplicateId (duplicateMessage id)).labelled claim.1 "declared here").withNote
    ("declaration " ++ toString claim.2 ++ " of " ++ toString count ++ " for '" ++ id.text ++ "'")

/-- What is reported about a duplicated id. -/
def Context.duplicateReports (context : Context) (id : EntityId) : List Diagnostic :=
  ((context.sites id).zipIdx 1).map (duplicateReport id (context.sites id).length)

section Reports

variable {context : Context} {id : EntityId} {count : Nat} {claim : Option Location × Nat}

@[simp]
theorem location?_duplicateReport :
  (duplicateReport id count claim).location? = claim.1
  := by
  obtain ⟨_ | site, index⟩ := claim <;> rfl

@[simp]
theorem duplicateMessage_inj {other : EntityId} :
  duplicateMessage id = duplicateMessage other ↔ id.text = other.text
  := by
  simp [duplicateMessage]

/-- From a report can be read what it is about: the text of the id, how often it is claimed, and the
place and the position of the claim. -/
theorem duplicateReport_inj {other : EntityId} {count' : Nat} {claim' : Option Location × Nat} :
  duplicateReport id count claim = duplicateReport other count' claim'
    ↔ id.text = other.text ∧ count = count' ∧ claim = claim'
  := by
  constructor
  · intro h
    have htext : id.text = other.text := duplicateMessage_inj.mp (congrArg Diagnostic.message h)
    have hplace : claim.1 = claim'.1 := by
      simpa using congrArg Diagnostic.location? h
    -- the note holds the position and the number of claims, each up to a blank
    have hnote := congrArg String.toList (List.singleton_inj.mp (congrArg Diagnostic.notes h))
    simp only [String.toList_append, Nat.toString_eq_repr, Nat.toList_repr, List.append_assoc,
      List.append_cancel_left_eq] at hnote
    obtain ⟨hindex, hof⟩ := Fingerprint.toDigits_append_inj rfl hnote
    obtain ⟨hcount, -⟩ := Fingerprint.toDigits_append_inj rfl (List.append_cancel_left hof)
    exact ⟨htext, hcount, Prod.ext hplace hindex⟩
  · rintro ⟨htext, rfl, rfl⟩
    simp [duplicateReport, duplicateMessage, htext]

theorem mem_duplicateReports {diagnostic : Diagnostic} :
  diagnostic ∈ context.duplicateReports id
    ↔ ∃ index site, (context.sites id)[index]? = some site
        ∧ duplicateReport id (context.sites id).length (site, index + 1) = diagnostic
  := by
  simp only [Context.duplicateReports, List.mem_map, Prod.exists]
  constructor
  · rintro ⟨site, index, hmem, rfl⟩
    obtain ⟨hle, hsite⟩ := List.mem_zipIdx_iff_le_and_getElem?_sub.mp hmem
    exact ⟨index - 1, site, hsite, by rw [Nat.sub_add_cancel hle]⟩
  · rintro ⟨index, site, hsite, rfl⟩
    refine ⟨site, index + 1, ?_, rfl⟩
    rw [List.mem_zipIdx_iff_le_and_getElem?_sub]
    exact ⟨Nat.le_add_left 1 index, hsite⟩

/-- Each claim of an id is reported at its place. -/
theorem location?_duplicateReports :
  (context.duplicateReports id).map (·.location?) = context.sites id
  := by
  simp [Context.duplicateReports, Function.comp_def]

theorem message_duplicateReports {diagnostic : Diagnostic}
    (h : diagnostic ∈ context.duplicateReports id) :
  diagnostic.message = duplicateMessage id
  := by
  obtain ⟨index, site, -, rfl⟩ := mem_duplicateReports.mp h
  rfl

/-- The reports about an id differ in the position of the claim. -/
theorem nodup_duplicateReports :
  (context.duplicateReports id).Nodup
  := by
  apply List.Nodup.map
  · intro claim claim' h
    exact (duplicateReport_inj.mp h).2.2
  · apply List.Nodup.of_map Prod.snd
    rw [List.zipIdx_map_snd]
    exact List.nodup_range'

end Reports

/-! ### Ids with the same text -/

/-- Whether the reports about different ids are different: no two ids with the same text that are
claimed equally often are claimed at the same place in the same position. -/
def Context.ToldApart (context : Context) : Prop :=
  ∀ a ∈ context.duplicateIds, ∀ b ∈ context.duplicateIds, a.text = b.text →
    (context.sites a).length = (context.sites b).length →
      ∀ (index : Nat) (site : Option Location), (context.sites a)[index]? = some site →
        (context.sites b)[index]? = some site → a = b

theorem nodup_flatMap_duplicateReports {context : Context} :
  (context.duplicateIds.flatMap context.duplicateReports).Nodup ↔ context.ToldApart
  := by
  rw [List.nodup_flatMap]
  constructor
  · rintro ⟨-, hdisjoint⟩ a ha b hb htext hcount index site hsite hsite'
    by_contra hne
    have hsymm : Std.Symm (Function.onFun List.Disjoint context.duplicateReports) :=
      ⟨fun _ _ h _ ha hb => h hb ha⟩
    have hdisjoint : List.Disjoint (context.duplicateReports a) (context.duplicateReports b) :=
      hdisjoint.forall ha hb hne
    have hreport : duplicateReport a (context.sites a).length (site, index + 1)
        = duplicateReport b (context.sites b).length (site, index + 1) :=
      duplicateReport_inj.mpr ⟨htext, hcount, rfl⟩
    exact hdisjoint (mem_duplicateReports.mpr ⟨index, site, hsite, rfl⟩)
      (mem_duplicateReports.mpr ⟨index, site, hsite', hreport.symm⟩)
  · intro h
    refine ⟨fun _ _ => nodup_duplicateReports, ?_⟩
    apply (nodup_duplicateIds context).imp_of_mem
    intro a b ha hb hne diagnostic hmem hmem'
    obtain ⟨index, site, hsite, rfl⟩ := mem_duplicateReports.mp hmem
    obtain ⟨index', site', hsite', hreport⟩ := mem_duplicateReports.mp hmem'
    obtain ⟨htext, hcount, hclaim⟩ := duplicateReport_inj.mp hreport
    obtain ⟨rfl, hindex⟩ := Prod.mk.inj hclaim
    obtain rfl := Nat.succ.inj hindex
    exact hne (h a ha b hb htext.symm hcount.symm _ _ hsite hsite')

theorem toldApart_of_texts {context : Context}
    (h : ∀ a ∈ context.duplicateIds, ∀ b ∈ context.duplicateIds, a.text = b.text → a = b) :
  context.ToldApart
  := fun a ha b hb htext _ _ _ _ _ => h a ha b hb htext

/-! ### What is recorded -/

theorem run_reportSites (context : Context) (id : EntityId) (behind : Bool) :
  reportSites id (context.sites id) behind = (some (), context.duplicateReports id)
  := by
  rw [reportSites, run_forM fun _ _ => goesOn_emit _, Context.duplicateReports,
    List.map_eq_flatMap]
  rfl

theorem run_checkDeclarations (context : Context) (behind : Bool) :
  checkDeclarations context behind
    = (some (), context.duplicateIds.flatMap context.duplicateReports)
  := by
  rw [checkDeclarations, run_forM fun _ _ => goesOn_reportSites _ _]
  simp only [run_reportSites]

/-- Without a limit, the errors about duplicated ids are the reports about each, in the order of the
first claims, of which a sink may drop some for others. -/
theorem filter_errors_validate {number : Nat} {context : Context} {name : ModuleName}
    {dependencies : List Module} {config : SinkConfig} (hlimit : config.limit = 0) :
  (validate number context name dependencies config).errors.filter (·.code == .duplicateId)
    = config.distinct (context.duplicateIds.flatMap context.duplicateReports)
  := by
  rw [errors_validate hlimit, SinkConfig.filter_distinct, List.filter_filter, checkModule_eq,
    run_bind, run_checkDeclarations]
  dsimp only
  have hreports : ∀ diagnostic ∈ context.duplicateIds.flatMap context.duplicateReports,
      (diagnostic.code == .duplicateId && diagnostic.isError) = true := by
    intro diagnostic hmem
    obtain ⟨id, -, hmem⟩ := List.mem_flatMap.mp hmem
    obtain ⟨index, site, -, rfl⟩ := mem_duplicateReports.mp hmem
    rfl
  rw [List.filter_append, List.filter_eq_self.mpr hreports, List.filter_eq_nil_iff.mpr,
    List.append_nil]
  -- the rounds after the first add nothing
  intro diagnostic hmem
  simp [spares_checkRounds _ _ _ diagnostic hmem]

/-- If no other id that is claimed has the text of an id, only this id is duplicated under it. -/
theorem filter_duplicateIds {context : Context} {id : EntityId}
    (h : ∀ claim ∈ context.claims, claim.id.text = id.text → claim.id = id) :
  context.duplicateIds.filter (fun other => other.text == id.text)
    = if 1 < (context.sites id).length then [id] else []
  := by
  have hid : ∀ other ∈ context.duplicateIds, (other.text == id.text) = (other == id) := by
    intro other hother
    rw [Bool.eq_iff_iff, beq_iff_eq, beq_iff_eq]
    refine ⟨fun htext => ?_, congrArg EntityId.text⟩
    have hclaimed := List.mem_eraseDups.mp (List.mem_filter.mp hother).1
    obtain ⟨claim, hclaim, rfl⟩ := List.mem_map.mp hclaimed
    exact h claim hclaim htext
  rw [List.filter_congr hid, List.filter_beq, (nodup_duplicateIds context).count]
  simp only [mem_duplicateIds]
  split <;> rfl

theorem filter_message_duplicateReports (context : Context) (ids : List EntityId) (id : EntityId) :
  (ids.flatMap context.duplicateReports).filter (·.message == duplicateMessage id)
    = (ids.filter fun other => other.text == id.text).flatMap context.duplicateReports
  := by
  induction ids with
  | nil => rfl
  | cons other rest ih =>
    have hmessage : ∀ diagnostic ∈ context.duplicateReports other,
        (diagnostic.message == duplicateMessage id) = (other.text == id.text) := by
      intro diagnostic hmem
      rw [message_duplicateReports hmem, Bool.eq_iff_iff, beq_iff_eq, beq_iff_eq,
        duplicateMessage_inj]
    rw [List.flatMap_cons, List.filter_append, ih, List.filter_congr hmessage, List.filter_cons]
    cases other.text == id.text <;> simp

/-- If no other id that is claimed has the text of an id, the errors under its message are at the
places of its claims. -/
theorem location?_filter_message {config : SinkConfig} {context : Context} {id : EntityId}
    (h : ∀ claim ∈ context.claims, claim.id.text = id.text → claim.id = id) :
  ((config.distinct (context.duplicateIds.flatMap context.duplicateReports)).filter
      (·.message == duplicateMessage id)).map (·.location?)
    = if 1 < (context.sites id).length then context.sites id else []
  := by
  rw [SinkConfig.filter_distinct, filter_message_duplicateReports, filter_duplicateIds h]
  split
  · rw [List.flatMap_cons, List.flatMap_nil, List.append_nil,
      SinkConfig.distinct_of_nodup fun _ => nodup_duplicateReports, location?_duplicateReports]
  · simp [SinkConfig.distinct]

/-- What is recorded about duplicated ids is what is reported about each exactly if the ids are told
apart or equal diagnostics are kept. -/
theorem map_distinct_duplicateReports {config : SinkConfig} {context : Context} :
  (config.distinct (context.duplicateIds.flatMap context.duplicateReports)).map
      (fun diagnostic => (diagnostic.message, diagnostic.location?))
    = context.duplicateIds.flatMap (fun id =>
        (context.sites id).map fun site => (duplicateMessage id, site))
    ↔ (config.dedup = true → context.ToldApart)
  := by
  have hreports : (context.duplicateIds.flatMap context.duplicateReports).map
      (fun diagnostic => (diagnostic.message, diagnostic.location?))
      = context.duplicateIds.flatMap (fun id =>
          (context.sites id).map fun site => (duplicateMessage id, site)) := by
    rw [List.map_flatMap]
    apply List.flatMap_congr
    intro id _
    rw [← location?_duplicateReports, List.map_map]
    apply List.map_congr_left
    intro diagnostic hmem
    rw [message_duplicateReports hmem]
    rfl
  rw [← hreports]
  constructor
  · intro h hdedup
    rw [← nodup_flatMap_duplicateReports]
    apply SinkConfig.nodup_of_length_distinct hdedup
    simpa using congrArg List.length h
  · intro h
    rw [SinkConfig.distinct_of_nodup fun hdedup => nodup_flatMap_duplicateReports.mpr (h hdedup)]

/-! ### References -/

section References

variable {scope : Scope} {space : Namespace} {reference : Reference}
  (h : reference.id ∈ scope.duplicates)
include h

theorem resolve_duplicate (hadmits : reference.admits scope.home = true) :
  scope.resolve space reference = .error (.duplicate reference)
  := by
  have hmeans : scope.meansDuplicate reference = true := by
    rw [Scope.meansDuplicate, hadmits, List.contains_iff_mem.mpr h]
    rfl
  rw [Scope.resolve, if_pos hmeans]

/-- What a duplicated id stands for is in another module. -/
theorem module_ne_home_of_resolve {entry : Visible}
    (hresolve : scope.resolve space reference = .ok entry) :
  entry.entity.module ≠ scope.home
  := by
  intro hhome
  obtain ⟨hmeans, hcandidates⟩ := resolve_eq_ok.mp hresolve
  have hentry : entry ∈ scope.candidates space reference := by simp [hcandidates]
  have hadmits := (Bool.and_eq_true_iff.mp (List.mem_filter.mp hentry).2).2
  rw [hhome] at hadmits
  rw [resolve_duplicate h hadmits] at hresolve
  cases hresolve

end References

/-- Every duplicated id is reported at each place that claims it, if there is no limit to the errors
recorded.  A module with such an id is rejected.  The errors about an id whose text no other claimed
id has are as many as it has claims if these are at least two, each at the place of one claim, and
none if it has one.  There is an error for each claim of every duplicated id, in the order of the
first claims, exactly if equal diagnostics are kept or the duplicated ids are told apart.  A
reference to a duplicated id is an error unless it rules out the module itself, and never stands for
what the module declares. -/
theorem duplicates_reported (number : Nat) (context : Context) (name : ModuleName)
    (dependencies : List Module) (dedup : Bool) :
  let verdict := validate number context name dependencies ⟨0, dedup⟩
  let reported := verdict.errors.filter (·.code == .duplicateId)
  let home := context.moduleId name dependencies
  let scope := (Setting.ofModule number home context dependencies).scope
  (∀ id, 1 < (context.sites id).length →
      ∃ errors warnings, verdict = .failure errors warnings)
    ∧ (∀ id, (∀ claim ∈ context.claims, claim.id.text = id.text → claim.id = id) →
        (reported.filter (·.message == duplicateMessage id)).map (·.location?)
          = if 1 < (context.sites id).length then context.sites id else [])
    ∧ (reported.map (fun diagnostic => (diagnostic.message, diagnostic.location?))
          = ((context.claims.map (·.id)).eraseDups.filter fun id =>
              1 < (context.sites id).length).flatMap
              (fun id => (context.sites id).map fun site => (duplicateMessage id, site))
        ↔ (dedup = true → context.ToldApart))
    ∧ ∀ space reference, 1 < (context.sites reference.id).length →
        (reference.admits home = true →
            scope.resolve space reference = .error (.duplicate reference))
          ∧ ∀ entry, scope.resolve space reference = .ok entry → entry.entity.module ≠ home
  := by
  intro verdict reported home scope
  have hreported : reported = SinkConfig.distinct ⟨0, dedup⟩
      (context.duplicateIds.flatMap context.duplicateReports) := filter_errors_validate rfl
  refine ⟨fun id hcount => ?_, fun id h => ?_, ?_, fun space reference hcount => ?_⟩
  · cases hverdict : verdict with
    | failure errors warnings => exact ⟨errors, warnings, rfl⟩
    | success module warnings =>
      obtain ⟨_, hdeclared, -⟩ := passes_bind.mp (passes_of_validate hverdict)
      have hnone := duplicateIds_of_passes hdeclared
      rw [← mem_duplicateIds, hnone] at hcount
      cases hcount
  · rw [hreported]
    exact location?_filter_message h
  · rw [hreported]
    exact map_distinct_duplicateReports
  · have hduplicate : reference.id ∈ scope.duplicates := mem_duplicateIds.mpr hcount
    exact ⟨resolve_duplicate hduplicate, fun entry => module_ne_home_of_resolve hduplicate⟩

/-- The function `<id>(): Integer` that returns one. -/
def constantAt (id : EntityId) (location : Option Location) : SourceFunction where
  id := id
  typeParams := []
  args := []
  output := .integer
  body := .mk [.bare (.literal .integer "1" none)] none
  annotations := []
  location := location

/-- A context in which a function has the id of the adapter of an interface, and two other functions
have one id.  Of all these only the first has a place. -/
def takenAdapter : Context where
  functions := [constantAt ⟨["Shape", "Adapter"]⟩ (some ⟨"app", ⟨0, 7⟩⟩),
    constantAt ⟨["twice"]⟩ none, constantAt ⟨["twice"]⟩ none]
  interfaces := [{
    id := ⟨["Shape"]⟩
    typeParams := []
    methods := []
    annotations := []
    location := none }]

theorem duplicates_reported_takenAdapter :
  (∀ claim ∈ takenAdapter.claims,
      claim.id.text = (EntityId.mk ["twice"]).text → claim.id = ⟨["twice"]⟩)
    ∧ 1 < (takenAdapter.sites ⟨["Shape", "Adapter"]⟩).length
    ∧ ∃ errors warnings,
        validate 0 takenAdapter ⟨"example", "app"⟩ [] ⟨0, true⟩ = .failure errors warnings
          ∧ ((errors.filter (·.code == .duplicateId)).filter
              (·.message == "duplicate id 'twice'")).map (·.location?) = [none, none]
          ∧ (errors.filter (·.code == .duplicateId)).map (fun d => (d.message, d.location?))
            = [("duplicate id 'Shape.Adapter'", some ⟨"app", ⟨0, 7⟩⟩),
              ("duplicate id 'Shape.Adapter'", none), ("duplicate id 'twice'", none),
              ("duplicate id 'twice'", none)]
          ∧ (Setting.ofModule 0 (takenAdapter.moduleId ⟨"example", "app"⟩ []) takenAdapter
              []).scope.resolve .type ⟨none, ⟨["Shape", "Adapter"]⟩⟩
            = .error (.duplicate ⟨none, ⟨["Shape", "Adapter"]⟩⟩)
  := by
  have htwice : ∀ claim ∈ takenAdapter.claims,
      claim.id.text = (EntityId.mk ["twice"]).text → claim.id = ⟨["twice"]⟩ := by
    decide +kernel
  have hadapter : 1 < (takenAdapter.sites ⟨["Shape", "Adapter"]⟩).length := by decide +kernel
  have htexts : ∀ a ∈ takenAdapter.duplicateIds, ∀ b ∈ takenAdapter.duplicateIds,
      a.text = b.text → a = b := by
    decide +kernel
  obtain ⟨hfailure, heach, hall, hresolve⟩ :=
    duplicates_reported 0 takenAdapter ⟨"example", "app"⟩ [] true
  obtain ⟨errors, warnings, hverdict⟩ := hfailure _ hadapter
  have htwiceErrors := heach _ htwice
  have hallErrors := hall.mpr fun _ => toldApart_of_texts htexts
  rw [hverdict] at htwiceErrors hallErrors
  exact ⟨htwice, hadapter, errors, warnings, hverdict, htwiceErrors, hallErrors,
    (hresolve _ _ hadapter).1 rfl⟩

/-- A context in which two functions have the id `U.a.b`, and two options of the union `U` are
called `a.b`, so that their id has the same text. -/
def dottedOption : Context where
  functions := [constantAt ⟨["U", "a", "b"]⟩ none, constantAt ⟨["U", "a", "b"]⟩ none]
  unions := [{
    id := ⟨["U"]⟩
    typeParams := []
    options := [⟨"a.b", none, none⟩, ⟨"a.b", none, none⟩]
    annotations := []
    location := none }]

/-- Two ids are claimed twice, and two errors are recorded for both. -/
theorem merged_reports :
  (dottedOption.sites ⟨["U", "a", "b"]⟩).length = 2
    ∧ (dottedOption.sites ⟨["U", "a.b"]⟩).length = 2
    ∧ ((validate 0 dottedOption ⟨"example", "app"⟩ [] ⟨0, true⟩).errors.filter
        (·.code == .duplicateId)).length = 2
  := by
  decide +kernel

end TypedModules
