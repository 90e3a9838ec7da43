import TypedModules.Proofs.Check.Types
import TypedModules.Proofs.Typing.Module

/-!
# Markers of written types

A reference type is marked where it is written.  In a written type that passes, each name that
stands for an entity is marked exactly if the entity's type is a reference, and among the types
that are written alike but for their markers no other passes: the first name in it that is marked
wrongly is the one error (`marker_exact`).

The marker of a name that stands for a type parameter is not looked at.  A type parameter is never
a reference, but it may be marked as one (`marked_param`).
-/

namespace TypedModules

open Check

/-! ### Checks that stand alone -/

namespace Check

variable {α β : Type}

/-- Whether a check has a result and emits nothing, whatever is emitted before it. -/
def Gives (check : Check α) (a : α) : Prop :=
  ∀ behind, check behind = (some a, [])

/-- Whether a check fails with one diagnostic, whatever is emitted before it. -/
def Refuses (check : Check α) (diagnostic : Diagnostic) : Prop :=
  ∀ behind, check behind = (none, [diagnostic])

/-- Whether a check that has a result emits nothing, and has it whatever is emitted before. -/
def Plain (check : Check α) : Prop :=
  ∀ behind a, (check behind).1 = some a → check.Gives a

theorem gives_pure (a : α) :
  (pure a : Check α).Gives a
  := fun _ => rfl

theorem Gives.passes {check : Check α} {a : α} (h : check.Gives a) :
  check.Passes a
  := by
  simp [Passes, h false, hasError]

theorem gives_iff_passes {check : Check α} {a : α} (h : check.Plain) :
  check.Gives a ↔ check.Passes a
  := ⟨Gives.passes, fun hpass => h false a hpass.2⟩

theorem Gives.bind {check : Check α} {next : α → Check β} {a : α} {b : β} (h : check.Gives a)
    (hnext : (next a).Gives b) :
  (check >>= next).Gives b
  := by
  intro behind
  rw [run_bind, h behind]
  simp [hnext (behind || _)]

theorem Gives.bind_refuses {check : Check α} {next : α → Check β} {a : α}
    {diagnostic : Diagnostic} (h : check.Gives a) (hnext : (next a).Refuses diagnostic) :
  (check >>= next).Refuses diagnostic
  := by
  intro behind
  rw [run_bind, h behind]
  simp [hnext (behind || _)]

theorem Refuses.bind {check : Check α} {diagnostic : Diagnostic} (h : check.Refuses diagnostic)
    (next : α → Check β) :
  (check >>= next).Refuses diagnostic
  := by
  intro behind
  rw [run_bind, h behind]

/-- No check both has a result and fails. -/
theorem Gives.not_refuses {check : Check α} {a : α} {diagnostic : Diagnostic}
    (h : check.Gives a) :
  ¬check.Refuses diagnostic
  := by
  intro hrefuses
  have hnone := hrefuses false
  rw [h false] at hnone
  cases hnone

@[simp]
theorem plain_pure (a : α) :
  (pure a : Check α).Plain
  := by
  rintro _ _ h
  cases h
  exact gives_pure a

/-- What never has a result is plain. -/
theorem plain_of_none {check : Check α} (h : ∀ behind, (check behind).1 = none) :
  check.Plain
  := by
  intro behind a ha
  rw [h behind] at ha
  cases ha

@[simp]
theorem plain_fail (code : Code) (location : Option Location) (message : String) :
  (fail code location message : Check α).Plain
  := plain_of_none fun _ => rfl

@[simp]
theorem plain_failBehind (message : String) :
  (failBehind message : Check α).Plain
  := by
  apply plain_of_none
  intro behind
  cases behind <;> rfl

theorem Plain.bind {check : Check α} {next : α → Check β} (h : check.Plain)
    (hnext : ∀ a, (next a).Plain) :
  (check >>= next).Plain
  := by
  intro behind b hb
  rw [run_bind] at hb
  split at hb
  next => cases hb
  next a log hrun =>
    have ha : check.Gives a := h behind a (by rw [hrun])
    exact ha.bind (hnext a _ b hb)

theorem plain_ite {c : Prop} [Decidable c] {yes no : Check α} (hyes : yes.Plain)
    (hno : no.Plain) :
  (if c then yes else no).Plain
  := by
  split
  · exact hyes
  · exact hno

end Check

/-! ### Names and their markers -/

/-- A named type as it is written, apart from its arguments. -/
structure WrittenName where
  isMarked : Bool
  reference : Reference
  location : Option Location

namespace WrittenName

/-- The error about a name that is marked although it is not a reference type, or the other way
round. -/
def misuse (name : WrittenName) : Diagnostic :=
  let text := name.reference.text
  (Diagnostic.error .markerMismatch
    (if name.isMarked then "'" ++ text ++ "' is not a reference type; remove the '&'"
    else "'" ++ text ++ "' is a reference type and must be written '&" ++ text ++ "'")).labelled
      name.location "here"

/-- Whether a name stands in a written type where another type stands in the type that is made
of it. -/
inductive Stands (name : WrittenName) (found : Ty) : SourceTy → Ty → Prop
  | here {params : List SourceTy} :
    Stands name found (.named name.isMarked name.reference params name.location) found
  | element {written : SourceTy} {type : Ty} :
    Stands name found written type → Stands name found (.list written) (.list type)
  | inner {written : SourceTy} {type : Ty} :
    Stands name found written type → Stands name found (.tryOf written) (.tryOf type)
  | arg {isReference : Bool} {typeParams : List TypeParam} {args : List SourceTy}
      {types : List Ty} {output : SourceTy} {result : Ty} {location : Option Location}
      {written : SourceTy} {type : Ty} :
    (written, type) ∈ args.zip types → Stands name found written type →
    Stands name found (.function isReference typeParams args output location)
      (.function isReference typeParams types result)
  | output {isReference : Bool} {typeParams : List TypeParam} {args : List SourceTy}
      {types : List Ty} {output : SourceTy} {result : Ty} {location : Option Location} :
    Stands name found output result →
    Stands name found (.function isReference typeParams args output location)
      (.function isReference typeParams types result)
  | param {isMarked isReference : Bool} {reference : Reference} {entity : Entity}
      {params : List SourceTy} {types : List Ty} {location : Option Location}
      {written : SourceTy} {type : Ty} :
    (written, type) ∈ params.zip types → Stands name found written type →
    Stands name found (.named isMarked reference params location)
      (.named isReference entity reference types)

/-- Whether a name is marked as it has to be: where it stands for an entity, exactly if the type
of the entity is a reference. -/
def IsRight (name : WrittenName) : Ty → Prop
  | .named isReference _ _ _ => name.isMarked = isReference
  | _ => True

end WrittenName

mutual

/-- Whether two written types differ in nothing but the markers of their names. -/
def SourceTy.Remarked : SourceTy → SourceTy → Prop
  | .integer, other => other = .integer
  | .natural, other => other = .natural
  | .boolean, other => other = .boolean
  | .list element, other => ∃ e, element.Remarked e ∧ other = .list e
  | .tryOf inner, other => ∃ e, inner.Remarked e ∧ other = .tryOf e
  | .function isReference typeParams args output location, other =>
    ∃ as o, RemarkedAll args as ∧ output.Remarked o
      ∧ other = .function isReference typeParams as o location
  | .named _ reference params location, other =>
    ∃ isMarked ps, RemarkedAll params ps ∧ other = .named isMarked reference ps location

/-- Whether written types differ, position by position, in nothing but markers. -/
def SourceTy.RemarkedAll : List SourceTy → List SourceTy → Prop
  | [], others => others = []
  | first :: rest, others =>
    ∃ other more, first.Remarked other ∧ RemarkedAll rest more ∧ others = other :: more

end

section Marker

variable {setting : Setting} {location : Option Location}

theorem checkMarker_self (reference : Reference) (isMarked : Bool) :
  checkMarker reference isMarked isMarked location = pure ()
  := by
  cases isMarked <;> rfl

/-- A marker that is wrong is one error. -/
theorem refuses_checkMarker (name : WrittenName) {isReference : Bool}
    (h : name.isMarked ≠ isReference) :
  (checkMarker name.reference name.isMarked isReference name.location).Refuses name.misuse
  := by
  obtain ⟨isMarked, reference, location⟩ := name
  intro behind
  cases isMarked <;> cases isReference <;> first | exact absurd rfl h | rfl

@[simp]
theorem plain_checkMarker (reference : Reference) (isMarked isReference : Bool) :
  (checkMarker reference isMarked isReference location).Plain
  := by
  by_cases h : isMarked = isReference
  · rw [h, checkMarker_self]
    exact plain_pure ()
  · exact plain_of_none fun behind =>
      congrArg Prod.fst (refuses_checkMarker ⟨isMarked, reference, location⟩ h behind)

/-- A reference whose type was found is found again if it is marked otherwise, but for the check
of the marker. -/
theorem namedHeader_remarked {reference : Reference} {isMarked : Bool} {argCount : Nat}
    {found : Entity × TypeHeader}
    (h : (setting.namedHeader reference isMarked argCount location).Passes found) (other : Bool) :
  setting.namedHeader reference other argCount location
    = (checkMarker reference other found.2.isReference location >>= fun _ => pure found)
  := by
  obtain ⟨entry, hentry, hheader, hentity, -, hcount⟩ := passes_namedHeader.mp h
  simp only [Setting.namedHeader, Setting.resolve, hentry, hheader, pure_bind]
  simp [hcount, hentity]

end Marker

/-! ### Written types -/

section Plain

variable {setting : Setting}

@[simp]
theorem plain_resolve (space : Namespace) (reference : Reference)
    (location : Option Location) :
  (setting.resolve space reference location).Plain
  := by
  unfold Setting.resolve
  split
  · exact plain_pure _
  · exact plain_fail _ _ _

@[simp]
theorem plain_requireValueType (type : Ty) (location : Option Location) (role : String) :
  (requireValueType type location role).Plain
  := plain_ite (plain_fail _ _ _) (plain_pure ())

@[simp]
theorem plain_namedHeader (reference : Reference) (isMarked : Bool) (argCount : Nat)
    (location : Option Location) :
  (setting.namedHeader reference isMarked argCount location).Plain
  := by
  apply (plain_resolve _ _ _).bind
  intro entry
  split
  · exact plain_failBehind _
  · apply (plain_checkMarker _ _ _).bind
    intro _
    exact plain_ite ((plain_fail _ _ _).bind fun _ => plain_pure _) (plain_pure _)

mutual

/-- The check of a written type emits nothing if it has a result. -/
theorem plain_checkTyWithin :
    (internal : List String) → (type : SourceTy) → (checkTyWithin setting internal type).Plain
  | _, .integer => plain_pure _
  | _, .natural => plain_pure _
  | _, .boolean => plain_pure _
  | internal, .list element =>
    (plain_checkTyWithin internal element).bind fun _ =>
      (plain_requireValueType _ _ _).bind fun _ => plain_pure _
  | internal, .tryOf inner =>
    (plain_checkTyWithin internal inner).bind fun _ =>
      (plain_requireValueType _ _ _).bind fun _ => plain_pure _
  | internal, .function _ typeParams args output _ => by
    unfold checkTyWithin
    dsimp only
    split
    · exact plain_fail _ _ _
    · apply (plain_checkTysWithin _ args).bind
      intro _
      exact (plain_checkTyWithin _ output).bind fun _ => plain_pure _
  | internal, .named _ _ params location => by
    unfold checkTyWithin
    split
    · exact plain_pure _
    · apply (plain_namedHeader _ _ _ _).bind
      intro _
      exact (plain_checkTyArgsWithin internal location params).bind fun _ => plain_pure _

theorem plain_checkTysWithin :
    (internal : List String) → (types : List SourceTy) →
      (checkTysWithin setting internal types).Plain
  | _, [] => plain_pure _
  | internal, type :: rest =>
    (plain_checkTyWithin internal type).bind fun _ =>
      (plain_checkTysWithin internal rest).bind fun _ => plain_pure _

theorem plain_checkTyArgsWithin :
    (internal : List String) → (location : Option Location) → (types : List SourceTy) →
      (checkTyArgsWithin setting internal location types).Plain
  | _, _, [] => plain_pure _
  | internal, location, type :: rest =>
    (plain_checkTyWithin internal type).bind fun _ =>
      (plain_requireValueType _ _ _).bind fun _ =>
        (plain_checkTyArgsWithin internal location rest).bind fun _ => plain_pure _

end

end Plain

section Marked

variable {setting : Setting}

/-- What a name stands for where the check of a written type passes: a type parameter of a
function type around it or of the declaration, or an entity that is marked as its type demands. -/
inductive Setting.Marks (setting : Setting) (name : WrittenName) : Ty → Prop
  | internal {index : Nat} : setting.Marks name (.internal index)
  | declared {param : TypeParam} : param ∈ setting.typeParams → setting.Marks name (.param param)
  | entity {entry : Visible} {header : TypeHeader} {types : List Ty} :
    setting.scope.resolve .type name.reference = .ok entry →
    setting.typeHeader? entry = some header → name.isMarked = header.isReference →
    setting.Marks name (.named header.isReference entry.entity name.reference types)

theorem Setting.Marks.isRight {name : WrittenName} {found : Ty} (h : setting.Marks name found) :
  name.IsRight found
  := by
  cases h with
  | internal => trivial
  | declared => trivial
  | entity _ _ hmarked => exact hmarked

theorem mem_of_typeParam? {internal : List String} {reference : Reference} {hasArgs : Bool}
    {type : Ty} (h : setting.typeParam? internal reference hasArgs = some type) :
  (∃ index, type = .internal index) ∨ ∃ param ∈ setting.typeParams, type = .param param
  := by
  unfold Setting.typeParam? at h
  split at h
  · cases h
  obtain ⟨name, -, h⟩ := Option.bind_eq_some_iff.mp h
  split at h
  next index _ => exact .inl ⟨index, (Option.some.inj h).symm⟩
  next =>
    obtain ⟨param, hparam, rfl⟩ := Option.map_eq_some_iff.mp h
    exact .inr ⟨param, List.mem_of_find?_eq_some hparam, rfl⟩

/-- In a written type that passes, every name is marked as what it stands for demands. -/
theorem marks_of_passes {name : WrittenName} {found : Ty} {written : SourceTy} {type : Ty}
    (hstands : name.Stands found written type) {internal : List String}
    (h : (checkTyWithin setting internal written).Passes type) :
  setting.Marks name found
  := by
  induction hstands generalizing internal with
  | here =>
    obtain hparam | ⟨-, ⟨entity, header⟩, types, hfound, -, rfl⟩ :=
      passes_checkTyWithin_named.mp h
    · obtain ⟨index, rfl⟩ | ⟨param, hmem, rfl⟩ := mem_of_typeParam? hparam
      · exact .internal
      · exact .declared hmem
    · obtain ⟨entry, hentry, hheader, rfl, hmarked, -⟩ := passes_namedHeader.mp hfound
      exact .entity hentry hheader hmarked
  | element _ ih =>
    obtain ⟨_, h, -, e⟩ := passes_checkTyWithin_list.mp h
    cases e
    exact ih h
  | inner _ ih =>
    obtain ⟨_, h, -, e⟩ := passes_checkTyWithin_tryOf.mp h
    cases e
    exact ih h
  | arg hmem _ ih =>
    obtain ⟨-, _, _, h, -, e⟩ := passes_checkTyWithin_function.mp h
    cases e
    exact ih (List.forall₂_zip (passes_checkTysWithin.mp h) hmem)
  | output _ ih =>
    obtain ⟨-, _, _, -, h, e⟩ := passes_checkTyWithin_function.mp h
    cases e
    exact ih h
  | param hmem _ ih =>
    obtain hparam | ⟨-, _, _, -, h, e⟩ := passes_checkTyWithin_named.mp h
    · obtain ⟨_, e⟩ | ⟨_, -, e⟩ := mem_of_typeParam? hparam <;> cases e
    · cases e
      exact ih (List.forall₂_zip (passes_checkTyArgsWithin.mp h) hmem).1

end Marked

/-! ### Types that differ in markers -/

namespace Check

variable {α β : Type} {stands : WrittenName → Ty → Prop}

/-- Whether a check gives a result, or refuses one of the names that stand somewhere because it is
marked wrongly. -/
def Weighs (check : Check α) (stands : WrittenName → Ty → Prop) (a : α) : Prop :=
  check.Gives a ∨ ∃ name found, stands name found ∧ ¬name.IsRight found ∧ check.Refuses name.misuse

theorem Weighs.bind {check : Check α} {next : α → Check β} {a : α} {b : β}
    (h : check.Weighs stands a) (hnext : (next a).Weighs stands b) :
  (check >>= next).Weighs stands b
  := by
  obtain hgives | ⟨name, found, hstands, hwrong, hrefuses⟩ := h
  · obtain hgives' | ⟨name, found, hstands, hwrong, hrefuses⟩ := hnext
    · exact .inl (hgives.bind hgives')
    · exact .inr ⟨name, found, hstands, hwrong, hgives.bind_refuses hrefuses⟩
  · exact .inr ⟨name, found, hstands, hwrong, hrefuses.bind next⟩

theorem Weighs.imp {check : Check α} {a : α} {stands' : WrittenName → Ty → Prop}
    (h : check.Weighs stands a) (himp : ∀ name found, stands name found → stands' name found) :
  check.Weighs stands' a
  := h.imp_right fun ⟨name, found, hstands, hwrong, hrefuses⟩ =>
    ⟨name, found, himp name found hstands, hwrong, hrefuses⟩

theorem weighs_pure (a : α) :
  (pure a : Check α).Weighs stands a
  := .inl (gives_pure a)

theorem weighs_requireValueType {type : Ty} {location : Option Location} {role : String}
    (h : type.isReference = false) :
  (requireValueType type location role).Weighs stands ()
  := .inl ((gives_iff_passes (plain_requireValueType _ _ _)).mpr (passes_requireValueType.mpr h))

end Check

/-- Whether a name stands in one of several written types. -/
def WrittenName.StandsAmong (name : WrittenName) (found : Ty) (written : List SourceTy)
    (types : List Ty) : Prop :=
  ∃ entry ∈ written.zip types, name.Stands found entry.1 entry.2

section Remarked

variable {setting : Setting}

theorem length_of_remarkedAll : {written others : List SourceTy} →
    SourceTy.RemarkedAll written others → others.length = written.length
  | [], others, h => by
    rw [SourceTy.RemarkedAll] at h
    rw [h]
  | first :: rest, others, h => by
    rw [SourceTy.RemarkedAll] at h
    obtain ⟨other, more, -, hrest, rfl⟩ := h
    rw [List.length_cons, List.length_cons, length_of_remarkedAll hrest]

/-- A reference whose type was found is found again if it is marked otherwise, unless it is
refused. -/
theorem weighs_namedHeader {reference : Reference} {isMarked : Bool} {argCount : Nat}
    {location : Option Location} {found : Entity × TypeHeader} (types : List Ty) (other : Bool)
    (h : (setting.namedHeader reference isMarked argCount location).Passes found) :
  (setting.namedHeader reference other argCount location).Weighs
    (fun name type => name = ⟨other, reference, location⟩
      ∧ type = .named found.2.isReference found.1 reference types) found
  := by
  rw [namedHeader_remarked h]
  by_cases hmarked : other = found.2.isReference
  · rw [hmarked, checkMarker_self, pure_bind]
    exact weighs_pure found
  · refine .inr ⟨⟨other, reference, location⟩, _, ⟨rfl, rfl⟩, hmarked, ?_⟩
    apply Refuses.bind
    exact refuses_checkMarker ⟨other, reference, location⟩ hmarked

mutual

/-- A type that is written like one that passes, but for its markers, stands for the same type
unless a name in it is marked wrongly. -/
theorem weighs_checkTyWithin : (internal : List String) → (written : SourceTy) →
    {other : SourceTy} → {type : Ty} → written.Remarked other →
      (checkTyWithin setting internal written).Passes type →
        (checkTyWithin setting internal other).Weighs (·.Stands · other type) type
  | _, .integer, other, type, hother, h
  | _, .natural, other, type, hother, h
  | _, .boolean, other, type, hother, h => by
    rw [SourceTy.Remarked] at hother
    subst hother
    obtain rfl := passes_pure.mp h
    exact weighs_pure _
  | internal, .list element, other, type, hother, h => by
    rw [SourceTy.Remarked] at hother
    obtain ⟨e, hother, rfl⟩ := hother
    obtain ⟨found, hfound, hvalue, rfl⟩ := passes_checkTyWithin_list.mp h
    refine ((weighs_checkTyWithin internal element hother hfound).imp ?_).bind
      ((weighs_requireValueType hvalue).bind (weighs_pure _))
    exact fun _ _ => .element
  | internal, .tryOf inner, other, type, hother, h => by
    rw [SourceTy.Remarked] at hother
    obtain ⟨e, hother, rfl⟩ := hother
    obtain ⟨found, hfound, hvalue, rfl⟩ := passes_checkTyWithin_tryOf.mp h
    refine ((weighs_checkTyWithin internal inner hother hfound).imp ?_).bind
      ((weighs_requireValueType hvalue).bind (weighs_pure _))
    exact fun _ _ => .inner
  | internal, .function _ typeParams args output _, other, type, hother, h => by
    rw [SourceTy.Remarked] at hother
    obtain ⟨others, o, hargs, houtput, rfl⟩ := hother
    obtain ⟨hnodup, types, result, htypes, hresult, rfl⟩ := passes_checkTyWithin_function.mp h
    rw [checkTyWithin, repeated_eq_nil.mpr hnodup]
    refine ((weighs_checkTysWithin _ args hargs htypes).imp ?_).bind
      (((weighs_checkTyWithin _ output houtput hresult).imp ?_).bind (weighs_pure _))
    · exact fun _ _ ⟨_, hmem, hstands⟩ => .arg hmem hstands
    · exact fun _ _ => .output
  | internal, .named _ reference params location, other, type, hother, h => by
    rw [SourceTy.Remarked] at hother
    obtain ⟨isMarked, others, hparams, rfl⟩ := hother
    have hlength := length_of_remarkedAll hparams
    have hempty : others.isEmpty = params.isEmpty := by
      rw [Bool.eq_iff_iff, List.isEmpty_iff_length_eq_zero, List.isEmpty_iff_length_eq_zero,
        hlength]
    rw [checkTyWithin, hempty, hlength]
    obtain hparam | ⟨hnone, found, types, hfound, htypes, rfl⟩ := passes_checkTyWithin_named.mp h
    · rw [hparam]
      exact weighs_pure _
    · rw [hnone]
      refine ((weighs_namedHeader types isMarked hfound).imp ?_).bind
        (((weighs_checkTyArgsWithin internal location params hparams htypes).imp ?_).bind
          (weighs_pure _))
      · rintro name type ⟨rfl, rfl⟩
        exact .here
      · exact fun _ _ ⟨_, hmem, hstands⟩ => .param hmem hstands

theorem weighs_checkTysWithin : (internal : List String) → (written : List SourceTy) →
    {others : List SourceTy} → {types : List Ty} → SourceTy.RemarkedAll written others →
      (checkTysWithin setting internal written).Passes types →
        (checkTysWithin setting internal others).Weighs (·.StandsAmong · others types) types
  | _, [], others, types, hothers, h => by
    rw [SourceTy.RemarkedAll] at hothers
    subst hothers
    obtain rfl := passes_pure.mp h
    exact weighs_pure _
  | internal, first :: rest, others, types, hothers, h => by
    rw [SourceTy.RemarkedAll] at hothers
    obtain ⟨other, more, hfirst, hrest, rfl⟩ := hothers
    simp only [checkTysWithin, passes_bind, passes_pure] at h
    obtain ⟨type, htype, others', hothers', rfl⟩ := h
    refine ((weighs_checkTyWithin internal first hfirst htype).imp ?_).bind
      (((weighs_checkTysWithin internal rest hrest hothers').imp ?_).bind (weighs_pure _))
    · exact fun _ _ hstands => ⟨_, List.mem_cons_self, hstands⟩
    · exact fun _ _ ⟨entry, hmem, hstands⟩ => ⟨entry, List.mem_cons_of_mem _ hmem, hstands⟩

theorem weighs_checkTyArgsWithin : (internal : List String) → (location : Option Location) →
    (written : List SourceTy) → {others : List SourceTy} → {types : List Ty} →
      SourceTy.RemarkedAll written others →
      (checkTyArgsWithin setting internal location written).Passes types →
        (checkTyArgsWithin setting internal location others).Weighs
          (·.StandsAmong · others types) types
  | _, _, [], others, types, hothers, h => by
    rw [SourceTy.RemarkedAll] at hothers
    subst hothers
    obtain rfl := passes_pure.mp h
    exact weighs_pure _
  | internal, location, first :: rest, others, types, hothers, h => by
    rw [SourceTy.RemarkedAll] at hothers
    obtain ⟨other, more, hfirst, hrest, rfl⟩ := hothers
    simp only [checkTyArgsWithin, passes_bind, passes_pure, passes_requireValueType] at h
    obtain ⟨type, htype, _, hvalue, others', hothers', rfl⟩ := h
    refine ((weighs_checkTyWithin internal first hfirst htype).imp ?_).bind
      ((weighs_requireValueType hvalue).bind
        (((weighs_checkTyArgsWithin internal location rest hrest hothers').imp ?_).bind
          (weighs_pure _)))
    · exact fun _ _ hstands => ⟨_, List.mem_cons_self, hstands⟩
    · exact fun _ _ ⟨entry, hmem, hstands⟩ => ⟨entry, List.mem_cons_of_mem _ hmem, hstands⟩

end

end Remarked

/-- If the check of a written type has a result, every name in it is marked as what it stands for
demands.  Of the types that are written alike but for their markers each either is marked right as
well, and stands for the same type, or is refused with one error, about a name in it that is marked
wrongly; the marker of a name that stands for a type parameter is never wrong. -/
theorem marker_exact {setting : Setting} {internal : List String} {written : SourceTy} {type : Ty}
    {behind : Bool} (h : (checkTyWithin setting internal written behind).1 = some type) :
  (∀ name found, WrittenName.Stands name found written type → setting.Marks name found)
    ∧ ∀ other, written.Remarked other →
      ((∀ name found, WrittenName.Stands name found other type → name.IsRight found)
        ∧ (checkTyWithin setting internal other).Gives type)
      ∨ ∃ name found, WrittenName.Stands name found other type ∧ ¬name.IsRight found
        ∧ (checkTyWithin setting internal other).Refuses name.misuse
  := by
  have hpass := (plain_checkTyWithin internal written behind type h).passes
  refine ⟨fun _ _ hstands => marks_of_passes hstands hpass, ?_⟩
  intro other hother
  obtain hgives | hrefuses := weighs_checkTyWithin internal written hother hpass
  · refine .inl ⟨?_, hgives⟩
    intro name found hstands
    exact (marks_of_passes hstands hgives.passes).isRight
  · exact .inr hrefuses

/-- The setting of an empty module. -/
def emptySetting : Setting :=
  .ofModule 0 ⟨⟨"example", "empty"⟩, "1"⟩ {} []

/-- A list builder of integers as it is written, marked or not. -/
def writtenBuilder (isMarked : Bool) : SourceTy :=
  .named isMarked (.ofId ⟨["ListBuilder"]⟩) [.integer] none

/-- A list builder that is not marked is refused where the type `<U>(U) -> ListBuilder<Integer>` is
written. -/
theorem marker_exact_builder :
  ∃ type, (checkTyWithin emptySetting []
      (.function false [⟨"U", none⟩] [.named false (.ofId ⟨["U"]⟩) [] none] (writtenBuilder true)
        none) false).1 = some type
    ∧ ∃ name, (checkTyWithin emptySetting []
      (.function false [⟨"U", none⟩] [.named true (.ofId ⟨["U"]⟩) [] none] (writtenBuilder false)
        none)).Refuses (WrittenName.misuse name)
  := by
  have hsome : (checkTyWithin emptySetting []
      (.function false [⟨"U", none⟩] [.named false (.ofId ⟨["U"]⟩) [] none] (writtenBuilder true)
        none) false).1.isSome = true := by
    decide +kernel
  have hnone : (checkTyWithin emptySetting []
      (.function false [⟨"U", none⟩] [.named true (.ofId ⟨["U"]⟩) [] none] (writtenBuilder false)
        none) false).1.isSome = false := by
    decide +kernel
  obtain ⟨type, h⟩ := Option.isSome_iff_exists.mp hsome
  refine ⟨type, h, ?_⟩
  obtain ⟨-, hgives⟩ | ⟨name, -, -, -, hrefuses⟩ := (marker_exact h).2
    (.function false [⟨"U", none⟩] [.named true (.ofId ⟨["U"]⟩) [] none] (writtenBuilder false)
      none) (by simp [SourceTy.Remarked, SourceTy.RemarkedAll, writtenBuilder])
  · rw [hgives false] at hnone
    cases hnone
  · exact ⟨name, hrefuses⟩

/-- A context that declares `same<T>(value: &T): T`. -/
def sameContext : Context where
  functions := [{
      id := ⟨["same"]⟩
      typeParams := [⟨"T", none⟩]
      args := [⟨"value", .named true (.ofId ⟨["T"]⟩) [] none, none⟩]
      output := .named false (.ofId ⟨["T"]⟩) [] none
      body := .mk [.bare (.variable "value" none)] none
      annotations := []
      location := none }]

/-- A marked type parameter passes, although it is no reference. -/
theorem marked_param :
  (∃ module warnings, validate 0 sameContext ⟨"example", "same"⟩ [] {} = .success module warnings)
    ∧ ∃ (setting : Setting) (name : WrittenName) (found : Ty),
      (checkTy setting (.named true (.ofId ⟨["T"]⟩) [] none)).Gives found
      ∧ name.Stands found (.named true (.ofId ⟨["T"]⟩) [] none) found
      ∧ name.isMarked = true ∧ found.isReference = false
  := by
  constructor
  · have hmade : (validate 0 sameContext ⟨"example", "same"⟩ [] {}).module?.any
        (fun _ => true) = true := by
      decide +kernel
    obtain ⟨module, warnings, hvalidate, -⟩ := Verdict.exists_success hmade
    exact ⟨module, warnings, hvalidate⟩
  · exact ⟨emptySetting.within [⟨"T", none⟩], ⟨true, .ofId ⟨["T"]⟩, none⟩, .param ⟨"T", none⟩,
      fun _ => rfl, .here, rfl, rfl⟩

end TypedModules
