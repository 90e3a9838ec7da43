import TypedModules.Check.Expr
import TypedModules.Proofs.Check.Data

/-!
# The classification of literals

The literals of a type are found by following structs with a single member, at the arguments of
the type: `Leads`.  What stands at the end of the chain judges the text, or has no literals.  The
check goes along the chain and gives up where it meets a struct for the second time, so that it is
exact where no struct comes again (`literal_classified`).

A chain that never ends comes upon some struct again, and is found.  So is a chain that ends, if
it goes through a generic struct at different arguments, as that of `Box<Box<Integer>>` does
(`looped_box`).  Where a struct comes again with the same arguments only, that does not happen.
-/

namespace TypedModules

/-! ### Chains of types -/

/-- The form of the literals that a type has by itself. -/
def Ty.ownForm? : Ty → Option LiteralForm
  | .integer => some .integer
  | .natural => some .natural
  | .boolean => some .boolean
  | .named _ entity _ _ => if entity = stringEntity then some .string else none
  | _ => none

/-- What a type at the end of a chain has for its literals. -/
def Ty.ending (last : Ty) : Except LiteralFault LiteralForm :=
  match last.ownForm? with
  | some form => .ok form
  | none => .error .noForm

namespace Setting

/-- The type whose literals a type takes over: that of the only member of a struct. -/
def inner? (setting : Setting) : Ty → Option Ty
  | .named _ entity _ args =>
    if entity = stringEntity then none else setting.onlyMember? entity args
  | _ => none

/-- Whether following structs with a single member leads from a type to another; `path` lists the
structs, the outermost first. -/
inductive Leads (setting : Setting) : (path : List Entity) → (type last : Ty) → Prop
  | refl (type : Ty) : Leads setting [] type type
  | struct {path : List Entity} {isReference : Bool} {entity : Entity} {written : Reference}
      {args : List Ty} {member last : Ty} :
    setting.inner? (.named isReference entity written args) = some member →
    Leads setting path member last →
    Leads setting (entity :: path) (.named isReference entity written args) last

/-- Whether the chain of a type never ends. -/
def Endless (setting : Setting) (type : Ty) : Prop :=
  ∀ path last, setting.Leads path type last → setting.inner? last ≠ none

/-- Whether a struct that comes again on the chain of a type always has the same arguments as
before. -/
def Uniform (setting : Setting) (type : Ty) : Prop :=
  ∀ path again entity isReference isReference' written written' args args',
    setting.Leads path type (.named isReference entity written args) →
    setting.Leads (entity :: again) (.named isReference entity written args)
      (.named isReference' entity written' args') →
    Ty.sameAll args args' = true

variable {setting : Setting}

theorem inner?_named {isReference : Bool} {entity : Entity} {written : Reference}
    {args : List Ty} {member : Ty} :
  setting.inner? (.named isReference entity written args) = some member
    ↔ entity ≠ stringEntity ∧ setting.onlyMember? entity args = some member
  := by
  simp [inner?]

/-- The member that a struct takes over its literals from is its only part. -/
theorem parts?_of_onlyMember? {entity : Entity} {args : List Ty} {member : Ty}
    (h : setting.onlyMember? entity args = some member) :
  setting.parts? entity args = some [member]
  := by
  unfold onlyMember? at h
  obtain ⟨s, hs, h⟩ := Option.bind_eq_some_iff.mp h
  obtain ⟨definitions, hd, hs⟩ := Option.bind_eq_some_iff.mp hs
  split at h
  next only honly =>
    cases h
    simp [parts?, hd, hs, honly]
  next => cases h

/-! ### Paths along a chain -/

/-- A chain goes on from where it leads. -/
theorem Leads.trans {path more : List Entity} {type middle last : Ty}
    (h : setting.Leads path type middle) (h' : setting.Leads more middle last) :
  setting.Leads (path ++ more) type last
  := by
  induction h with
  | refl => exact h'
  | struct hinner _ ih => exact .struct hinner (ih h')

/-- Where a chain leads along a path, it leads to along the first part of the path and from there
along the rest. -/
theorem Leads.split {path more : List Entity} {type last : Ty}
    (h : setting.Leads (path ++ more) type last) :
  ∃ middle, setting.Leads path type middle ∧ setting.Leads more middle last
  := by
  induction path generalizing type with
  | nil => exact ⟨type, .refl type, h⟩
  | cons entity rest ih =>
    cases h with
    | struct hinner h =>
      obtain ⟨middle, hbefore, hafter⟩ := ih h
      exact ⟨middle, .struct hinner hbefore, hafter⟩

/-- Every path along a chain that ends is a part of the whole. -/
theorem Leads.exists_rest {path path' : List Entity} {type last last' : Ty}
    (h : setting.Leads path type last) (hend : setting.inner? last = none)
    (h' : setting.Leads path' type last') :
  ∃ rest, path = path' ++ rest ∧ setting.Leads rest last' last
  := by
  induction h' generalizing path with
  | refl => exact ⟨path, rfl, h⟩
  | struct hinner _ ih =>
    cases h with
    | refl =>
      rw [hinner] at hend
      cases hend
    | struct hinner' h =>
      obtain rfl := Option.some.inj (hinner.symm.trans hinner')
      obtain ⟨rest, rfl, hrest⟩ := ih h
      exact ⟨rest, rfl, hrest⟩

/-- A chain ends once. -/
theorem Leads.end_unique {path path' : List Entity} {type last last' : Ty}
    (h : setting.Leads path type last) (hend : setting.inner? last = none)
    (h' : setting.Leads path' type last') (hend' : setting.inner? last' = none) :
  path = path' ∧ last = last'
  := by
  obtain ⟨rest, rfl, hrest⟩ := h.exists_rest hend h'
  cases hrest with
  | refl => exact ⟨List.append_nil path', rfl⟩
  | struct hinner _ =>
    rw [hinner] at hend'
    cases hend'

/-- The structs on a chain are among those that the module can reach. -/
theorem Leads.subset_shapes {path : List Entity} {type last : Ty}
    (h : setting.Leads path type last) :
  path ⊆ setting.shapes
  := by
  induction h with
  | refl => exact List.nil_subset _
  | struct hinner _ ih =>
    exact List.cons_subset.mpr ⟨mem_shapes (parts?_of_onlyMember? (inner?_named.mp hinner).2), ih⟩

/-- A chain that never ends is as long as one wishes. -/
theorem Endless.exists_leads {type : Ty} (h : setting.Endless type) (length : Nat) :
  ∃ path last, setting.Leads path type last ∧ path.length = length
  := by
  induction length with
  | zero => exact ⟨[], type, .refl type, rfl⟩
  | succ length ih =>
    obtain ⟨path, last, hpath, hlength⟩ := ih
    obtain ⟨next, hnext⟩ := Option.ne_none_iff_exists'.mp (h path last hpath)
    cases last with
    | named isReference entity written args =>
      exact ⟨path ++ [entity], next, hpath.trans (.struct hnext (.refl next)), by simp [hlength]⟩
    | _ => cases hnext

/-- A chain that never ends comes upon a struct again, because there are only so many. -/
theorem Endless.exists_repetition {type : Ty} (h : setting.Endless type) :
  ∃ path last, setting.Leads path type last ∧ ¬path.Nodup
  := by
  obtain ⟨path, last, hpath, hlength⟩ := h.exists_leads (setting.shapes.length + 1)
  refine ⟨path, last, hpath, fun hnodup => ?_⟩
  have hle := (hnodup.subperm hpath.subset_shapes).length_le
  omega

/-! ### Chains of uniform types -/

/-- With same arguments, a struct takes over the literals of same types. -/
theorem exists_inner?_of_sameAll {isReference : Bool} {entity : Entity} {written : Reference}
    {args args' : List Ty} {member : Ty}
    (h : setting.inner? (.named isReference entity written args) = some member)
    (hargs : Ty.sameAll args args' = true) (isReference' : Bool) (written' : Reference) :
  ∃ member', setting.inner? (.named isReference' entity written' args') = some member'
    ∧ member.same member' = true
  := by
  obtain ⟨hentity, honly⟩ := inner?_named.mp h
  simp only [inner?_named, onlyMember?] at honly ⊢
  obtain ⟨s, hs, honly⟩ := Option.bind_eq_some_iff.mp honly
  rw [hs, Option.bind_some]
  split at honly
  next only _ =>
    cases honly
    exact ⟨_, ⟨hentity, rfl⟩, Ty.same_substitute_ofParams hargs only.type⟩
  next => cases honly

/-- The chains of same types go through the same structs and end alike. -/
theorem Leads.same {path : List Entity} {type type' last : Ty} (h : setting.Leads path type last)
    (hend : setting.inner? last = none) (hsame : type.same type' = true) :
  ∃ last', setting.Leads path type' last' ∧ setting.inner? last' = none
  := by
  induction h generalizing type' with
  | refl type =>
    refine ⟨type', .refl type', ?_⟩
    cases type' with
    | named isReference entity written args =>
      cases type <;> simp only [Ty.same, Bool.false_eq_true, Bool.and_eq_true, beq_iff_eq] at hsame
      obtain ⟨⟨-, rfl⟩, hargs⟩ := hsame
      by_contra hinner
      obtain ⟨member, hmember⟩ := Option.ne_none_iff_exists'.mp hinner
      obtain ⟨_, hmember', -⟩ := exists_inner?_of_sameAll hmember (Ty.sameAll_symm hargs) _ _
      rw [hend] at hmember'
      cases hmember'
    | _ => rfl
  | struct hinner _ ih =>
    cases type' <;> simp only [Ty.same, Bool.false_eq_true, Bool.and_eq_true, beq_iff_eq] at hsame
    obtain ⟨⟨-, rfl⟩, hargs⟩ := hsame
    obtain ⟨member', hinner', hmember⟩ := exists_inner?_of_sameAll hinner hargs _ _
    obtain ⟨last', hlast, hend'⟩ := ih hend hmember
    exact ⟨last', .struct hinner' hlast, hend'⟩

theorem Uniform.of_inner {isReference : Bool} {entity : Entity} {written : Reference}
    {args : List Ty} {member : Ty} (h : setting.Uniform (.named isReference entity written args))
    (hinner : setting.inner? (.named isReference entity written args) = some member) :
  setting.Uniform member
  := fun _ _ _ _ _ _ _ _ _ hpath hagain => h _ _ _ _ _ _ _ _ _ (.struct hinner hpath) hagain

/-- No struct comes again on the chain of a uniform type that ends: what follows it would be the
same both times. -/
theorem Uniform.nodup {path : List Entity} {type last : Ty} (huniform : setting.Uniform type)
    (h : setting.Leads path type last) (hend : setting.inner? last = none) :
  path.Nodup
  := by
  induction h with
  | refl => exact List.nodup_nil
  | @struct path isReference entity written args member last hinner hpath ih =>
    refine List.nodup_cons.mpr ⟨fun hmem => ?_, ih (huniform.of_inner hinner) hend⟩
    obtain ⟨before, after, rfl⟩ := List.append_of_mem hmem
    obtain ⟨middle, hbefore, hafter⟩ := hpath.split
    cases hafter with
    | struct hinner' hafter =>
      have hargs := huniform [] before _ _ _ _ _ _ _ (.refl _) (.struct hinner hbefore)
      obtain ⟨member', hmember', hsame⟩ :=
        exists_inner?_of_sameAll hinner' (Ty.sameAll_symm hargs) isReference written
      obtain rfl := Option.some.inj (hinner.symm.trans hmember')
      obtain ⟨last', hlast, hend'⟩ := hafter.same hend hsame
      obtain ⟨hlength, -⟩ := hpath.end_unique hend hlast hend'
      have hlength := congrArg List.length hlength
      simp only [List.length_append, List.length_cons] at hlength
      omega

/-! ### What the check goes along -/

/-- How the check ends that comes from the structs in `seen`: at the end of the chain, or at the
first struct that it has met before. -/
theorem literalFormWithin_cases (depth : Nat) {seen : List Entity} (hnodup : seen.Nodup)
    (hshapes : seen ⊆ setting.shapes) (hdepth : setting.shapeCount < depth + seen.length)
    (type : Ty) :
  ∃ path last, setting.Leads path type last ∧ path.Nodup ∧ List.Disjoint path seen
    ∧ (setting.inner? last = none ∧ setting.literalFormWithin depth seen type = last.ending
      ∨ ∃ entity next, setting.Leads [entity] last next ∧ (entity ∈ path ∨ entity ∈ seen)
        ∧ setting.literalFormWithin depth seen type = .error (.cycle entity))
  := by
  induction depth generalizing seen type with
  | zero =>
    -- no more structs have been met than there are
    have hle := (hnodup.subperm hshapes).length_le
    rw [length_shapes] at hle
    omega
  | succ depth ih =>
    cases type with
    | named isReference entity written args =>
      cases hinner : setting.inner? (.named isReference entity written args) with
      | none =>
        refine ⟨[], _, .refl _, List.nodup_nil, List.disjoint_nil_left seen, .inl ⟨hinner, ?_⟩⟩
        by_cases hentity : entity = stringEntity
        · simp [literalFormWithin, Ty.ending, Ty.ownForm?, hentity]
        · rw [inner?, if_neg hentity] at hinner
          simp [literalFormWithin, Ty.ending, Ty.ownForm?, hentity, hinner]
      | some member =>
        obtain ⟨hentity, honly⟩ := inner?_named.mp hinner
        rw [literalFormWithin, if_neg hentity, honly]
        dsimp only
        by_cases hmem : entity ∈ seen
        · exact ⟨[], _, .refl _, List.nodup_nil, List.disjoint_nil_left seen,
            .inr ⟨entity, member, .struct hinner (.refl member), .inr hmem, by simp [hmem]⟩⟩
        · have hshape := mem_shapes (parts?_of_onlyMember? honly)
          obtain ⟨path, last, hpath, hfresh, hapart, hend⟩ :=
            ih (List.nodup_cons.mpr ⟨hmem, hnodup⟩) (List.cons_subset.mpr ⟨hshape, hshapes⟩)
              (by rw [List.length_cons]; omega) member
          obtain ⟨hnew, hapart⟩ := List.disjoint_cons_right.mp hapart
          refine ⟨entity :: path, last, .struct hinner hpath, List.nodup_cons.mpr ⟨hnew, hfresh⟩,
            List.disjoint_cons_left.mpr ⟨hmem, hapart⟩, ?_⟩
          simp only [List.contains_iff_mem, hmem, if_false, List.mem_cons] at hend ⊢
          obtain hend | ⟨again, next, hnext, hagain, hend⟩ := hend
          · exact .inl hend
          · exact .inr ⟨again, next, hnext, by tauto, hend⟩
    | _ =>
      exact ⟨[], _, .refl _, List.nodup_nil, List.disjoint_nil_left seen, .inl ⟨rfl, rfl⟩⟩

/-- The check finds the end of a chain, or a struct that comes again. -/
theorem literalForm_cases (setting : Setting) (type : Ty) :
  (∃ path last, setting.Leads path type last ∧ path.Nodup ∧ setting.inner? last = none
      ∧ setting.literalForm type = last.ending)
    ∨ ∃ path last entity, setting.Leads path type last ∧ ¬path.Nodup
      ∧ setting.literalForm type = .error (.cycle entity)
  := by
  obtain ⟨path, last, hpath, hfresh, -, hend | ⟨entity, next, hnext, hagain, hcycle⟩⟩ :=
    setting.literalFormWithin_cases (setting.shapeCount + 2) List.nodup_nil (List.nil_subset _)
      (by rw [List.length_nil]; omega) type
  · exact .inl ⟨path, last, hpath, hfresh, hend⟩
  · refine .inr ⟨path ++ [entity], next, entity, hpath.trans hnext, fun hnodup => ?_, hcycle⟩
    obtain hagain := hagain.resolve_right List.not_mem_nil
    exact List.disjoint_of_nodup_append hnodup hagain List.mem_cons_self

end Setting

/-! ### Literals -/

namespace Check

/-- Whether a check emits a log and then one error, with a code, and fails. -/
def FailsWith {α : Type} (check : Check α) (behind : Bool) (log : List Diagnostic) (code : Code) :
    Prop :=
  ∃ error : Diagnostic, error.isError = true ∧ error.code = code
    ∧ check behind = (none, log ++ [error])

/-- Whether a check, after a log, judges a text as a literal of a type by the form at the end of
the type's chain: it accepts what the form accepts and rejects the rest, and fails if there is no
form. -/
def Judges (check : Check Expr) (behind : Bool) (log : List Diagnostic) (type : Ty)
    (text : String) : Option LiteralForm → Prop
  | some form =>
    if form.accepts text then check behind = (some (.mk type .notAliased (.literal text)), log)
    else check.FailsWith behind log .rejectedLiteral
  | none => check.FailsWith behind log .noLiteralForm

theorem FailsWith.code_unique {α : Type} {check : Check α} {behind : Bool}
    {log : List Diagnostic} {code code' : Code} (h : check.FailsWith behind log code)
    (h' : check.FailsWith behind log code') :
  code = code'
  := by
  obtain ⟨error, -, rfl, hrun⟩ := h
  obtain ⟨error', -, rfl, hrun'⟩ := h'
  rw [hrun] at hrun'
  simp_all

theorem Judges.not_cycle {check : Check Expr} {behind : Bool} {log : List Diagnostic} {type : Ty}
    {text : String} {form? : Option LiteralForm} (h : check.Judges behind log type text form?) :
  ¬check.FailsWith behind log .literalCycle
  := by
  intro hcycle
  cases form? with
  | none => cases hcycle.code_unique h
  | some form =>
    rw [Judges] at h
    split_ifs at h with haccepts
    · obtain ⟨error, -, -, hrun⟩ := hcycle
      rw [h] at hrun
      cases hrun
    · cases hcycle.code_unique h

/-- What fails after a check that has a result adds one error to what that check emits. -/
theorem failsWith_bind_fail {α β : Type} {check : Check α} {next : α → Check β} {behind : Bool}
    {log : List Diagnostic} {a : α} (h : check behind = (some a, log)) {code : Code}
    {location : Option Location} {message : String}
    (hnext : next a = .fail code location message) :
  (check >>= next).FailsWith behind log code
  := by
  refine ⟨(Diagnostic.error code message).labelled location "here", ?_, ?_, ?_⟩
  · cases location <;> rfl
  · cases location <;> rfl
  · rw [run_bind, h]
    dsimp only
    rw [hnext]
    rfl

end Check

section Literals

variable {setting : Setting} {written : SourceTy} {type : Ty} {behind : Bool}
  {log : List Diagnostic}

theorem judges_of_ending (h : checkTy setting written behind = (some type, log)) {last : Ty}
    (hform : setting.literalForm type = last.ending) (text : String)
    (location : Option Location) :
  (checkLiteral setting written text location).Judges behind log type text last.ownForm?
  := by
  rw [Ty.ending] at hform
  cases hown : last.ownForm? with
  | none =>
    rw [hown] at hform
    exact Check.failsWith_bind_fail h (by rw [hform])
  | some form =>
    rw [hown] at hform
    rw [Check.Judges]
    split_ifs with haccepts
    · rw [checkLiteral, Check.run_bind, h]
      simp [hform, haccepts, Check.run_pure]
    · exact Check.failsWith_bind_fail h (by simp [hform, haccepts]; rfl)

theorem failsWith_of_cycle (h : checkTy setting written behind = (some type, log))
    {entity : Entity} (hform : setting.literalForm type = .error (.cycle entity)) (text : String)
    (location : Option Location) :
  (checkLiteral setting written text location).FailsWith behind log .literalCycle
  := Check.failsWith_bind_fail h (by rw [hform])

/-- A chain is reported as a loop exactly if a struct comes again on it. -/
theorem failsWith_cycle_iff (h : checkTy setting written behind = (some type, log)) (text : String)
    (location : Option Location) :
  (checkLiteral setting written text location).FailsWith behind log .literalCycle
    ↔ ∃ path last, setting.Leads path type last ∧ ¬path.Nodup
  := by
  obtain ⟨path, last, hpath, hfresh, hend, hform⟩ | ⟨path, last, entity, hpath, hagain, hform⟩ :=
    setting.literalForm_cases type
  · rw [iff_false_left (judges_of_ending h hform text location).not_cycle]
    rintro ⟨path', last', hpath', hagain⟩
    obtain ⟨rest, rfl, -⟩ := hpath.exists_rest hend hpath'
    exact hagain hfresh.of_append_left
  · rw [iff_true_left (failsWith_of_cycle h hform text location)]
    exact ⟨path, last, hpath, hagain⟩

/-- At the end of a chain on which no struct comes again, the text is judged by what stands
there. -/
theorem judges_of_leads (h : checkTy setting written behind = (some type, log))
    {path : List Entity} {last : Ty} (hpath : setting.Leads path type last)
    (hend : setting.inner? last = none) (hfresh : path.Nodup) (text : String)
    (location : Option Location) :
  (checkLiteral setting written text location).Judges behind log type text last.ownForm?
  := by
  obtain ⟨path', last', hpath', -, hend', hform⟩ | ⟨path', last', entity, hpath', hagain, -⟩ :=
    setting.literalForm_cases type
  · obtain ⟨-, rfl⟩ := hpath.end_unique hend hpath' hend'
    exact judges_of_ending h hform text location
  · obtain ⟨rest, rfl, -⟩ := hpath.exists_rest hend hpath'
    exact absurd hfresh.of_append_left hagain

/-- How literals of a type are told apart.  At the end of a chain on which no struct comes again,
the text is judged by the form that stands there, or has none.  A chain is reported as a loop
exactly if a struct comes again on it: every chain that never ends is, and of a uniform type no
other. -/
theorem literal_classified (h : checkTy setting written behind = (some type, log)) (site : Site)
    (vars : Variables) (text : String) (location : Option Location) :
  let check := checkExpr setting site vars (.literal written text location)
  (∀ path last, setting.Leads path type last → setting.inner? last = none → path.Nodup →
      check.Judges behind log type text last.ownForm?)
    ∧ (check.FailsWith behind log .literalCycle
      ↔ ∃ path last, setting.Leads path type last ∧ ¬path.Nodup)
    ∧ (setting.Endless type → check.FailsWith behind log .literalCycle)
    ∧ (setting.Uniform type →
      (check.FailsWith behind log .literalCycle ↔ setting.Endless type)
        ∧ ∀ path last, setting.Leads path type last → setting.inner? last = none →
          check.Judges behind log type text last.ownForm?)
  := by
  intro check
  have hcheck : check = checkLiteral setting written text location := by
    unfold check
    rw [checkExpr]
  rw [hcheck]
  have hrepeats := failsWith_cycle_iff h text location
  have hjudges := fun path last (hpath : setting.Leads path type last) hend hfresh =>
    judges_of_leads h hpath hend hfresh text location
  refine ⟨hjudges, hrepeats, fun hendless => hrepeats.mpr hendless.exists_repetition,
    fun huniform => ⟨⟨?_, fun hendless => hrepeats.mpr hendless.exists_repetition⟩, ?_⟩⟩
  · intro hcycle path last hpath hend
    obtain ⟨path', last', hpath', hagain⟩ := hrepeats.mp hcycle
    obtain ⟨rest, rfl, -⟩ := hpath.exists_rest hend hpath'
    exact hagain (huniform.nodup hpath hend).of_append_left
  · exact fun path last hpath hend => hjudges path last hpath hend (huniform.nodup hpath hend)

end Literals

/-- The setting of a module that declares the structs `Box<T>`, with a `T`, and `Loop`, with a
`Loop`. -/
def boxSetting : Setting :=
  let module : ModuleId := ⟨⟨"example", "box"⟩, "1"⟩
  let param : TypeParam := ⟨"T", none⟩
  let loop : Ty := .named false ⟨module, ⟨["Loop"]⟩⟩ (.ofId ⟨["Loop"]⟩) []
  { (default : Setting) with
    module := module
    scope := {
      types := [Scope.visible module .struct ⟨["Box"]⟩, Scope.visible module .struct ⟨["Loop"]⟩]
      home := module }
    typeHeaders := [(⟨["Box"]⟩, ⟨[param], false⟩), (⟨["Loop"]⟩, ⟨[], false⟩)]
    own := { structs := [⟨⟨["Box"]⟩, module, [param], [⟨"value", .param param⟩], false, []⟩,
      ⟨⟨["Loop"]⟩, module, [], [⟨"value", loop⟩], false, []⟩] } }

namespace boxSetting

/-- The struct `Box`, as it is written with an argument. -/
def writtenBox (arg : SourceTy) : SourceTy :=
  .named false (.ofId ⟨["Box"]⟩) [arg] none

/-- The type `Box` with an argument. -/
def box (arg : Ty) : Ty :=
  .named false ⟨boxSetting.module, ⟨["Box"]⟩⟩ (.ofId ⟨["Box"]⟩) [arg]

/-- The type `Loop`. -/
def loop : Ty :=
  .named false ⟨boxSetting.module, ⟨["Loop"]⟩⟩ (.ofId ⟨["Loop"]⟩) []

theorem inner?_box (arg : Ty) :
  boxSetting.inner? (box arg) = some arg
  := rfl

theorem inner?_loop :
  boxSetting.inner? loop = some loop
  := rfl

theorem leads_loop {path : List Entity} {type last : Ty} (h : boxSetting.Leads path type last)
    (htype : type = loop) :
  last = loop
  := by
  induction h with
  | refl => exact htype
  | struct hinner _ ih =>
    rw [htype, inner?_loop] at hinner
    exact ih (Option.some.inj hinner).symm

theorem endless_loop :
  boxSetting.Endless loop
  := by
  intro path last hpath
  rw [leads_loop hpath rfl, inner?_loop]
  exact Option.some_ne_none loop

theorem uniform_loop :
  boxSetting.Uniform loop
  := by
  intro path again entity _ _ _ _ args args' hpath hagain
  have hfirst := leads_loop hpath rfl
  have hsecond := leads_loop hagain hfirst
  cases hfirst
  cases hsecond
  rfl

end boxSetting

/-- A literal of `Box<Integer>` is judged as one of `Integer`, and one of `Loop` is a loop. -/
theorem literal_classified_box :
  ∃ (setting : Setting) (written written' : SourceTy) (type type' : Ty),
    checkTy setting written false = (some type, [])
    ∧ checkTy setting written' false = (some type', [])
    ∧ (checkExpr setting default [] (.literal written "5" none)) false
      = (some (.mk type .notAliased (.literal "5")), [])
    ∧ (checkExpr setting default [] (.literal written "five" none)).FailsWith false []
      .rejectedLiteral
    ∧ setting.Uniform type' ∧ setting.Endless type'
    ∧ (checkExpr setting default [] (.literal written' "5" none)).FailsWith false [] .literalCycle
  := by
  have hbox : checkTy boxSetting (boxSetting.writtenBox .integer) false
      = (some (boxSetting.box .integer), []) := rfl
  have hloop : checkTy boxSetting (.named false (.ofId ⟨["Loop"]⟩) [] none) false
      = (some boxSetting.loop, []) := rfl
  have hpath : boxSetting.Leads [⟨boxSetting.module, ⟨["Box"]⟩⟩] (boxSetting.box .integer)
      .integer :=
    .struct (boxSetting.inner?_box .integer) (.refl .integer)
  obtain ⟨hfive, -⟩ := literal_classified hbox default [] "5" none
  obtain ⟨hword, -⟩ := literal_classified hbox default [] "five" none
  obtain ⟨-, -, -, huniform⟩ := literal_classified hloop default [] "5" none
  exact ⟨boxSetting, _, _, _, _, hbox, hloop, hfive _ _ hpath rfl (List.nodup_singleton _),
    hword _ _ hpath rfl (List.nodup_singleton _), boxSetting.uniform_loop, boxSetting.endless_loop,
    (huniform boxSetting.uniform_loop).1.mpr boxSetting.endless_loop⟩

/-- The chain of `Box<Box<Integer>>` ends, and is taken for a loop. -/
theorem looped_box :
  ∃ (setting : Setting) (written : SourceTy) (type : Ty) (path : List Entity) (last : Ty),
    checkTy setting written false = (some type, []) ∧ setting.Leads path type last
    ∧ last.ownForm? = some .integer ∧ LiteralForm.integer.accepts "5" = true
    ∧ (checkExpr setting default [] (.literal written "5" none)).FailsWith false [] .literalCycle
  := by
  have hbox : checkTy boxSetting (boxSetting.writtenBox (boxSetting.writtenBox .integer)) false
      = (some (boxSetting.box (boxSetting.box .integer)), []) := rfl
  have hcycle : boxSetting.literalForm (boxSetting.box (boxSetting.box .integer))
      = .error (.cycle ⟨boxSetting.module, ⟨["Box"]⟩⟩) := rfl
  refine ⟨boxSetting, _, _, _, .integer, hbox, .struct (boxSetting.inner?_box _) (.struct
    (boxSetting.inner?_box _) (.refl .integer)), rfl, by decide, ?_⟩
  rw [checkExpr]
  exact failsWith_of_cycle hbox hcycle "5" none

end TypedModules
