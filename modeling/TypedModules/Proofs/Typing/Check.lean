import TypedModules.Proofs.Ty.Same
import TypedModules.Proofs.Typing.Passing
import TypedModules.Proofs.Typing.Variables

/-!
# Trees that pass

The tree that a check makes of a written block is well typed by the judgement, in whatever
surroundings hold what the setting knows: `typed_checkBlock`, because each rule of the checker
carries the judgement.  The invariant is that the visible variables have distinct names and formed
types.
-/

namespace TypedModules

open Check

section Parts

variable {setting : Setting} {around : Surroundings} {vars : Variables}
  {location : Option Location}

/-! ### Literals and members -/

theorem hasForm_of_literalFormWithin (h : setting.Within around) {depth : Nat}
    {seen : List Entity} {type : Ty} {form : LiteralForm}
    (hform : setting.literalFormWithin depth seen type = .ok form) :
  around.library.HasForm type form
  := by
  induction depth generalizing seen type with
  | zero => cases hform
  | succ depth ih =>
    cases type <;> simp only [Setting.literalFormWithin, reduceCtorEq, Except.ok.injEq] at hform
    case integer => exact hform ▸ .integer
    case natural => exact hform ▸ .natural
    case boolean => exact hform ▸ .boolean
    case named isReference entity written args =>
      split at hform
      next e =>
        cases hform
        rw [e]
        exact .string isReference written args
      next hne =>
        split at hform
        · cases hform
        next member hmember =>
          split at hform
          · cases hform
          obtain ⟨header, hheader, hmembers⟩ := Option.bind_eq_some_iff.mp hmember
          obtain ⟨definitions, hd, hstruct⟩ := Option.bind_eq_some_iff.mp hheader
          split at hmembers
          next only honly =>
            cases hmembers
            exact .struct hne (h.library _ _ hd) hstruct honly (ih hform)
          next => cases hmembers

theorem hasMember_of_memberType (h : setting.Within around) {receiver type : Ty}
    {member : String} (hmember : setting.memberType receiver member = .found type) :
  around.library.HasMember receiver member type
  := by
  unfold Setting.memberType at hmember
  split at hmember
  next isReference entity written args =>
    split at hmember
    next definitions hd => exact ⟨_, _, _, _, definitions, rfl, h.library _ _ hd, hmember⟩
    next => cases hmember
  next => cases hmember

theorem Library.HasMember.formed {library : Library} (h : library.Formed) {receiver type : Ty}
    {member : String} (hmember : library.HasMember receiver member type)
    (hreceiver : receiver.Formed library.openScope 0) :
  type.Formed library.openScope 0
  := by
  obtain ⟨isReference, entity, written, args, definitions, rfl, hd, hmember⟩ := hmember
  simp only [Ty.Formed, Ty.areFormed_iff] at hreceiver
  exact (h _ _ hd).memberType hd hreceiver.1 (fun _ _ h => h) hreceiver.2 hmember

theorem Expr.Typed.formed {expr : Expr} (h : expr.Typed around vars) :
  expr.type.Formed around.library.openScope 0
  := by
  cases expr
  exact h.1

theorem Block.Typed.formed {block : Block} (h : block.Typed around vars) :
  block.type.Formed around.library.openScope 0
  := by
  cases block
  exact h.2.formed

end Parts

/-! ### The induction -/

section Induction

variable {setting : Setting} {around : Surroundings}

/-- The rules of the checker carry the judgement, where the visible variables are formed. -/
theorem carries_typed (h : setting.Within around) :
  setting.Carries (fun vars _ expr => vars.Formed around.library → expr.Typed around vars)
    fun vars _ block => vars.Formed around.library → block.Typed around vars
  := by
  constructor
  case name =>
    intro vars name location type htype hvars
    exact ⟨Variables.formed_type? hvars htype, htype⟩
  case literal =>
    intro vars written text location type form htype hform haccepts hvars
    exact ⟨(formed_checkTy h.types htype).open, form, hasForm_of_literalFormWithin h hform,
      haccepts⟩
  case list =>
    intro vars written element location items type htype hvalue hitems hsame hvars
    constructor
    · simpa only [Ty.Formed] using (formed_checkTy h.types htype).open
    · exact ⟨rfl, areTyped_iff.mpr (forall_of_related hitems fun _ _ h => h hvars), hsame⟩
  case follow =>
    intro vars written member location receiver type hreceiver htype hvars
    have hmember := hasMember_of_memberType h htype
    exact ⟨hmember.formed h.formed (hreceiver hvars).formed, hreceiver hvars, hmember⟩
  case call =>
    intro vars reference written choices location entity function given args chosen ground
      hcallee hgiven hrelated hground hvars
    obtain ⟨entry, signature, hresolve, rfl, hsignature, rfl⟩ := passes_callee h hcallee
    have htyped := forall_of_related hrelated fun _ _ h => h hvars
    have hcalls := calls_of_groundCall (formed_checkOpenTys h.types hgiven)
      (fun a ha => (htyped a ha).formed) hground
    exact ⟨hcalls.formed_output (h.formed.signature hsignature).open, areTyped_iff.mpr htyped,
      entry, signature, hresolve, rfl, hsignature, hcalls⟩
  case callValue =>
    intro vars callee written choices location value function given args chosen ground
      hcallee htype hgiven hrelated hground hvars
    have hfunction := hcallee hvars
    have hformed := hfunction.formed
    rw [Ty.eq_toTy_of_function? htype] at hformed
    have htyped := forall_of_related hrelated fun _ _ h => h hvars
    have hcalls := calls_of_groundCall (formed_checkOpenTys h.types hgiven)
      (fun a ha => (htyped a ha).formed) hground
    exact ⟨hcalls.formed_output hformed, hfunction, areTyped_iff.mpr htyped, function, htype,
      hcalls⟩
  case bind =>
    intro vars reference written choices location entity function given slots chosen bound
      hcallee hgiven hrelated hbound hvars
    obtain ⟨entry, signature, hresolve, rfl, hsignature, rfl⟩ := passes_callee h hcallee
    have htyped := forall_some_of_related hrelated fun _ _ h => h hvars
    have hformed := (h.formed.signature hsignature).open
    have hbinds := binds_of_bindFunction hformed (formed_checkOpenTys h.types hgiven)
      (fun e he => (htyped e he).formed) hbound
    exact ⟨hbinds.formed_output hformed, slotsTyped_iff.mpr htyped, entry, signature, hresolve,
      rfl, hsignature, hbinds⟩
  case bindValue =>
    intro vars callee written choices location value function given slots chosen bound
      hcallee htype hgiven hrelated hbound hvars
    have hfunction := hcallee hvars
    have hformed := hfunction.formed
    rw [Ty.eq_toTy_of_function? htype] at hformed
    have htyped := forall_some_of_related hrelated fun _ _ h => h hvars
    have hbinds := binds_of_bindFunction hformed (formed_checkOpenTys h.types hgiven)
      (fun e he => (htyped e he).formed) hbound
    exact ⟨hbinds.formed_output hformed, hfunction, slotsTyped_iff.mpr htyped, function, htype,
      hbinds⟩
  case ifThen =>
    intro vars written first second location condition thenBlock elseBlock hcondition hboolean
      hthen helse hsame hvars
    exact ⟨(hthen hvars).formed, hcondition hvars, hboolean, hthen hvars, Ty.same_refl _,
      helse hvars, Ty.same_symm hsame⟩
  case closure =>
    intro site vars written result inner location args output body hnames hnew hwritten houtput
      hbody hsame hvars
    have htypes : ∀ a ∈ args, a.type.Formed around.library.openScope 0 := by
      intro a ha
      obtain ⟨_, -, htype, -⟩ := exists_related_left hwritten ha
      exact (formed_checkTy h.types htype).open
    constructor
    · simpa [Ty.Formed] using ⟨htypes, (formed_checkTy h.types houtput).open⟩
    · exact ⟨hnames, hnew, Variables.captures_captured hvars.names _,
        hbody (hvars.append ⟨hnames, htypes⟩ hnew), hsame, rfl⟩
  case last =>
    intro vars written expr hexpr hactions hvars
    exact ⟨trivial, by simpa [declaredBy] using hexpr hvars⟩
  case statement =>
    -- what a statement declares is visible to those after it
    have hrest : ∀ {vars : Variables} {statement : Stmt} {block : Block},
        statement.Typed around vars → block.Typed around (vars ++ statement.declared) →
        (Block.mk (statement :: block.statements) block.last).Typed around vars := by
      rintro vars statement ⟨statements, last⟩ hstatement ⟨hstatements, hlast⟩
      rw [List.append_assoc] at hlast
      exact ⟨⟨hstatement, hstatements⟩, hlast⟩
    intro vars written rest statement block hpasses hblock hvars
    cases hpasses with
    | assign hvalue hnew hreserved hunshared hactions =>
      have htyped := hvalue hvars
      refine hrest ⟨hnew, htyped, rfl⟩ (hblock (hvars.append ⟨List.nodup_singleton _, ?_⟩ ?_))
      · simpa [Stmt.declared] using htyped.formed
      · simpa [Stmt.declared] using hnew
    | bare hvalue hactions =>
      exact hrest (hvalue hvars) (hblock (by simpa [Stmt.declared] using hvars))

/-- A block that passes is well typed. -/
theorem typed_checkBlock (h : setting.Within around) (site : Site) (vars : Variables)
    (hvars : vars.Formed around.library) (written : SourceBlock) {block : Block}
    (hp : (checkBlock setting site vars written).Passes block) :
  block.Typed around vars
  := (carries_typed h).of_block site vars written hp hvars

end Induction

end TypedModules
