import TypedModules.Proofs.Check.Loud
import TypedModules.Proofs.Declared.Accepted
import TypedModules.Proofs.Typing.Judgement

/-!
# Calls and bindings that pass

What the check of a call or of a binding leaves in the tree satisfies the judgement: the types
that are chosen, whether written or revealed by what is supplied, are as many as there are
type parameters, and what was compared on the way is what the chosen types make of the
callee's type.
-/

namespace TypedModules

open Check

/-- Whether surroundings hold what a setting knows. -/
structure Setting.Within (setting : Setting) (around : Surroundings) : Prop where
  resolves : ∀ reference entry, setting.scope.resolve .function reference = .ok entry →
    around.resolves reference entry
  library : ∀ id definitions, setting.definitions? id = some definitions →
    around.library id = some definitions
  formed : around.library.Formed
  types : setting.TypesIn around.library

theorem Setting.Within.within {setting : Setting} {around : Surroundings}
    (h : setting.Within around) (typeParams : List TypeParam) :
  (setting.within typeParams).Within around
  := ⟨h.resolves, h.library, h.formed, h.types⟩

/-- A type in whose scope some parameters are stays formed where any may be. -/
theorem Ty.Formed.open {library : Library} {typeParams : List TypeParam} {type : Ty}
    {allowed : Nat} (h : type.Formed (library.scopeOf typeParams) allowed) :
  type.Formed library.openScope allowed
  := h.mono (fun _ _ h => h) (fun _ _ => trivial) (Nat.le_refl _)

section Calls

variable {setting : Setting} {around : Surroundings} {callee : String}
  {location : Option Location}

theorem passes_checkOpenTys {written : List (Option SourceTy)} {types : List (Option Ty)} :
  (checkOpenTys setting written).Passes types
    ↔ List.Forall₂ (Option.Rel fun w t => (checkTy setting w).Passes t) written types
  := by
  induction written generalizing types with
  | nil => cases types <;> simp [checkOpenTys]
  | cons first rest ih =>
    cases first <;> cases types <;> simp [checkOpenTys, ih]
    · rename_i type types
      cases type <;> simp
    · rename_i written type types
      cases type <;> simp [Option.rel_some_some]

/-- Types that are written are formed, where some may be absent. -/
theorem formed_checkOpenTys (h : setting.TypesIn around.library)
    {written : List (Option SourceTy)} {types : List (Option Ty)}
    (hp : (checkOpenTys setting written).Passes types) :
  ∀ t, some t ∈ types → t.Formed around.library.openScope 0
  := by
  intro t ht
  obtain ⟨w, -, hrel⟩ := exists_related_left (passes_checkOpenTys.mp hp) ht
  cases w with
  | none => cases hrel
  | some w =>
    rw [Option.rel_some_some] at hrel
    exact (formed_checkTy h hrel).open

theorem value_of_checkChoice {param : TypeParam} {type : Ty} {fits : Bool}
    (hp : (checkChoice setting callee location param type).Passes fits) :
  type.isReference = false
  := by
  by_contra hreference
  simp [checkChoice, hreference] at hp

/-- Whatever is chosen is no reference. -/
theorem values_of_checkChoices {params : List TypeParam} {chosen : List (Option Ty)} {fits : Bool}
    (hp : (checkChoices setting callee location params chosen).Passes fits)
    (hlength : chosen.length = params.length) :
  ∀ c, some c ∈ chosen → c.isReference = false
  := by
  induction chosen generalizing params fits with
  | nil => simp
  | cons first chosen ih =>
    cases params with
    | nil => cases hlength
    | cons param params =>
      cases first with
      | some type =>
        simp only [checkChoices, passes_bind] at hp
        obtain ⟨_, hfirst, _, hothers, -⟩ := hp
        have hrest := ih hothers (by simpa using hlength)
        simpa [value_of_checkChoice hfirst] using hrest
      | none =>
        rw [checkChoices] at hp
        simpa using ih hp (by simpa using hlength)

theorem passes_chooseTypeArgs {function : FunctionType} {written supplied chosen : List (Option Ty)}
    (hp : (chooseTypeArgs setting function written supplied callee location).Passes chosen) :
  inferTypeArgs function written supplied = .ok chosen
    ∧ ∃ fits, (checkChoices setting callee location function.typeParams chosen).Passes fits
  := by
  unfold chooseTypeArgs at hp
  split at hp
  all_goals first | exact absurd hp (not_passes_fail _ _ _ _) | skip
  next inferred hinfer =>
    simp only [passes_bind] at hp
    obtain ⟨fits, hfits, hp⟩ := hp
    cases fits
    · simp at hp
    · obtain rfl : inferred = chosen := by simpa using hp
      exact ⟨hinfer, true, hfits⟩

theorem passes_checkArgTypes {position : Nat} {args : List Expr} {expected : List Ty} {a : Unit}
    (hlength : args.length = expected.length)
    (hp : (checkArgTypes callee location position args expected).Passes a) :
  Ty.sameAll (args.map (·.type)) expected = true
  := by
  induction args generalizing position expected with
  | nil =>
    obtain rfl := List.eq_nil_of_length_eq_zero hlength.symm
    rfl
  | cons arg rest ih =>
    obtain ⟨first, others, rfl⟩ := List.exists_cons_of_length_eq_add_one hlength.symm
    simp only [checkArgTypes, passes_unless] at hp
    obtain ⟨hsame, hothers⟩ := hp
    rw [List.map_cons, Ty.sameAll, hsame, ih (by simpa using hlength) hothers]
    rfl

/-- What a call that passes chooses, and what is compared for it. -/
theorem passes_groundCall {function : FunctionType} {written : List (Option Ty)}
    {args : List Expr} {chosen : List Ty} {ground : FunctionType}
    (hp : (groundCall setting function written args callee location).Passes (chosen, ground)) :
  inferTypeArgs function written (args.map fun a => some a.type) = .ok (chosen.map some)
    ∧ (∃ fits, (checkChoices setting callee location function.typeParams
        (chosen.map some)).Passes fits)
    ∧ Ty.sameAll (args.map (·.type)) (function.ground chosen).args = true
    ∧ function.ground chosen = ground
  := by
  simp only [groundCall, passes_guard, bne_iff_ne, ne_eq, not_not, passes_bind] at hp
  obtain ⟨hlength, inferred, hchoose, hp⟩ := hp
  obtain ⟨hinfer, hchoices⟩ := passes_chooseTypeArgs hchoose
  split at hp
  · exact absurd hp (not_passes_fail _ _ _ _)
  next chosen' hchosen =>
    rw [mapM_id_eq_some] at hchosen
    subst hchosen
    simp only [passes_bind, passes_pure, Prod.mk.injEq] at hp
    obtain ⟨_, htypes, rfl, rfl⟩ := hp
    exact ⟨hinfer, hchoices, passes_checkArgTypes (by simpa using hlength) htypes, rfl⟩

/-- A call that passes has the type that the judgement gives it. -/
theorem calls_of_groundCall {function : FunctionType} {written : List (Option Ty)}
    {args : List Expr} {result : List Ty × FunctionType}
    (hwritten : ∀ t, some t ∈ written → t.Formed around.library.openScope 0)
    (hargs : ∀ a ∈ args, a.type.Formed around.library.openScope 0)
    (hp : (groundCall setting function written args callee location).Passes result) :
  function.Calls around.library result.1 (args.map (·.type)) result.2.output
  := by
  obtain ⟨chosen, ground⟩ := result
  obtain ⟨hinfer, -, hsame, rfl⟩ := passes_groundCall hp
  obtain ⟨hcount, hformed⟩ := formed_inferTypeArgs (fun _ => trivial) hwritten
    (by simpa using hargs) hinfer
  exact {
    count := by simpa using hcount
    formed := by simpa using hformed
    args := hsame
    output := rfl }

/-- What a call makes of a formed function type is formed. -/
theorem FunctionType.Calls.formed_output {library : Library} {function : FunctionType}
    {chosen args : List Ty} {type : Ty} (h : function.Calls library chosen args type)
    (hfunction : function.toTy.Formed library.openScope 0) :
  type.Formed library.openScope 0
  := by
  rw [h.output]
  exact (FunctionType.formed_ground hfunction h.count h.formed).2

/-- The slots whose values passed are those that can be bound. -/
theorem passes_checkSlotTypes {position : Nat} {slots : List (Option Expr)}
    {expected : List (Option Ty)} {a : Unit} (hlength : slots.length = expected.length)
    (hp : (checkSlotTypes callee location position slots expected).Passes a) :
  List.Forall₂ (fun slot e => ∀ value, slot = some value →
    ∃ type, e = some type ∧ value.type.same type = true) slots expected
  := by
  induction slots generalizing position expected with
  | nil =>
    obtain rfl := List.eq_nil_of_length_eq_zero hlength.symm
    exact .nil
  | cons slot rest ih =>
    obtain ⟨first, others, rfl⟩ := List.exists_cons_of_length_eq_add_one hlength.symm
    have hrest : rest.length = others.length := by simpa using hlength
    cases slot with
    | none => exact .cons (by simp) (ih hrest hp)
    | some value =>
      cases first with
      | none => exact absurd hp (not_passes_fail _ _ _ _)
      | some type =>
        simp only [checkSlotTypes, passes_unless] at hp
        obtain ⟨hsame, hothers⟩ := hp
        exact .cons (by simpa using hsame) (ih hrest hothers)

/-- What holds of the types of the values in slots. -/
theorem forall_some_map_type {slots : List (Option Expr)} {P : Ty → Prop}
    (h : ∀ e, some e ∈ slots → P e.type) :
  ∀ t, some t ∈ slots.map (fun slot => slot.map (·.type)) → P t
  := by
  intro t ht
  obtain ⟨slot, hslot, e⟩ := List.mem_map.mp ht
  obtain ⟨value, rfl, rfl⟩ := Option.map_eq_some_iff.mp e
  exact h value hslot

/-- What can be bound stands in its slot and depends on nothing that is open. -/
theorem bindableArgs_eq (function : FunctionType) {scope : TyScope}
    (h : function.toTy.Formed scope 0) :
  function.bindableArgs = function.args.map fun type => if type.isBindable then some type else none
  := by
  unfold FunctionType.bindableArgs
  split
  next hground =>
    apply List.map_congr_left
    intro arg harg
    have hformed := (FunctionType.formed_toTy.mp h).1 arg harg
    rw [FunctionType.isGround_iff.mp hground] at hformed
    rw [if_pos (show arg.isBindable = true from hformed.isClosedWithin)]
  next => rfl

/-- What a binding that passes chooses, and what is compared for it. -/
theorem passes_bindFunction {function : FunctionType} {written : List (Option Ty)}
    {slots : List (Option Expr)} {chosen : List (Option Ty)} {bound : FunctionType}
    (hp : (bindFunction setting function written slots callee location).Passes (chosen, bound)) :
  inferTypeArgs function written (slots.map fun slot => slot.map (·.type)) = .ok chosen
    ∧ (∃ fits, (checkChoices setting callee location function.typeParams chosen).Passes fits)
    ∧ List.Forall₂ (fun slot e => ∀ value, slot = some value →
        ∃ type, e = some type ∧ value.type.same type = true)
      slots (function.rebindTypes chosen).bindableArgs
    ∧ (function.rebindTypes chosen).rebindArgs (slots.map fun slot => slot.map (·.type)) = bound
  := by
  simp only [bindFunction, passes_guard, bne_iff_ne, ne_eq, not_not, passes_bind, passes_pure,
    Prod.mk.injEq] at hp
  obtain ⟨hlength, inferred, hchoose, _, htypes, rfl, rfl⟩ := hp
  obtain ⟨hinfer, hchoices⟩ := passes_chooseTypeArgs hchoose
  have hbindable : (function.rebindTypes inferred).bindableArgs.length
      = (function.rebindTypes inferred).args.length := by
    unfold FunctionType.bindableArgs
    split <;> simp
  exact ⟨hinfer, hchoices, passes_checkSlotTypes (by simpa [hbindable] using hlength) htypes, rfl⟩

/-- A binding that passes has the type that the judgement gives it. -/
theorem binds_of_bindFunction {function : FunctionType} {written : List (Option Ty)}
    {slots : List (Option Expr)} {result : List (Option Ty) × FunctionType}
    (hfunction : function.toTy.Formed around.library.openScope 0)
    (hwritten : ∀ t, some t ∈ written → t.Formed around.library.openScope 0)
    (hslots : ∀ e, some e ∈ slots → e.type.Formed around.library.openScope 0)
    (hp : (bindFunction setting function written slots callee location).Passes result) :
  function.Binds around.library result.1 (slots.map fun slot => slot.map (·.type)) result.2.toTy
  := by
  obtain ⟨chosen, bound⟩ := result
  obtain ⟨hinfer, -, hrelated, rfl⟩ := passes_bindFunction hp
  obtain ⟨hcount, hformed⟩ := formed_inferTypeArgs (fun _ => trivial) hwritten
    (forall_some_map_type hslots) hinfer
  rw [bindableArgs_eq _ (FunctionType.formed_rebindTypes hfunction hcount hformed)] at hrelated
  exact {
    count := hcount
    formed := hformed
    slots := by
      rw [List.forall₂_map_right_iff] at hrelated
      rw [List.forall₂_map_left_iff]
      apply hrelated.imp
      intro slot type h v hv
      obtain ⟨value, rfl, rfl⟩ := Option.map_eq_some_iff.mp hv
      obtain ⟨type', htype, hsame⟩ := h value rfl
      split at htype
      next hbindable =>
        cases htype
        exact ⟨hsame, hbindable⟩
      next => cases htype
    output := rfl }

theorem FunctionType.Binds.formed_output {library : Library} {function : FunctionType}
    {chosen supplied : List (Option Ty)} {type : Ty}
    (h : function.Binds library chosen supplied type)
    (hfunction : function.toTy.Formed library.openScope 0) :
  type.Formed library.openScope 0
  := by
  rw [h.output]
  exact FunctionType.formed_rebindArgs (FunctionType.formed_rebindTypes hfunction h.count h.formed)

/-- A callee that passes is declared, and its type is that of its signature. -/
theorem passes_callee (h : setting.Within around) {reference : Reference}
    {result : Entity × FunctionType}
    (hp : (setting.callee reference location).Passes result) :
  ∃ entry signature, around.resolves reference entry ∧ entry.entity = result.1
    ∧ around.library.signature? entry = some signature ∧ signature.functionType = result.2
  := by
  simp only [Setting.callee, passes_bind, passes_resolve] at hp
  obtain ⟨entry, hentry, hp⟩ := hp
  split at hp
  next signature hsignature =>
    cases passes_pure.mp hp
    refine ⟨entry, signature, h.resolves _ _ hentry, rfl, ?_, rfl⟩
    obtain ⟨definitions, hd, hsignature⟩ := Option.bind_eq_some_iff.mp hsignature
    rw [Library.signature?, h.library _ _ hd, Option.bind_some, hsignature]
  next => exact absurd hp (not_passes_failBehind _ _)

/-- Whatever has a signature has a formed one. -/
theorem Library.Formed.signature {library : Library} (h : library.Formed) {entry : Visible}
    {signature : Signature} (hsignature : library.signature? entry = some signature) :
  signature.Formed library
  := by
  obtain ⟨definitions, hd, hsignature⟩ := Option.bind_eq_some_iff.mp hsignature
  exact (h _ _ hd).signature hd hsignature

theorem Signature.Formed.open {library : Library} {signature : Signature}
    (h : signature.Formed library) :
  signature.functionType.toTy.Formed library.openScope 0
  := h.functionType.mono (fun _ _ h => h) (fun _ => False.elim) (Nat.le_refl _)

theorem passes_calleeType {function : Expr} {type : FunctionType} :
  (calleeType function location).Passes type ↔ function.type.function? = some type
  := by
  unfold calleeType
  split <;> simp_all

end Calls

end TypedModules
