import TypedModules.Proofs.Check.Alpha
import TypedModules.Proofs.Check.Data
import TypedModules.Proofs.Ty.Congruent
import TypedModules.Proofs.Typing.Calls

/-!
# Types written otherwise

The checks of calls and of bindings compare the types of values with those of arguments and of
slots.  They compare up to sameness, so from same function types, with same choices and values of
same types, they come to the same; only the wording of what they report tells how a type was written
(`FunctionType.ComparesAlike`).  What inference finds may be written with the names that a function
type has for its parameters, but then no comparison passes.  So a call or a binding that passes,
passes with all types written otherwise (`FunctionType.ReplaceableBy`).  Together with what the
operations make of same types this is `same_congruence`.
-/

namespace TypedModules

open Check Ty

/-! ### Checks that report alike -/

namespace Check

variable {α β γ δ : Type} {S : γ → δ → Prop}

theorem tracks_abort_bind (next : α → Check γ) (next' : β → Check δ) :
  (abort >>= next).Tracks S (abort >>= next')
  := fun _ => ⟨.none, .nil⟩

theorem tracks_report (code : Code) (location : Option Location) (message message' : String) :
  (report code location message).Tracks Eq (report code location message')
  := by
  intro behind
  refine ⟨.some rfl, .cons ?_ .nil⟩
  rfl

theorem tracks_fail_bind (code : Code) (location : Option Location) (message message' : String)
    (next : α → Check γ) (next' : β → Check δ) :
  (fail code location message >>= next).Tracks S (fail code location message' >>= next')
  := by
  have hfail : (fail code location message : Check α).Tracks (fun _ _ => False)
      (fail code location message' : Check β) := tracks_fail code location message message'
  apply hfail.bind
  rintro _ _ ⟨⟩

end Check

/-! ### Compared types -/

/-- Whether two values have the same type. -/
def Expr.SameType (value other : Expr) : Prop :=
  value.type.same other.type = true

section Compared

variable {callee : String} {location : Option Location}

theorem Ty.same_congr {a b c d : Ty} (h : a.same b = true) (h' : c.same d = true) :
  a.same c = b.same d
  := by
  rw [same_iff] at h h'
  rw [Bool.eq_iff_iff, same_iff, same_iff, h, h']

theorem tracks_checkArgTypes {args args' : List Expr} {expected expected' : List Ty}
    (hargs : List.Forall₂ Expr.SameType args args')
    (hexpected : sameAll expected expected' = true) (position : Nat) :
  (checkArgTypes callee location position args expected).Tracks Eq
    (checkArgTypes callee location position args' expected')
  := by
  replace hexpected := forall₂_of_sameAll hexpected
  induction hargs generalizing expected expected' position with
  | nil => apply tracks_pure rfl
  | cons harg _ ih =>
    cases hexpected with
    | nil => apply tracks_pure rfl
    | cons hfirst hothers =>
      unfold checkArgTypes
      rw [same_congr harg hfirst]
      split
      · apply ih _ hothers
      · apply tracks_fail_bind

theorem tracks_checkSlotTypes {slots slots' : List (Option Expr)}
    {expected expected' : List (Option Ty)}
    (hslots : List.Forall₂ (Option.Rel Expr.SameType) slots slots')
    (hexpected : sameOptions expected expected' = true)
    (position : Nat) :
  (checkSlotTypes callee location position slots expected).Tracks Eq
    (checkSlotTypes callee location position slots' expected')
  := by
  rw [sameOptions_iff_rel] at hexpected
  induction hslots generalizing expected expected' position with
  | nil => apply tracks_pure rfl
  | cons hslot _ ih =>
    cases hexpected with
    | nil => cases hslot <;> apply tracks_pure rfl
    | cons hfirst hothers =>
      cases hslot with
      | none => apply ih hothers
      | some hvalue =>
        cases hfirst with
        | none => apply tracks_fail
        | some htype =>
          unfold checkSlotTypes
          rw [same_congr hvalue htype]
          split
          · apply ih hothers
          · apply tracks_fail_bind

end Compared

/-! ### Choices -/

section Choices

variable {setting : Setting} {callee : String} {location : Option Location}

theorem Setting.isData_of_same {a b : Ty} (h : a.same b = true) :
  setting.isData a = setting.isData b
  := by
  have hdata_of : ∀ {a b : Ty}, a.same b = true →
      setting.isData a = true → setting.isData b = true := by
    intro a b h hdata
    rw [Setting.isData_iff] at hdata ⊢
    intro path inner hinner hnodup hbarred
    obtain ⟨inner', hinner', hsame⟩ := hinner.same (same_symm h)
    apply hdata path inner' hinner' hnodup (hbarred.same hsame)
  rw [Bool.eq_iff_iff]
  constructor
  · apply hdata_of h
  · apply hdata_of (same_symm h)

theorem tracks_checkChoice {param param' : TypeParam} (hparam : param.typeClass = param'.typeClass)
    {type type' : Ty} (h : type.same type' = true) :
  (checkChoice setting callee location param type).Tracks Eq
    (checkChoice setting callee location param' type')
  := by
  unfold checkChoice
  rw [isReference_of_same h, hparam, Setting.isData_of_same h]
  have hreported : ∀ code message message',
      (report code location message >>= fun _ => pure false : Check Bool).Tracks Eq
        (report code location message' >>= fun _ => pure false) := by
    intro code message message'
    apply (tracks_report code location message message').bind
    intro _ _ _
    apply tracks_pure rfl
  split
  · apply hreported
  · split
    · apply hreported
    · apply tracks_pure rfl

theorem tracks_checkChoices {params params' : List TypeParam}
    (hparams : sameTypeClasses params params' = true) {chosen chosen' : List (Option Ty)}
    (hchosen : sameOptions chosen chosen' = true) :
  (checkChoices setting callee location params chosen).Tracks Eq
    (checkChoices setting callee location params' chosen')
  := by
  rw [sameTypeClasses, beq_iff_eq] at hparams
  rw [sameOptions_iff_rel] at hchosen
  induction hchosen generalizing params params' with
  | nil =>
    cases params <;> cases params' <;> apply tracks_pure rfl
  | cons hfirst _ ih =>
    cases params with
    | nil =>
      cases params' with
      | nil => apply tracks_pure rfl
      | cons => cases hparams
    | cons param rest =>
      cases params' with
      | nil => cases hparams
      | cons param' rest' =>
        rw [List.map_cons, List.map_cons, List.cons.injEq] at hparams
        cases hfirst with
        | none => apply ih hparams.2
        | some hsame =>
          apply (tracks_checkChoice hparams.1 hsame).bind
          rintro first _ rfl
          apply (ih hparams.2).bind
          rintro others _ rfl
          apply tracks_pure rfl

end Choices

/-! ### Calls and bindings -/

section Calls

variable {setting : Setting} {callee : String} {location : Option Location}
  {function function' : FunctionType}

theorem tracks_chooseTypeArgs (h : function.toTy.same function'.toTy = true)
    {written written' supplied supplied' chosen chosen' : List (Option Ty)}
    (hinfer : inferTypeArgs function written supplied = .ok chosen)
    (hinfer' : inferTypeArgs function' written' supplied' = .ok chosen')
    (hchosen : sameOptions chosen chosen' = true) :
  (chooseTypeArgs setting function written supplied callee location).Tracks
    (fun types types' => types = chosen ∧ types' = chosen')
    (chooseTypeArgs setting function' written' supplied' callee location)
  := by
  unfold chooseTypeArgs
  rw [hinfer, hinfer']
  apply (tracks_checkChoices (FunctionType.same_toTy.mp h).2.1 hchosen).bind
  rintro fits _ rfl
  cases fits with
  | false =>
    apply tracks_abort_bind
  | true => apply tracks_pure ⟨rfl, rfl⟩

theorem FunctionType.length_args_of_same (h : function.toTy.same function'.toTy = true) :
  function.args.length = function'.args.length
  := (forall₂_of_sameAll (FunctionType.sameAll_args h)).length_eq

theorem tracks_groundCall (h : function.toTy.same function'.toTy = true)
    {written written' : List (Option Ty)} {args args' : List Expr}
    (hargs : List.Forall₂ Expr.SameType args args') {chosen chosen' : List Ty}
    (hchosen : sameAll chosen chosen' = true)
    (hinfer : inferTypeArgs function written (args.map fun a => some a.type)
      = .ok (chosen.map some))
    (hinfer' : inferTypeArgs function' written' (args'.map fun a => some a.type)
      = .ok (chosen'.map some)) :
  (groundCall setting function written args callee location).Tracks
    (fun result result' => sameAll result.1 result'.1 = true
      ∧ result.2.toTy.same result'.2.toTy = true)
    (groundCall setting function' written' args' callee location)
  := by
  have hground := FunctionType.same_ground h hchosen
  unfold groundCall
  rw [hargs.length_eq, FunctionType.length_args_of_same h]
  split
  · apply tracks_fail_bind
  · apply (tracks_chooseTypeArgs h hinfer hinfer' (sameOptions_some _ _ ▸ hchosen)).bind
    rintro _ _ ⟨rfl, rfl⟩
    rw [mapM_id_eq_some.mpr rfl, mapM_id_eq_some.mpr rfl]
    apply (tracks_checkArgTypes hargs (FunctionType.sameAll_args hground) 1).bind
    intro _ _ _
    apply tracks_pure ⟨hchosen, hground⟩

/-- The types of values in slots. -/
abbrev slotTypes (slots : List (Option Expr)) : List (Option Ty) :=
  slots.map fun slot => slot.map (·.type)

theorem sameOptions_slotTypes {slots slots' : List (Option Expr)}
    (h : List.Forall₂ (Option.Rel Expr.SameType) slots slots') :
  sameOptions (slotTypes slots) (slotTypes slots') = true
  := by
  rw [sameOptions_iff_rel, List.forall₂_map_left_iff, List.forall₂_map_right_iff]
  apply h.imp
  intro _ _ hslot
  apply rel_map hslot
  intro _ _ hvalue
  apply hvalue

theorem tracks_bindFunction (h : function.toTy.same function'.toTy = true)
    {written written' : List (Option Ty)} {slots slots' : List (Option Expr)}
    (hslots : List.Forall₂ (Option.Rel Expr.SameType) slots slots')
    {chosen chosen' : List (Option Ty)} (hchosen : sameOptions chosen chosen' = true)
    (hinfer : inferTypeArgs function written (slotTypes slots) = .ok chosen)
    (hinfer' : inferTypeArgs function' written' (slotTypes slots') = .ok chosen') :
  (bindFunction setting function written slots callee location).Tracks
    (fun result result' => sameOptions result.1 result'.1 = true
      ∧ result.2.toTy.same result'.2.toTy = true)
    (bindFunction setting function' written' slots' callee location)
  := by
  have hrebound := FunctionType.same_rebindTypes h hchosen
  unfold bindFunction
  rw [hslots.length_eq, FunctionType.length_args_of_same h]
  split
  · apply tracks_fail_bind
  · apply (tracks_chooseTypeArgs h hinfer hinfer' hchosen).bind
    rintro _ _ ⟨rfl, rfl⟩
    apply (tracks_checkSlotTypes hslots (FunctionType.same_bindableArgs hrebound) 1).bind
    intro _ _ _
    apply tracks_pure
    constructor
    · exact hchosen
    · apply FunctionType.same_rebindArgs hrebound (sameOptions_slotTypes hslots)

/-- With all parameters chosen, each argument can be bound. -/
theorem bindableArgs_ground (hclosed : function.toTy.isBindable = true) (types : List Ty) :
  (function.ground types).bindableArgs
    = function.args.map fun type => some (type.instantiate (types.map some))
  := by
  rw [FunctionType.ground_eq (formed_all_iff.mpr hclosed)]
  simp [FunctionType.bindableArgs, FunctionType.isGround, Function.comp_def]

/-- Values that pass the comparison with the arguments fit what is chosen. -/
theorem fits_of_args (hclosed : function.toTy.isBindable = true) {types : List Ty}
    {args : List Expr}
    (h : sameAll (args.map (·.type)) (function.ground types).args = true) :
  Fits types function.args (args.map fun arg => some arg.type)
  := by
  rw [FunctionType.ground_eq (formed_all_iff.mpr hclosed)] at h
  have hrelated := forall₂_of_sameAll h
  rw [List.forall₂_map_left_iff, List.forall₂_map_right_iff] at hrelated
  rw [Fits, List.forall₂_map_right_iff]
  apply hrelated.flip.imp
  rintro declared arg hsame _ ⟨⟩
  exact hsame

/-- Values that pass the comparison with the slots fit what is chosen. -/
theorem fits_of_slots (hclosed : function.toTy.isBindable = true) {types : List Ty}
    (hcount : types.length = function.typeParams.length) {slots : List (Option Expr)}
    (h : List.Forall₂ (fun slot e => ∀ value, slot = some value →
      ∃ type, e = some type ∧ value.type.same type = true)
      slots (function.rebindTypes (types.map some)).bindableArgs) :
  Fits types function.args (slotTypes slots)
  := by
  rw [← FunctionType.ground_eq_rebindTypes hcount, bindableArgs_ground hclosed,
    List.forall₂_map_right_iff] at h
  rw [Fits, List.forall₂_map_right_iff]
  apply h.flip.imp
  intro declared slot hslot type htype
  obtain ⟨value, rfl, rfl⟩ := Option.map_eq_some_iff.mp htype
  obtain ⟨_, ⟨⟩, hvalue⟩ := hslot value rfl
  exact hvalue

section Acceptance

variable (h : function.toTy.same function'.toTy = true) {written written' : List (Option Ty)}
  (hwritten : sameOptions written written' = true) (hclosed : function.toTy.isBindable = true)
  (hwrittenClosed : ∀ type, some type ∈ written → type.isBindable = true)

include h hwritten hclosed hwrittenClosed

/-- A call that passes, passes with all types written otherwise. -/
theorem passes_groundCall_of_same {args args' : List Expr}
    (hargs : List.Forall₂ Expr.SameType args args')
    (hargsClosed : ∀ arg ∈ args, arg.type.isBindable = true) {result : List Ty × FunctionType}
    (hp : (groundCall setting function written args callee location).Passes result) :
  ∃ result', (groundCall setting function' written' args' callee location).Passes result'
    ∧ sameAll result.1 result'.1 = true ∧ result.2.toTy.same result'.2.toTy = true
  := by
  obtain ⟨hinfer, -, hsame, -⟩ := passes_groundCall hp
  have hsupplied : sameOptions (args.map fun arg => some arg.type)
      (args'.map fun arg => some arg.type) = true := by
    rw [sameOptions_iff_rel, List.forall₂_map_left_iff, List.forall₂_map_right_iff]
    apply hargs.imp
    intro _ _ harg
    constructor
    exact harg
  obtain ⟨entries, hinfer', hentries⟩ : ∃ entries, inferTypeArgs function' written'
      (args'.map fun arg => some arg.type) = .ok entries
      ∧ sameOptions (result.1.map some) entries = true := by
    apply FunctionType.infers_of_same h hwritten hsupplied hclosed hwrittenClosed _ hinfer
    · intro types hcount htypes
      obtain rfl := List.map_injective_iff.mpr (fun _ _ => Option.some.inj) htypes
      apply fits_of_args hclosed hsame
    · simpa using hargsClosed
  obtain ⟨chosen', rfl, -⟩ := sameOptions_map_some.mp (sameOptions_symm hentries)
  rw [sameOptions_some] at hentries
  apply (tracks_groundCall h hargs hentries hinfer hinfer').passes hp

/-- A binding that passes, passes with all types written otherwise. -/
theorem passes_bindFunction_of_same {slots slots' : List (Option Expr)}
    (hslots : List.Forall₂ (Option.Rel Expr.SameType) slots slots')
    (hslotsClosed : ∀ value, some value ∈ slots → value.type.isBindable = true)
    {result : List (Option Ty) × FunctionType}
    (hp : (bindFunction setting function written slots callee location).Passes result) :
  ∃ result', (bindFunction setting function' written' slots' callee location).Passes result'
    ∧ sameOptions result.1 result'.1 = true ∧ result.2.toTy.same result'.2.toTy = true
  := by
  obtain ⟨hinfer, -, hsame, -⟩ := passes_bindFunction hp
  obtain ⟨chosen', hinfer', hchosen⟩ : ∃ chosen', inferTypeArgs function' written'
      (slotTypes slots') = .ok chosen' ∧ sameOptions result.1 chosen' = true := by
    apply FunctionType.infers_of_same h hwritten (sameOptions_slotTypes hslots) hclosed
      hwrittenClosed _ hinfer
    · intro types hcount htypes
      apply fits_of_slots hclosed hcount (htypes ▸ hsame)
    · exact forall_some_map_type hslotsClosed
  apply (tracks_bindFunction h hslots hchosen hinfer hinfer').passes hp

end Acceptance

end Calls

/-! ### Congruence -/

/-- Whether values of same types are compared alike with the arguments and with the slots of two
function types, for same choices. -/
structure FunctionType.ComparesAlike (function function' : FunctionType) : Prop where
  args : ∀ {chosen chosen' : List Ty} {args args' : List Expr} (callee : String)
    (location : Option Location) (position : Nat),
    sameAll chosen chosen' = true →
    List.Forall₂ Expr.SameType args args' →
    (checkArgTypes callee location position args (function.ground chosen).args).Tracks Eq
      (checkArgTypes callee location position args' (function'.ground chosen').args)
  slots : ∀ {chosen chosen' : List (Option Ty)} {slots slots' : List (Option Expr)}
    (callee : String) (location : Option Location) (position : Nat),
    sameOptions chosen chosen' = true →
    List.Forall₂ (Option.Rel Expr.SameType) slots slots' →
    (checkSlotTypes callee location position slots
        (function.rebindTypes chosen).bindableArgs).Tracks Eq
      (checkSlotTypes callee location position slots' (function'.rebindTypes chosen').bindableArgs)

/-- Whether a function type may be replaced by another one in the calls and bindings that pass,
along with same types for those that are written and values of same types: they pass still, the same
is chosen, and the same is made of it. -/
structure FunctionType.ReplaceableBy (setting : Setting) (function function' : FunctionType) :
    Prop where
  call : ∀ {written written' : List (Option Ty)} {args args' : List Expr} {callee : String}
    {location : Option Location} {result : List Ty × FunctionType},
    sameOptions written written' = true →
    (∀ type, some type ∈ written → type.isBindable = true) →
    List.Forall₂ Expr.SameType args args' →
    (∀ arg ∈ args, arg.type.isBindable = true) →
    (groundCall setting function written args callee location).Passes result →
    ∃ result', (groundCall setting function' written' args' callee location).Passes result'
      ∧ sameAll result.1 result'.1 = true ∧ result.2.toTy.same result'.2.toTy = true
  binding : ∀ {written written' : List (Option Ty)} {slots slots' : List (Option Expr)}
    {callee : String} {location : Option Location} {result : List (Option Ty) × FunctionType},
    sameOptions written written' = true →
    (∀ type, some type ∈ written → type.isBindable = true) →
    List.Forall₂ (Option.Rel Expr.SameType) slots slots' →
    (∀ value, some value ∈ slots → value.type.isBindable = true) →
    (bindFunction setting function written slots callee location).Passes result →
    ∃ result', (bindFunction setting function' written' slots' callee location).Passes result'
      ∧ sameOptions result.1 result'.1 = true ∧ result.2.toTy.same result'.2.toTy = true

section Congruence

variable {function function' : FunctionType}

theorem FunctionType.ComparesAlike.of_same (h : function.toTy.same function'.toTy = true) :
  function.ComparesAlike function'
  := by
  constructor
  case args =>
    intro _ _ _ _ callee location position hchosen hargs
    apply tracks_checkArgTypes hargs
    apply FunctionType.sameAll_args (FunctionType.same_ground h hchosen)
  case slots =>
    intro _ _ _ _ callee location position hchosen hslots
    apply tracks_checkSlotTypes hslots
    apply FunctionType.same_bindableArgs (FunctionType.same_rebindTypes h hchosen)

theorem FunctionType.ReplaceableBy.of_same (h : function.toTy.same function'.toTy = true)
    (hclosed : function.toTy.isBindable = true) (setting : Setting) :
  function.ReplaceableBy setting function'
  := by
  constructor
  case call =>
    intro _ _ _ _ _ _ _ hwritten hwrittenClosed hargs hargsClosed hp
    apply passes_groundCall_of_same h hwritten hclosed hwrittenClosed hargs hargsClosed hp
  case binding =>
    intro _ _ _ _ _ _ _ hwritten hwrittenClosed hslots hslotsClosed hp
    apply passes_bindFunction_of_same h hwritten hclosed hwrittenClosed hslots hslotsClosed hp

end Congruence

/-- Types are the same that differ at most in the references that modules wrote and in the names,
not the typeclasses, of the parameters of function types.  This is an equivalence, and a congruence:
whatever is made of same types with same choices is the same.  So neither the comparisons of values
with arguments and slots nor the calls and bindings that pass depend on how a type is written. -/
theorem same_congruence :
  (∀ a b : Ty, a.same b = true ↔ a.core = b.core)
    ∧ (Equivalence fun a b : Ty => a.same b = true)
    ∧ (∀ a b : Ty, a.same b = true → a.Indistinct b)
    ∧ ∀ function function' : FunctionType, function.toTy.same function'.toTy = true →
      function.Indistinct function' ∧ function.ComparesAlike function'
        ∧ (function.toTy.isBindable = true →
          ∀ setting, function.ReplaceableBy setting function')
  := by
  refine ⟨fun _ _ => same_iff, same_equivalence, fun _ _ h => .of_same h, fun _ _ h => ?_⟩
  exact ⟨.of_same h, .of_same h, fun hclosed setting => .of_same h hclosed setting⟩

/-- The struct type `Point`, written with or without its module. -/
def pointType (qualifier : Option Qualifier) : Ty :=
  let id : EntityId := ⟨["Point"]⟩
  .named false ⟨⟨⟨"example", "shapes"⟩, "1"⟩, id⟩ ⟨qualifier, id⟩ []

/-- A variable that holds a list of points. -/
def pointsExpr (qualifier : Option Qualifier) : Expr :=
  .mk (.list (pointType qualifier)) .notAliased (.variable "points")

/-- The type `<T>(List<T>) -> T`, with a name for its parameter. -/
def elementType (name : String) : FunctionType :=
  ⟨false, [⟨name, none⟩], [.list (.internal 0)], .internal 0⟩

/-- Like `<T>(List<T>) -> T` with a list of `Point`, `<U>(List<U>) -> U` is called with a list of
`shapes:Point`. -/
theorem same_congruence_element :
  (pointType none).Indistinct (pointType (some ⟨none, "shapes", none⟩))
    ∧ (elementType "T").Indistinct (elementType "U")
    ∧ (groundCall default (elementType "T") [] [pointsExpr none] "element" none).Passes
      ([pointType none], (elementType "T").ground [pointType none])
    ∧ ∃ result', (groundCall default (elementType "U") []
        [pointsExpr (some ⟨none, "shapes", none⟩)] "element" none).Passes result'
      ∧ sameAll [pointType none] result'.1 = true
      ∧ ((elementType "T").ground [pointType none]).toTy.same result'.2.toTy = true
  := by
  have hpoint : (pointType none).same (pointType (some ⟨none, "shapes", none⟩)) = true := by
    decide
  have hsame : (elementType "T").toTy.same (elementType "U").toTy = true := by decide
  have hargs : List.Forall₂ Expr.SameType [pointsExpr none]
      [pointsExpr (some ⟨none, "shapes", none⟩)] := .cons hpoint .nil
  have hclosed : ∀ arg ∈ [pointsExpr none], arg.type.isBindable = true := by decide
  have hp : (groundCall default (elementType "T") [] [pointsExpr none] "element" none).Passes
      ([pointType none], (elementType "T").ground [pointType none]) := ⟨rfl, rfl⟩
  obtain ⟨-, -, htypes, hfunctions⟩ := same_congruence
  obtain ⟨hindistinct, -, hreplaceable⟩ := hfunctions _ _ hsame
  refine ⟨htypes _ _ hpoint, hindistinct, hp, ?_⟩
  apply (hreplaceable rfl default).call rfl (by simp) hargs hclosed hp

end TypedModules
