import TypedModules.Proofs.Ty.Inferred
import TypedModules.Proofs.Ty.Proper

/-!
# Operations on same types

The core of a type leaves out what sameness does not look at, and every operation on types makes of
cores the core of what it makes of the types.  Types with one core are the same, so whatever is made
of same types with same choices is the same as well: no operation tells same types apart
(`Indistinct.of_same`).  Only the names that a function type has for its parameters could, where
they become named parameters; that is what `FunctionType.groundByName` does, which is not among the
operations below.  Inference looks at such names as well, so from same types it finds the same only
where the values have the types that the choice makes (`FunctionType.infers_of_same`).
-/

namespace TypedModules

open Ty

/-! ### Choices by name -/

namespace Choices

/-- Whether the same types are chosen for each name. -/
def Same (choices choices' : Choices) : Prop :=
  ∀ name, sameOption (choices.get? name) (choices'.get? name) = true

theorem get?_map_core (choices : Choices) (name : String) :
  get? (choices.map fun choice => (choice.1, choice.2.core)) name
    = (choices.get? name).map Ty.core
  := by
  rw [get?, ← List.map_reverse, List.find?_map, get?, Option.map_map, Option.map_map]
  rfl

/-- Only what is chosen for each name counts. -/
theorem substitute_congr {choices choices' : Choices}
    (h : ∀ name, choices.get? name = choices'.get? name) (type : Ty) :
  type.substitute choices = type.substitute choices'
  := by
  induction type using type_induction with
  | integer | natural | boolean | internal => rfl
  | param p => rw [substitute, substitute, h]
  | list element ih | tryOf element ih => rw [substitute, substitute, ih]
  | function isReference typeParams args output ihArgs ihOutput =>
    simpa [substitute, ihOutput] using ihArgs
  | named isReference entity written params ih => simpa [substitute] using ih

end Choices

/-! ### Types -/

namespace Ty

variable {a b : Ty}

/-- The core of a type in which named parameters have become internal is made of its core. -/
theorem core_internalize (type : Ty) (names : List String) (offset : Nat) :
  (type.internalize names offset).core = type.core.internalize names offset
  := by
  induction type using type_induction generalizing offset with
  | integer | natural | boolean | internal => rfl
  | param p =>
    simp only [internalize, core]
    cases names.idxOf? p.name <;> rfl
  | list element ih | tryOf element ih => simp only [internalize, core, ih]
  | function isReference typeParams args output ihArgs ihOutput =>
    simpa [internalize, core, ihOutput] using fun arg harg => ihArgs arg harg _
  | named isReference entity written params ih =>
    simpa [internalize, core] using fun param hparam => ih param hparam _

@[simp]
theorem isClosedWithin_core (type : Ty) (allowed : Nat) :
  type.core.isClosedWithin allowed = type.isClosedWithin allowed
  := by
  rw [Bool.eq_iff_iff, ← formed_all_iff, ← formed_all_iff, formed_core]

@[simp]
theorem isBindable_core (type : Ty) :
  type.core.isBindable = type.isBindable
  := isClosedWithin_core type 0

theorem isClosedWithin_of_same (h : a.same b = true) (allowed : Nat) :
  a.isClosedWithin allowed = b.isClosedWithin allowed
  := by
  rw [same_iff] at h
  rw [← isClosedWithin_core, h, isClosedWithin_core]

theorem isBindable_of_same (h : a.same b = true) :
  a.isBindable = b.isBindable
  := isClosedWithin_of_same h 0

theorem same_substitute (h : a.same b = true) {choices choices' : Choices}
    (hchoices : choices.Same choices') :
  (a.substitute choices).same (b.substitute choices') = true
  := by
  rw [same_iff] at h ⊢
  rw [core_substitute, core_substitute, h]
  apply Choices.substitute_congr
  intro name
  rw [Choices.get?_map_core, Choices.get?_map_core, sameOption_iff.mp (hchoices name)]

theorem same_internalize (h : a.same b = true) (names : List String) (offset : Nat) :
  (a.internalize names offset).same (b.internalize names offset) = true
  := by
  rw [same_iff] at h ⊢
  rw [core_internalize, core_internalize, h]

/-- Whether no operation tells two types apart: each makes the same of both, with same choices. -/
structure Indistinct (a b : Ty) : Prop where
  isReference : a.isReference = b.isReference
  isBindable : a.isBindable = b.isBindable
  substitute : ∀ {choices choices' : Choices}, choices.Same choices' →
    (a.substitute choices).same (b.substitute choices') = true
  instantiate : ∀ {chosen chosen' : List (Option Ty)}, sameOptions chosen chosen' = true →
    (a.instantiate chosen).same (b.instantiate chosen') = true
  internalize : ∀ (names : List String) (offset : Nat),
    (a.internalize names offset).same (b.internalize names offset) = true

theorem Indistinct.of_same (h : a.same b = true) :
  a.Indistinct b
  := by
  constructor
  case isReference => apply isReference_of_same h
  case isBindable => apply isBindable_of_same h
  case substitute =>
    intro _ _
    apply same_substitute h
  case instantiate =>
    intro _ _
    apply same_instantiate h
  case internalize => apply same_internalize h

end Ty

/-! ### Function types -/

namespace FunctionType

variable {function function' : FunctionType}

/-- The core of a function type with types chosen for some of its parameters is made of cores. -/
theorem core_rebindTypes (function : FunctionType) (chosen : List (Option Ty)) :
  (function.rebindTypes chosen).core = function.core.rebindTypes (chosen.map (Option.map Ty.core))
  := by
  unfold rebindTypes
  rw [isGround_core]
  split
  · rfl
  · simp [core, core_instantiate, unbound_entries_map, unbound_map]

/-- The core of a function type without the arguments that are bound is made of cores. -/
theorem core_rebindArgs (function : FunctionType) (bound : List (Option Ty)) :
  (function.rebindArgs bound).core = function.core.rebindArgs (bound.map (Option.map Ty.core))
  := by
  have hreference : (bound.map (Option.map Ty.core)).any (·.any Ty.isReference)
      = bound.any (·.any Ty.isReference) := by
    simp [Function.comp_def, Option.any_map]
  simp only [rebindArgs, core, hreference, unbound_map, unbound_entries_map]

/-- The cores of the argument types that can be bound are those of the core. -/
theorem core_bindableArgs (function : FunctionType) :
  function.bindableArgs.map (Option.map Ty.core) = function.core.bindableArgs
  := by
  unfold bindableArgs
  rw [isGround_core]
  split
  · simp [core, Function.comp_def]
  · simp [core, Function.comp_def, apply_ite]

theorem sameAll_args (h : function.toTy.same function'.toTy = true) :
  sameAll function.args function'.args = true
  := (same_toTy.mp h).2.2.1

theorem same_rebindTypes (h : function.toTy.same function'.toTy = true)
    {chosen chosen' : List (Option Ty)} (hchosen : sameOptions chosen chosen' = true) :
  (function.rebindTypes chosen).toTy.same (function'.rebindTypes chosen').toTy = true
  := by
  rw [FunctionType.same_iff] at h ⊢
  rw [core_rebindTypes, core_rebindTypes, h, sameOptions_iff.mp hchosen]

theorem same_rebindArgs (h : function.toTy.same function'.toTy = true)
    {bound bound' : List (Option Ty)} (hbound : sameOptions bound bound' = true) :
  (function.rebindArgs bound).toTy.same (function'.rebindArgs bound').toTy = true
  := by
  rw [FunctionType.same_iff] at h ⊢
  rw [core_rebindArgs, core_rebindArgs, h, sameOptions_iff.mp hbound]

theorem same_bindableArgs (h : function.toTy.same function'.toTy = true) :
  sameOptions function.bindableArgs function'.bindableArgs = true
  := by
  rw [FunctionType.same_iff] at h
  rw [sameOptions_iff, core_bindableArgs, core_bindableArgs, h]

/-- Whether no operation tells two function types apart: each makes the same of both, with same
choices. -/
structure Indistinct (function function' : FunctionType) : Prop where
  ground : ∀ {chosen chosen' : List Ty}, sameAll chosen chosen' = true →
    (function.ground chosen).toTy.same (function'.ground chosen').toTy = true
  rebindTypes : ∀ {chosen chosen' : List (Option Ty)}, sameOptions chosen chosen' = true →
    (function.rebindTypes chosen).toTy.same (function'.rebindTypes chosen').toTy = true
  rebindArgs : ∀ {bound bound' : List (Option Ty)}, sameOptions bound bound' = true →
    (function.rebindArgs bound).toTy.same (function'.rebindArgs bound').toTy = true
  bindableArgs : sameOptions function.bindableArgs function'.bindableArgs = true

theorem Indistinct.of_same (h : function.toTy.same function'.toTy = true) :
  function.Indistinct function'
  := by
  constructor
  case ground =>
    intro _ _
    apply same_ground h
  case rebindTypes =>
    intro _ _
    apply same_rebindTypes h
  case rebindArgs =>
    intro _ _
    apply same_rebindArgs h
  case bindableArgs => apply same_bindableArgs h

end FunctionType

/-! ### Inference -/

namespace Ty

variable {a b : Ty}

theorem any_mentions_core {types : List Ty} {index : Nat}
    (h : ∀ type ∈ types, type.core.mentions index = type.mentions index) :
  (types.map core).any (mentions index) = types.any (mentions index)
  := by
  induction types with
  | nil => rfl
  | cons type rest ih =>
    rw [List.forall_mem_cons] at h
    rw [List.map_cons, List.any_cons, List.any_cons, h.1, ih h.2]

@[simp]
theorem mentions_core (type : Ty) (index : Nat) :
  type.core.mentions index = type.mentions index
  := by
  induction type using type_induction generalizing index with
  | integer | natural | boolean | param | internal => rfl
  | list element ih | tryOf element ih => rw [core, mentions, mentions, ih]
  | function isReference typeParams args output ihArgs ihOutput =>
    simp only [core, mentions, anyMentions_eq_any, cores_eq_map, List.length_map, ihOutput]
    rw [any_mentions_core fun arg harg => ihArgs arg harg _]
  | named isReference entity written params ih =>
    simp only [core, mentions, anyMentions_eq_any, cores_eq_map]
    rw [any_mentions_core fun param hparam => ih param hparam _]

theorem mentions_of_same (h : a.same b = true) (index : Nat) :
  a.mentions index = b.mentions index
  := by
  rw [same_iff] at h
  rw [← mentions_core, h, mentions_core]

theorem sameOption_or {found found' other other' : Option Ty}
    (h : sameOption found found' = true) (hother : sameOption other other' = true) :
  sameOption (found.or other) (found'.or other') = true
  := by
  rw [sameOption_iff_rel] at h
  cases h with
  | some hsame => exact hsame
  | none => exact hother

end Ty

section Inference

variable {types : List Ty}

/-- Same types reveal the same of a parameter, where what stands in the second is what a choice
makes of the first. -/
theorem sameOption_reveal (htypes : ∀ type ∈ types, type.isBindable = true)
    {declared declared' actual actual' : Ty} (hdeclared : declared.same declared' = true)
    (hactual : actual.same actual' = true)
    (hclosed : declared.isClosedWithin types.length = true)
    (h : actual.same (declared.instantiate (types.map some)) = true) (index : Nat) :
  sameOption (reveal index declared actual) (reveal index declared' actual') = true
  := by
  have h' : actual'.same (declared'.instantiate (types.map some)) = true := by
    apply same_trans (same_symm hactual)
    apply same_trans h
    apply same_instantiate hdeclared (sameOptions_refl _)
  have hclosed' : declared'.isClosedWithin types.length = true := by
    rwa [← isClosedWithin_of_same hdeclared]
  -- either way it is the chosen type that is revealed
  have hfound := @related_reveal _ index _ congruence_same _ _ hclosed htypes h
  have hfound' := @related_reveal _ index _ congruence_same _ _ hclosed' htypes h'
  rw [← mentions_of_same hdeclared] at hfound'
  rw [sameOption_iff_rel]
  apply rel_comp hfound (rel_flip hfound')
  intro type chosen type' htype htype'
  apply same_trans htype (same_symm htype')

/-- Whether the values that are supplied have the types that a choice makes of declared types. -/
def Fits (types declared : List Ty) (supplied : List (Option Ty)) : Prop :=
  List.Forall₂ (fun type entry =>
    ∀ actual, entry = some actual → actual.same (type.instantiate (types.map some)) = true)
    declared supplied

/-- Where the values fit a choice, same types reveal the same of a parameter. -/
theorem sameOption_revealBySupplied (htypes : ∀ type ∈ types, type.isBindable = true)
    {declared declared' : List Ty} {supplied supplied' : List (Option Ty)}
    (hdeclared : sameAll declared declared' = true)
    (hsupplied : sameOptions supplied supplied' = true)
    (hclosed : ∀ type ∈ declared, type.isClosedWithin types.length = true)
    (hfits : Fits types declared supplied) (index : Nat) :
  sameOption (revealBySupplied index declared supplied)
    (revealBySupplied index declared' supplied') = true
  := by
  replace hdeclared := forall₂_of_sameAll hdeclared
  rw [sameOptions_iff_rel] at hsupplied
  induction hfits generalizing declared' supplied' with
  | nil =>
    cases hdeclared
    rfl
  | cons hfirst _ ih =>
    cases hdeclared with
    | cons hsame hrest =>
      cases hsupplied with
      | cons hentry hothers =>
        rw [List.forall_mem_cons] at hclosed
        rw [revealBySupplied_cons, revealBySupplied_cons]
        apply sameOption_or _ (ih hothers hclosed.2 hrest)
        cases hentry with
        | none => rfl
        | some hactual =>
          apply sameOption_reveal htypes hsame hactual hclosed.1 (hfirst _ rfl)

section Choose

variable {args args' : List Ty} {supplied supplied' : List (Option Ty)}
  {params params' : List TypeParam} {index : Nat}

theorem sameOptions_revealedFrom (hparams : params.length = params'.length)
    (h : ∀ index, sameOption (revealBySupplied index args supplied)
      (revealBySupplied index args' supplied') = true) :
  sameOptions (revealedFrom args supplied index params) (revealedFrom args' supplied' index params')
    = true
  := by
  induction params generalizing params' index with
  | nil =>
    obtain rfl := List.eq_nil_of_length_eq_zero hparams.symm
    rfl
  | cons param rest ih =>
    obtain ⟨param', rest', rfl⟩ := List.exists_cons_of_length_eq_add_one hparams.symm
    rw [revealedFrom_cons, revealedFrom_cons, sameOptions, h, ih (Nat.succ.inj hparams)]
    rfl

/-- Where the same is revealed, and the same is written, the same is chosen. -/
theorem chooseEach_of_same {written written' chosen : List (Option Ty)}
    (hrevealed : sameOptions (revealedFrom args supplied index params)
      (revealedFrom args' supplied' index params') = true)
    (hwritten : sameOptions written written' = true)
    (h : chooseEach args supplied index params written = .ok chosen) :
  ∃ chosen', chooseEach args' supplied' index params' written' = .ok chosen'
    ∧ sameOptions chosen chosen' = true
  := by
  obtain ⟨types, rfl, hcount, rfl⟩ := chooseEach_eq_ok_iff.mp h
  obtain ⟨types', rfl, htypes⟩ := sameOptions_map_some.mp (sameOptions_symm hwritten)
  rw [sameOptions_iff] at hrevealed
  have hcount' : types'.length = openCount (revealedFrom args' supplied' index params') := by
    rw [htypes.length_eq, hcount, ← openCount_map _ core, hrevealed, openCount_map]
  use (complete (revealedFrom args' supplied' index params') types').map some
  constructor
  · apply chooseEach_eq_ok_iff.mpr
    use types'
  · rw [sameOptions_some, sameAll_iff] at hwritten ⊢
    rw [complete_map, complete_map, hrevealed, hwritten]

end Choose

namespace FunctionType

variable {function function' : FunctionType}
  {written written' supplied supplied' : List (Option Ty)}

/-- The same types are found for same function types, from same types that are written and values
of same types, where these have the types that the choice makes. -/
theorem infers_of_same (h : function.toTy.same function'.toTy = true)
    (hwritten : sameOptions written written' = true)
    (hsupplied : sameOptions supplied supplied' = true)
    (hclosed : function.toTy.isBindable = true)
    (hwrittenClosed : ∀ type, some type ∈ written → type.isBindable = true)
    (hsuppliedClosed : ∀ type, some type ∈ supplied → type.isBindable = true)
    {chosen : List (Option Ty)} (hinfer : inferTypeArgs function written supplied = .ok chosen)
    (hfits : ∀ types, types.length = function.typeParams.length → chosen = types.map some →
      Fits types function.args supplied) :
  ∃ chosen', inferTypeArgs function' written' supplied' = .ok chosen'
    ∧ sameOptions chosen chosen' = true
  := by
  obtain ⟨hcount, hchosen⟩ := @formed_inferTypeArgs .all (fun _ => trivial) _ _ _ _
    (fun type htype => formed_all_iff.mpr (hwrittenClosed type htype))
    (fun type htype => formed_all_iff.mpr (hsuppliedClosed type htype)) hinfer
  have hparams := length_typeParams_of_same h
  have hlength : written.length = written'.length := by
    simpa using congrArg List.length (sameOptions_iff.mp hwritten)
  unfold inferTypeArgs at hinfer ⊢
  rw [← hparams, ← hlength]
  dsimp only at hinfer ⊢
  split at hinfer
  next hall =>
    cases hinfer
    rw [if_pos hall]
    use written'
  next hpart =>
    split at hinfer
    next => cases hinfer
    next hfew =>
      rw [if_neg hpart, if_neg hfew]
      obtain ⟨types, -, -, rfl⟩ := chooseEach_eq_ok_iff.mp hinfer
      rw [List.length_map] at hcount
      apply chooseEach_of_same _ hwritten hinfer
      apply sameOptions_revealedFrom hparams
      apply sameOption_revealBySupplied _ (sameAll_args h) hsupplied _ (hfits _ hcount rfl)
      · intro type htype
        apply formed_all_iff.mp (hchosen type (List.mem_map_of_mem htype))
      · rw [hcount]
        intro arg harg
        apply ((formed_toTy.mp (formed_all_iff.mpr hclosed)).1 arg harg).isClosedWithin

end FunctionType

end Inference

end TypedModules
