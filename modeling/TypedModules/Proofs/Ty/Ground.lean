import TypedModules.Proofs.Ty.Assign
import TypedModules.Proofs.Ty.Function

/-!
# Choosing types step by step

Types for the parameters of a function type may be chosen some first and the others later.
For a formed function type this comes to choosing all at once, and types may be assigned to
the named parameters before or after.  The second stage may leave parameters open as well, and
arguments may be bound before or after any stage, in stages of their own: `choose_in_stages`.
-/

namespace TypedModules

open Ty

/-- The choices with the open ones filled by later ones, in order. -/
def complete : List (Option Ty) → List Ty → List Ty
  | [], _ => []
  | some type :: chosen, later => type :: complete chosen later
  | none :: chosen, type :: later => type :: complete chosen later
  | none :: _, [] => []

section Complete

variable {scope : TyScope} {chosen : List (Option Ty)} {later : List Ty}

@[simp]
theorem openCount_none_cons (chosen : List (Option Ty)) :
  openCount (none :: chosen) = openCount chosen + 1
  := by
  simp [openCount]

@[simp]
theorem openCount_some_cons (type : Ty) (chosen : List (Option Ty)) :
  openCount (some type :: chosen) = openCount chosen
  := by
  simp [openCount]

theorem length_complete (h : later.length = openCount chosen) :
  (complete chosen later).length = chosen.length
  := by
  induction chosen, later using complete.induct with
  | case1 later => rfl
  | case2 type chosen later ih => simpa [complete] using ih (by simpa using h)
  | case3 chosen type later ih => simpa [complete] using ih (by simpa using h)
  | case4 chosen => simp at h

theorem formed_complete (hchosen : ∀ c, some c ∈ chosen → c.Formed scope 0)
    (hlater : ∀ c ∈ later, c.Formed scope 0) :
  ∀ c ∈ complete chosen later, c.Formed scope 0
  := by
  induction chosen, later using complete.induct with
  | case1 later => simp [complete]
  | case2 first chosen later ih =>
    rw [complete, List.forall_mem_cons]
    exact ⟨hchosen first List.mem_cons_self,
      ih (fun c hc => hchosen c (List.mem_cons_of_mem _ hc)) hlater⟩
  | case3 chosen first later ih =>
    rw [List.forall_mem_cons] at hlater
    rw [complete, List.forall_mem_cons]
    exact ⟨hlater.1, ih (fun c hc => hchosen c (List.mem_cons_of_mem _ hc)) hlater.2⟩
  | case4 chosen => simp [complete]

end Complete

/-! ### Choices in stages -/

/-- The entries with the open ones taken from later ones, in order, which may leave them open
again. -/
def combine {α : Type} : List (Option α) → List (Option α) → List (Option α)
  | [], later => later
  | some a :: entries, later => some a :: combine entries later
  | none :: entries, entry :: later => entry :: combine entries later
  | none :: entries, [] => none :: entries

section Combine

variable {α β : Type}

@[simp]
theorem combine_nil (entries : List (Option α)) :
  combine entries [] = entries
  := by
  induction entries with
  | nil => rfl
  | cons entry entries ih =>
    cases entry with
    | none => rfl
    | some a => rw [combine, ih]

/-- What is left after two stages is what the second leaves of what the first does. -/
theorem FunctionType.unbound_combine (entries later : List (Option α)) (items : List β) :
  unbound (combine entries later) items = unbound later (unbound entries items)
  := by
  induction items generalizing entries later with
  | nil => simp
  | cons item items ih =>
    match entries, later with
    | [], later => simp [combine]
    | some a :: entries, later => simp [combine, ih]
    | none :: entries, [] => simp
    | none :: entries, some a :: later => simp [combine, ih]
    | none :: entries, none :: later => simp [combine, ih]

theorem any_combine (entries later : List (Option α)) (p : α → Bool) :
  (combine entries later).any (·.any p) = (entries.any (·.any p) || later.any (·.any p))
  := by
  induction entries, later using combine.induct with
  | case1 later => simp [combine]
  | case2 a entries later ih => simp [combine, ih, Bool.or_assoc]
  | case3 entries entry later ih => simp [combine, ih, Bool.or_left_comm]
  | case4 entries => simp

variable {scope : TyScope} {chosen later : List (Option Ty)}

theorem length_combine (h : later.length = openCount chosen) :
  (combine chosen later).length = chosen.length
  := by
  induction chosen, later using combine.induct with
  | case1 later => exact h
  | case2 type chosen later ih => simpa [combine] using ih (by simpa using h)
  | case3 chosen choice later ih => simpa [combine] using ih (by simpa using h)
  | case4 chosen => simp at h

/-- What was chosen first stays chosen. -/
theorem getElem?_combine_some {index : Nat} {type : Ty}
    (hget : chosen[index]? = some (some type)) :
  (combine chosen later)[index]? = some (some type)
  := by
  induction chosen, later using combine.induct generalizing index with
  | case1 later => simp at hget
  | case2 first chosen later ih =>
    cases index with
    | zero => exact hget
    | succ index => exact ih hget
  | case3 chosen first later ih =>
    cases index with
    | zero => simp at hget
    | succ index => exact ih hget
  | case4 chosen => exact hget

/-- An open parameter gets the later choice at its number among the open ones. -/
theorem getElem?_combine_none (h : later.length = openCount chosen) {index : Nat}
    (hget : chosen[index]? = some none) :
  (combine chosen later)[index]? = later[openCount (chosen.take index)]?
  := by
  induction chosen, later using combine.induct generalizing index with
  | case1 later => simp at hget
  | case2 first chosen later ih =>
    cases index with
    | zero => simp at hget
    | succ index => simpa [combine] using ih (by simpa using h) hget
  | case3 chosen first later ih =>
    cases index with
    | zero => simp [combine, openCount]
    | succ index => simpa [combine] using ih (by simpa using h) hget
  | case4 chosen => simp at h

/-- Up to a parameter as many stay open as are left open by the later choices up to its number. -/
theorem openCount_take_combine (h : later.length = openCount chosen) {index : Nat}
    (hindex : index ≤ chosen.length) :
  openCount ((combine chosen later).take index)
    = openCount (later.take (openCount (chosen.take index)))
  := by
  induction chosen, later using combine.induct generalizing index with
  | case1 later =>
    obtain rfl : index = 0 := Nat.le_zero.mp hindex
    rfl
  | case2 first chosen later ih =>
    cases index with
    | zero => rfl
    | succ index => simpa [combine] using ih (by simpa using h) (by simpa using hindex)
  | case3 chosen first later ih =>
    cases index with
    | zero => rfl
    | succ index =>
      have ih := ih (by simpa using h) (by simpa using hindex)
      cases first <;> simpa [combine] using ih
  | case4 chosen => simp at h

theorem map_some_complete {later : List Ty} (h : later.length = openCount chosen) :
  (complete chosen later).map some = combine chosen (later.map some)
  := by
  induction chosen, later using complete.induct with
  | case1 later =>
    obtain rfl : later = [] := List.eq_nil_of_length_eq_zero h
    rfl
  | case2 type chosen later ih => simp [complete, combine, ih (by simpa using h)]
  | case3 chosen type later ih => simp [complete, combine, ih (by simpa using h)]
  | case4 chosen => simp at h

theorem instantiateIndex_combine (h : later.length = openCount chosen)
    (hchosen : ∀ c, some c ∈ chosen → c.Formed scope 0) {offset index : Nat}
    (hindex : index < offset + chosen.length) :
  (instantiateIndex (List.replicate offset none ++ chosen) index).instantiate
      (List.replicate offset none ++ later)
    = instantiateIndex (List.replicate offset none ++ combine chosen later) index
  := by
  obtain hlt | ⟨i, rfl⟩ : index < offset ∨ ∃ i, index = offset + i := by
    obtain hlt | hle := Nat.lt_or_ge index offset
    · exact .inl hlt
    · exact .inr ⟨index - offset, by omega⟩
  · -- a parameter of a function type around the index
    have hformed : (Ty.internal index).Formed scope offset := hlt
    have hsame := fun rest => instantiate_of_formed hformed rest
    simp only [Ty.instantiate] at hsame
    rw [hsame, hsame]
    exact hsame _
  · have hi : i < chosen.length := by omega
    have hget : ∀ (rest : List (Option Ty)) (j : Nat),
        (List.replicate offset none ++ rest)[offset + j]? = rest[j]? := by
      intro rest j
      rw [List.getElem?_append_right (by simp), List.length_replicate, Nat.add_sub_cancel_left]
    have hopen : ∀ (rest : List (Option Ty)) (j : Nat),
        openCount ((List.replicate offset none ++ rest).take (offset + j))
          = offset + openCount (rest.take j) := by
      intro rest j
      rw [List.take_append, List.length_replicate, Nat.add_sub_cancel_left,
        List.take_of_length_le (by simp), openCount_append]
      simp [openCount, List.countP_replicate]
    rw [instantiateIndex, instantiateIndex, hget, hget, hopen, hopen]
    rcases hc : chosen[i]? with _ | _ | c
    · exact absurd hi (by simpa using hc)
    · obtain ⟨choice, hlater⟩ : ∃ choice, later[openCount (chosen.take i)]? = some choice :=
        ⟨_, List.getElem?_eq_getElem (h ▸ openCount_take_lt hc)⟩
      rw [getElem?_combine_none h hc, hlater, openCount_take_combine h (Nat.le_of_lt hi)]
      cases choice <;> simp only [Ty.instantiate, instantiateIndex, hget, hopen, hlater]
    · rw [getElem?_combine_some hc]
      exact (hchosen c (List.mem_of_getElem? hc)).instantiate_eq _

/-- Choosing types for some of the parameters that a first choice leaves open comes to choosing
with both at once. -/
theorem instantiate_combine (h : later.length = openCount chosen)
    (hchosen : ∀ c, some c ∈ chosen → c.Formed scope 0) {type : Ty} {offset : Nat}
    (htype : type.Formed scope (offset + chosen.length)) :
  (type.instantiate (List.replicate offset none ++ chosen)).instantiate
      (List.replicate offset none ++ later)
    = type.instantiate (List.replicate offset none ++ combine chosen later)
  := by
  induction type using type_induction generalizing offset with
  | integer | natural | boolean | param => rfl
  | list element ih | tryOf element ih =>
    simp only [Formed] at htype
    simp only [Ty.instantiate, ih htype]
  | function isReference typeParams args output ihArgs ihOutput =>
    simp only [Formed, areFormed_iff, Nat.add_right_comm offset] at htype
    simp only [Ty.instantiate, instantiateAll_eq_map, map_none_append_replicate,
      ihOutput htype.2, List.map_map, Function.comp_def]
    rw [List.map_congr_left fun arg harg => ihArgs arg harg (htype.1 arg harg)]
  | named isReference entity written params ih =>
    simp only [Formed, areFormed_iff] at htype
    simp only [Ty.instantiate, instantiateAll_eq_map, List.map_map, Function.comp_def]
    rw [List.map_congr_left fun param hparam => ih param hparam (htype.2 param hparam)]
  | internal index => exact instantiateIndex_combine h hchosen htype

/-- Choosing types for all the parameters that a first choice leaves open comes to choosing all at
once. -/
theorem instantiate_complete {later : List Ty} (h : later.length = openCount chosen)
    (hchosen : ∀ c, some c ∈ chosen → c.Formed scope 0) {type : Ty} {offset : Nat}
    (htype : type.Formed scope (offset + chosen.length)) :
  (type.instantiate (List.replicate offset none ++ chosen)).instantiate
      (List.replicate offset none ++ later.map some)
    = type.instantiate (List.replicate offset none ++ (complete chosen later).map some)
  := by
  rw [map_some_complete h]
  exact instantiate_combine (by simpa using h) hchosen htype

end Combine

namespace FunctionType

/-- The function type with every named parameter replaced. -/
def assign (σ : Assignment) (function : FunctionType) : FunctionType :=
  ⟨function.isReference, function.typeParams, function.args.map (Ty.assign σ),
    function.output.assign σ⟩

@[simp]
theorem assign_toTy (function : FunctionType) (σ : Assignment) :
  function.toTy.assign σ = (function.assign σ).toTy
  := by
  simp [toTy, assign, Ty.assign]

section Formed

variable {scope scope' : TyScope} {function : FunctionType}

/-- Choices make nothing else of a formed function type without parameters. -/
theorem instantiate_ground (h : function.toTy.Formed scope 0) (hground : function.isGround = true)
    (chosen : List (Option Ty)) :
  function = ⟨function.isReference, [], function.args.map (Ty.instantiate chosen),
    function.output.instantiate chosen⟩
  := by
  have hparams := List.length_eq_zero_iff.mp (isGround_iff.mp hground)
  rw [formed_toTy, hparams] at h
  obtain ⟨isReference, typeParams, args, output⟩ := function
  simp only [FunctionType.mk.injEq, true_and] at hparams h ⊢
  refine ⟨hparams, ?_, (h.2.instantiate_eq _).symm⟩
  rw [List.map_congr_left fun arg harg => (h.1 arg harg).instantiate_eq _, List.map_id']

/-- For a formed function type, it makes no difference that one without parameters is not
touched. -/
theorem ground_eq (h : function.toTy.Formed scope 0) (chosen : List Ty) :
  function.ground chosen = ⟨function.isReference, [],
    function.args.map (Ty.instantiate (chosen.map some)),
    function.output.instantiate (chosen.map some)⟩
  := by
  unfold ground
  split
  next hground => exact instantiate_ground h hground _
  next => rfl

theorem rebindTypes_eq (h : function.toTy.Formed scope 0) (chosen : List (Option Ty)) :
  function.rebindTypes chosen = ⟨function.isReference, unbound chosen function.typeParams,
    function.args.map (Ty.instantiate chosen), function.output.instantiate chosen⟩
  := by
  unfold rebindTypes
  split
  next hground =>
    rw [List.length_eq_zero_iff.mp (isGround_iff.mp hground), unbound_nil_items]
    exact instantiate_ground h hground chosen
  next => rfl

variable {σ : Assignment} (hσ : σ.Formed scope')

include hσ

theorem formed_assign (h : function.toTy.Formed scope 0)
    (harity : ∀ entity n, scope.arity entity n → scope'.arity entity n) :
  (function.assign σ).toTy.Formed scope' 0
  := assign_toTy function σ ▸ h.assign harity hσ

/-- Types may be assigned before or after types are chosen. -/
theorem assign_ground (h : function.toTy.Formed scope 0)
    (harity : ∀ entity n, scope.arity entity n → scope'.arity entity n) (chosen : List Ty) :
  (function.ground chosen).assign σ = (function.assign σ).ground (chosen.map (Ty.assign σ))
  := by
  rw [ground_eq h, ground_eq (formed_assign hσ h harity)]
  simp [assign, assign_instantiate _ _ hσ, Function.comp_def]

/-- What a binding leaves of a function type, with types chosen for what is still open, is
what the function type leaves with all types chosen at once. -/
theorem ground_rebind (h : function.toTy.Formed scope 0)
    (harity : ∀ entity n, scope.arity entity n → scope'.arity entity n)
    {chosen : List (Option Ty)} (hlength : chosen.length = function.typeParams.length)
    (hchosen : ∀ c, some c ∈ chosen → c.Formed scope 0) (bound : List (Option Ty))
    {later : List Ty} (hlater : later.length = openCount chosen) :
  (((function.rebindTypes chosen).rebindArgs bound).assign σ).ground later
    = ⟨function.isReference || bound.any (·.any Ty.isReference), [],
        unbound bound ((function.assign σ).ground
          (complete (chosen.map (·.map (Ty.assign σ))) later)).args,
        ((function.assign σ).ground (complete (chosen.map (·.map (Ty.assign σ))) later)).output⟩
  := by
  have hassigned := formed_assign hσ h harity
  have hopen : later.length = openCount (chosen.map (·.map (Ty.assign σ))) := by
    rwa [openCount_map]
  have hformed : ∀ c, some c ∈ chosen.map (·.map (Ty.assign σ)) → c.Formed scope' 0 := by
    intro c hc
    simp only [List.mem_map, Option.map_eq_some_iff] at hc
    obtain ⟨_, hmem, a, rfl, rfl⟩ := hc
    exact (hchosen a hmem).assign harity hσ
  have hbound : ((function.rebindTypes chosen).rebindArgs bound).toTy.Formed scope 0 :=
    formed_rebindArgs (formed_rebindTypes h hlength hchosen)
  have hrebound := formed_assign hσ hbound harity
  rw [ground_eq hrebound, ground_eq hassigned, rebindTypes_eq h]
  rw [formed_toTy] at hassigned
  have key : ∀ type : Ty, (type.assign σ).Formed scope' function.typeParams.length →
      ((type.instantiate chosen).assign σ).instantiate (later.map some)
        = (type.assign σ).instantiate
          ((complete (chosen.map (·.map (Ty.assign σ))) later).map some) := by
    intro type htype
    rw [assign_instantiate _ _ hσ]
    exact @instantiate_complete _ _ _ hopen hformed _ 0 (by simpa [hlength] using htype)
  simp only [rebindArgs, assign, FunctionType.mk.injEq, true_and]
  rw [key _ hassigned.2, ← unbound_map, ← unbound_map, List.map_map, List.map_map, List.map_map]
  refine ⟨?_, rfl⟩
  congr 1
  apply List.map_congr_left
  intro type htype
  exact key type (hassigned.1 _ (List.mem_map_of_mem htype))

end Formed

/-! ### Stages -/

section Stages

variable {scope : TyScope} {function : FunctionType}

/-- To choose all types is to choose some of them, where none is left open. -/
theorem ground_eq_rebindTypes {types : List Ty}
    (h : types.length = function.typeParams.length) :
  function.ground types = function.rebindTypes (types.map some)
  := by
  unfold ground rebindTypes
  split
  · rfl
  · rw [unbound_map_some types h]

/-- Types that are chosen in two stages may be chosen at once. -/
theorem rebindTypes_rebindTypes (h : function.toTy.Formed scope 0) {chosen : List (Option Ty)}
    (hlength : chosen.length = function.typeParams.length)
    (hchosen : ∀ c, some c ∈ chosen → c.Formed scope 0) {later : List (Option Ty)}
    (hlater : later.length = openCount chosen) :
  (function.rebindTypes chosen).rebindTypes later = function.rebindTypes (combine chosen later)
  := by
  have key : ∀ type : Ty, type.Formed scope function.typeParams.length →
      (type.instantiate chosen).instantiate later
        = type.instantiate (combine chosen later) := by
    intro type htype
    exact @instantiate_combine _ _ _ hlater hchosen _ 0 (by simpa [hlength] using htype)
  rw [rebindTypes_eq (formed_rebindTypes h hlength hchosen), rebindTypes_eq h, rebindTypes_eq h]
  rw [formed_toTy] at h
  simp only [key _ h.2, unbound_combine, List.map_map, Function.comp_def]
  rw [List.map_congr_left fun arg harg => key arg (h.1 arg harg)]

theorem rebindTypes_rebindArgs (function : FunctionType) (chosen bound : List (Option Ty)) :
  (function.rebindArgs bound).rebindTypes chosen = (function.rebindTypes chosen).rebindArgs bound
  := by
  have hground : (function.rebindArgs bound).isGround = function.isGround := rfl
  unfold rebindTypes
  rw [hground]
  cases function.isGround with
  | true => rfl
  | false => simp [rebindArgs, unbound_map]

theorem ground_rebindArgs (function : FunctionType) (types : List Ty)
    (bound : List (Option Ty)) :
  (function.rebindArgs bound).ground types = (function.ground types).rebindArgs bound
  := by
  have hground : (function.rebindArgs bound).isGround = function.isGround := rfl
  unfold ground
  rw [hground]
  cases function.isGround with
  | true => rfl
  | false => simp [rebindArgs, unbound_map]

/-- Arguments that are bound in two stages may be bound at once. -/
theorem rebindArgs_rebindArgs (function : FunctionType) (bound more : List (Option Ty)) :
  (function.rebindArgs bound).rebindArgs more = function.rebindArgs (combine bound more)
  := by
  simp [rebindArgs, unbound_combine, any_combine, Bool.or_assoc]

/-- Types may be chosen for some parameters of a closed function type first and for others, or for
all others, later: it comes to choosing them at once.  It does not matter either whether arguments
are bound before or after; these may be bound in two stages as well, and the function type is a
reference as soon as something bound in one of the stages is one. -/
theorem choose_in_stages {chosen : List (Option Ty)}
    (hclosed : function.toTy.isClosedWithin 0 = true)
    (hlength : chosen.length = function.typeParams.length)
    (hchosen : ∀ c, some c ∈ chosen → c.isClosedWithin 0 = true) :
  (∀ later : List Ty, later.length = openCount chosen →
      (function.rebindTypes chosen).ground later = function.ground (complete chosen later))
    ∧ (∀ later : List (Option Ty), later.length = openCount chosen →
      (function.rebindTypes chosen).rebindTypes later
        = function.rebindTypes (combine chosen later))
    ∧ ∀ bound : List (Option Ty),
      (function.rebindArgs bound).rebindTypes chosen
          = (function.rebindTypes chosen).rebindArgs bound
        ∧ (∀ types : List Ty,
          (function.rebindArgs bound).ground types = (function.ground types).rebindArgs bound)
        ∧ ∀ more : List (Option Ty),
          (function.rebindArgs bound).rebindArgs more = function.rebindArgs (combine bound more)
            ∧ ((function.rebindArgs bound).rebindArgs more).isReference
              = (function.isReference || bound.any (·.any Ty.isReference)
                || more.any (·.any Ty.isReference))
  := by
  have hformed : function.toTy.Formed .all 0 := formed_all_iff.mpr hclosed
  have hformedChosen : ∀ c, some c ∈ chosen → c.Formed .all 0 := fun c hc =>
    formed_all_iff.mpr (hchosen c hc)
  have hstages : ∀ later : List (Option Ty), later.length = openCount chosen →
      (function.rebindTypes chosen).rebindTypes later
        = function.rebindTypes (combine chosen later) := fun later hlater =>
    rebindTypes_rebindTypes hformed hlength hformedChosen hlater
  refine ⟨fun later hlater => ?_, hstages, fun bound => ⟨rebindTypes_rebindArgs _ _ _,
    fun types => ground_rebindArgs _ _ _, fun more => ⟨rebindArgs_rebindArgs _ _ _, rfl⟩⟩⟩
  have hopen : later.length = (function.rebindTypes chosen).typeParams.length := by
    rw [rebindTypes_eq hformed, length_unbound hlength, hlater]
    rfl
  calc (function.rebindTypes chosen).ground later
      = (function.rebindTypes chosen).rebindTypes (later.map some) := ground_eq_rebindTypes hopen
    _ = function.rebindTypes (combine chosen (later.map some)) :=
      hstages _ (by simpa using hlater)
    _ = function.rebindTypes ((complete chosen later).map some) := by
      rw [map_some_complete hlater]
    _ = function.ground (complete chosen later) :=
      (ground_eq_rebindTypes ((length_complete hlater).trans hlength)).symm

/-- The type `<S, T, U, V>(S, <W>(W, T, U) -> V, U) -> T`. -/
def weaveType : FunctionType where
  isReference := false
  typeParams := [⟨"S", none⟩, ⟨"T", none⟩, ⟨"U", none⟩, ⟨"V", none⟩]
  args := [.internal 0,
    .function false [⟨"W", none⟩] [.internal 0, .internal 2, .internal 3] (.internal 4),
    .internal 2]
  output := .internal 1

/-- After `T` has been chosen, `S` and `V` are the first and the third of those that are open; a
reference that is bound first makes a reference of what is left after both stages. -/
theorem choose_in_stages_weave :
  weaveType.toTy.isClosedWithin 0 = true
    ∧ (weaveType.rebindTypes [none, some .integer, none, none]).ground
        [.natural, .list .integer, .boolean]
      = weaveType.ground [.natural, .integer, .list .integer, .boolean]
    ∧ (weaveType.rebindTypes [none, some .integer, none, none]).rebindTypes
        [some .natural, none, some .boolean]
      = weaveType.rebindTypes [some .natural, some .integer, none, some .boolean]
    ∧ ((weaveType.rebindArgs [none, some (.function true [] [] .integer), none]).rebindArgs
        [some .natural, none]).isReference = true
  := by
  have hclosed : weaveType.toTy.isClosedWithin 0 = true := by decide
  have hchosen : ∀ c, some c ∈ [none, some Ty.integer, none, none] →
      c.isClosedWithin 0 = true := by
    intro c hc
    obtain rfl : c = .integer := by simpa using hc
    rfl
  obtain ⟨hground, hrebind, hargs⟩ := choose_in_stages hclosed rfl hchosen
  exact ⟨hclosed, hground _ rfl, hrebind _ rfl, ((hargs _).2.2 _).2⟩

end Stages

end FunctionType
end TypedModules
