import TypedModules.Check.Inference
import TypedModules.Proofs.Lists
import TypedModules.Proofs.Ty.Formed

/-!
# Formed function types

What remains of a formed function type is formed: when types are chosen for all of its
parameters, when they are chosen for some of them, and when arguments are bound.  The types
that a supplied value reveals are formed as well.
-/

namespace TypedModules

open Ty

namespace FunctionType

/-! ### What is not bound -/

section Unbound

variable {α β : Type}

@[simp]
theorem unbound_nil_items (entries : List (Option α)) :
  unbound entries ([] : List β) = []
  := rfl

@[simp]
theorem unbound_nil (items : List β) :
  unbound ([] : List (Option α)) items = items
  := by
  have h : ∀ position, isBound ([] : List (Option α)) position = false := fun _ => rfl
  simp [unbound, h]

theorem unbound_shift (entry : Option α) (entries : List (Option α)) (items : List β) :
  ((items.zipIdx 1).filter fun item => !isBound (entry :: entries) item.2).map (·.1)
    = unbound entries items
  := by
  have h : ∀ position, isBound (entry :: entries) (position + 1) = isBound entries position :=
    fun _ => rfl
  rw [List.zipIdx_succ, List.filter_map, List.map_map]
  simp [unbound, Function.comp_def, h]

@[simp]
theorem unbound_none (entries : List (Option α)) (item : β) (items : List β) :
  unbound (none :: entries) (item :: items) = item :: unbound entries items
  := by
  rw [← unbound_shift none entries items]
  simp [unbound, List.zipIdx_cons, isBound]

@[simp]
theorem unbound_some (a : α) (entries : List (Option α)) (item : β) (items : List β) :
  unbound (some a :: entries) (item :: items) = unbound entries items
  := by
  rw [← unbound_shift (some a) entries items]
  simp [unbound, List.zipIdx_cons, isBound]

theorem unbound_sublist (entries : List (Option α)) (items : List β) :
  (unbound entries items).Sublist items
  := by
  induction items generalizing entries with
  | nil => simp
  | cons item items ih =>
    match entries with
    | [] => simp
    | none :: entries => simpa using (ih entries)
    | some a :: entries => simpa using (ih entries).cons item

theorem mem_of_mem_unbound {entries : List (Option α)} {items : List β} {item : β}
    (h : item ∈ unbound entries items) :
  item ∈ items
  := (unbound_sublist entries items).mem h

theorem unbound_map {γ : Type} (entries : List (Option α)) (items : List β) (f : β → γ) :
  unbound entries (items.map f) = (unbound entries items).map f
  := by
  induction items generalizing entries with
  | nil => simp
  | cons item items ih =>
    match entries with
    | [] => simp
    | none :: entries => simpa using (ih entries)
    | some a :: entries => simpa using (ih entries)

/-- What is bound at a position does not matter. -/
theorem unbound_entries_map {γ : Type} (entries : List (Option α)) (f : α → γ) (items : List β) :
  unbound (entries.map (Option.map f)) items = unbound entries items
  := by
  have h : ∀ position, isBound (entries.map (Option.map f)) position = isBound entries position := by
    intro position
    simp only [isBound, List.getElem?_map]
    rcases entries[position]? with _ | _ | _ <;> rfl
  simp only [unbound, h]

/-- As many items are not bound as there are open entries. -/
theorem length_unbound {entries : List (Option α)} {items : List β}
    (h : entries.length = items.length) :
  (unbound entries items).length = entries.countP (·.isNone)
  := by
  induction items generalizing entries with
  | nil => simp [List.eq_nil_of_length_eq_zero h]
  | cons item items ih =>
    match entries with
    | none :: entries => simpa using ih (by simpa using h)
    | some a :: entries => simpa using ih (by simpa using h)

/-- Where all entries are open, nothing is bound. -/
theorem unbound_replicate (items : List β) :
  unbound (List.replicate items.length (none : Option α)) items = items
  := by
  induction items with
  | nil => rfl
  | cons item items ih => rw [List.length_cons, List.replicate_succ, unbound_none, ih]

@[simp]
theorem unbound_map_some (as : List α) {items : List β} (h : as.length = items.length) :
  unbound (as.map some) items = []
  := by
  rw [← List.length_eq_zero_iff, length_unbound (by simpa using h)]
  simp

end Unbound

/-! ### Formed function types -/

variable {scope : TyScope} {function : FunctionType}

/-- Grounding keeps the number of arguments. -/
@[simp]
theorem length_args_ground (function : FunctionType) (chosen : List Ty) :
  (function.ground chosen).args.length = function.args.length
  := by
  unfold ground
  split <;> simp

/-- Choosing types keeps the number of arguments. -/
@[simp]
theorem length_args_rebindTypes (function : FunctionType) (chosen : List (Option Ty)) :
  (function.rebindTypes chosen).args.length = function.args.length
  := by
  unfold rebindTypes
  split <;> simp

@[simp]
theorem length_args_ofSignature (typeParams : List TypeParam) (args : List Ty) (output : Ty) :
  (ofSignature typeParams args output).args.length = args.length
  := by
  simp [ofSignature]

theorem formed_toTy :
  function.toTy.Formed scope 0
    ↔ (∀ arg ∈ function.args, arg.Formed scope function.typeParams.length)
      ∧ function.output.Formed scope function.typeParams.length
  := by
  simp [FunctionType.toTy, Ty.Formed]

theorem isGround_iff :
  function.isGround = true ↔ function.typeParams.length = 0
  := by
  simp [isGround]

/-- With a type chosen for every parameter, no internal parameter is left. -/
theorem formed_ground {chosen : List Ty} (h : function.toTy.Formed scope 0)
    (hlength : chosen.length = function.typeParams.length)
    (hchosen : ∀ c ∈ chosen, c.Formed scope 0) :
  (∀ arg ∈ (function.ground chosen).args, arg.Formed scope 0)
    ∧ (function.ground chosen).output.Formed scope 0
  := by
  rw [formed_toTy] at h
  unfold ground
  split
  next hground =>
    rwa [isGround_iff.mp hground] at h
  next =>
    have key : ∀ type : Ty, type.Formed scope function.typeParams.length →
        (type.instantiate (chosen.map some)).Formed scope 0 := by
      intro type htype
      have hsome : ∀ c, some c ∈ chosen.map some → c.Formed scope 0 := by simpa using hchosen
      simpa [hlength] using htype.instantiate hsome (by simp [hlength])
    exact ⟨by simpa using fun arg harg => key arg (h.1 arg harg), key _ h.2⟩

theorem formed_groundByName (h : function.toTy.Formed scope 0)
    (hallows : ∀ p, scope.allows p) :
  (∀ arg ∈ function.groundByName.args, arg.Formed scope 0)
    ∧ function.groundByName.output.Formed scope 0
  := by
  apply formed_ground h
  · simp
  · simpa [Ty.Formed] using fun p _ => hallows p

theorem formed_rebindTypes {chosen : List (Option Ty)} (h : function.toTy.Formed scope 0)
    (hlength : chosen.length = function.typeParams.length)
    (hchosen : ∀ c, some c ∈ chosen → c.Formed scope 0) :
  (function.rebindTypes chosen).toTy.Formed scope 0
  := by
  unfold rebindTypes
  split
  · exact h
  next =>
    rw [formed_toTy] at h ⊢
    have key : ∀ type : Ty, type.Formed scope function.typeParams.length →
        (type.instantiate chosen).Formed scope (openCount chosen) := by
      intro type htype
      simpa [hlength] using htype.instantiate hchosen (by omega)
    simp only [length_unbound hlength, List.forall_mem_map]
    exact ⟨fun arg harg => key arg (h.1 arg harg), key _ h.2⟩

theorem formed_rebindArgs {bound : List (Option Ty)} (h : function.toTy.Formed scope 0) :
  (function.rebindArgs bound).toTy.Formed scope 0
  := by
  rw [formed_toTy] at h ⊢
  exact ⟨fun arg harg => h.1 arg (mem_of_mem_unbound harg), h.2⟩

/-- The function type of a signature leaves nothing open if its types are formed where its
type parameters are in scope. -/
theorem formed_ofSignature {scope' : TyScope} {typeParams : List TypeParam} {args : List Ty}
    {output : Ty} (hargs : ∀ arg ∈ args, arg.Formed scope 0) (houtput : output.Formed scope 0)
    (harity : ∀ entity n, scope.arity entity n → scope'.arity entity n)
    (hallows : ∀ p, scope.allows p → p.name ∈ typeParams.map (·.name) ∨ scope'.allows p) :
  (ofSignature typeParams args output).toTy.Formed scope' 0
  := by
  rw [formed_toTy]
  have key : ∀ type : Ty, type.Formed scope 0 →
      (type.internalize (typeParams.map (·.name)) 0).Formed scope' typeParams.length := by
    intro type htype
    simpa using htype.internalize harity hallows
  exact ⟨by simpa [ofSignature] using fun arg harg => key arg (hargs arg harg), key _ houtput⟩

end FunctionType

/-! ### Revealed types -/

section Reveal

variable {scope : TyScope}

mutual

/-- What a formed type reveals is formed. -/
theorem formed_reveal (hallows : ∀ p, scope.allows p) :
    (index : Nat) → (declared actual : Ty) → {type : Ty} → actual.Formed scope 0 →
      reveal index declared actual = some type → type.Formed scope 0
  | index, .internal i, actual, type, hformed, h => by
    simp only [reveal] at h
    split at h
    · cases h
      exact hformed
    · cases h
  | index, .list declared, actual, type, hformed, h => by
    cases actual <;> simp only [reveal, reduceCtorEq] at h
    simp only [Formed] at hformed
    exact formed_reveal hallows index declared _ hformed h
  | index, .tryOf declared, actual, type, hformed, h => by
    cases actual <;> simp only [reveal, reduceCtorEq] at h
    simp only [Formed] at hformed
    exact formed_reveal hallows index declared _ hformed h
  | index, .named _ _ _ declared, actual, type, hformed, h => by
    cases actual <;> simp only [reveal, reduceCtorEq] at h
    split at h
    · simp only [Formed, areFormed_iff] at hformed
      exact formed_revealAny hallows index declared _ hformed.2 h
    · cases h
  | index, .function _ typeParams args output, actual, type, hformed, h => by
    cases actual <;> simp only [reveal, reduceCtorEq] at h
    next isReference₂ typeParams₂ args₂ output₂ =>
      have hactual : (FunctionType.mk isReference₂ typeParams₂ args₂ output₂).toTy.Formed scope 0 :=
        hformed
      obtain ⟨hargs, houtput⟩ := FunctionType.formed_groundByName hactual hallows
      split at h
      next hany =>
        cases h
        exact formed_revealAny hallows _ args _ hargs hany
      next => exact formed_reveal hallows _ output _ houtput h
  | _, .integer, _, _, _, h => by cases h
  | _, .natural, _, _, _, h => by cases h
  | _, .boolean, _, _, _, h => by cases h
  | _, .param _, _, _, _, h => by cases h

/-- What formed types reveal is formed. -/
theorem formed_revealAny (hallows : ∀ p, scope.allows p) :
    (index : Nat) → (declared actual : List Ty) → {type : Ty} →
      (∀ a ∈ actual, a.Formed scope 0) → revealAny index declared actual = some type →
        type.Formed scope 0
  | index, first :: rest, actual, type, hformed, h => by
    cases actual <;> simp only [revealAny, reduceCtorEq] at h
    rw [List.forall_mem_cons] at hformed
    split at h
    next hfirst =>
      cases h
      exact formed_reveal hallows index first _ hformed.1 hfirst
    next => exact formed_revealAny hallows index rest _ hformed.2 h
  | _, [], _, _, _, h => by cases h

end

/-- What the supplied values reveal of a parameter, one of them reveals where it is supplied. -/
theorem exists_revealing {index : Nat} {declared : List Ty} {supplied : List (Option Ty)}
    {type : Ty} (h : revealBySupplied index declared supplied = some type) :
  ∃ slot value, (some value, slot) ∈ supplied.zip declared ∧ reveal index slot value = some type
  := by
  induction declared generalizing supplied with
  | nil => cases h
  | cons first rest ih =>
    cases supplied <;> simp only [revealBySupplied, reduceCtorEq] at h
    next actual others =>
      split at h
      next hfirst =>
        cases h
        obtain ⟨value, rfl, hvalue⟩ := Option.bind_eq_some_iff.mp hfirst
        exact ⟨first, value, List.mem_cons_self, hvalue⟩
      next =>
        obtain ⟨slot, value, hmem, hvalue⟩ := ih h
        exact ⟨slot, value, List.mem_cons_of_mem _ hmem, hvalue⟩

/-- A type is chosen for each parameter, and what is chosen is revealed by what is supplied, or
written. -/
theorem revealed_or_written {args : List Ty} {supplied : List (Option Ty)} {index : Nat}
    {params : List TypeParam} {written chosen : List (Option Ty)}
    (h : chooseEach args supplied index params written = .ok chosen) :
  chosen.length = params.length
    ∧ ∀ j type, chosen[j]? = some (some type) →
      revealBySupplied (index + j) args supplied = some type ∨ some type ∈ written
  := by
  induction params generalizing index written chosen with
  | nil =>
    unfold chooseEach at h
    split at h <;> cases h
    simp
  | cons param rest ih =>
    -- the first choice stands for its reason, and for the others the reasons are those of the rest
    have key : ∀ {first : Ty} {others : List (Option Ty)},
        revealBySupplied index args supplied = some first ∨ some first ∈ written →
        (∀ w ∈ others, w ∈ written) →
        (chooseEach args supplied (index + 1) rest others).map (some first :: ·) = .ok chosen →
        chosen.length = (param :: rest).length
          ∧ ∀ j type, chosen[j]? = some (some type) →
            revealBySupplied (index + j) args supplied = some type ∨ some type ∈ written := by
      intro first others hfirst hothers hmap
      cases e : chooseEach args supplied (index + 1) rest others with
      | error failure => rw [e] at hmap; cases hmap
      | ok more =>
        rw [e] at hmap
        cases hmap
        obtain ⟨hlength, hmore⟩ := ih e
        refine ⟨congrArg Nat.succ hlength, fun j type hchosen => ?_⟩
        cases j with
        | zero =>
          obtain rfl : first = type := by simpa using hchosen
          exact hfirst
        | succ j =>
          obtain hrevealed | hwritten := hmore j type (by simpa using hchosen)
          · exact .inl (by rwa [Nat.add_right_comm, Nat.add_assoc] at hrevealed)
          · exact .inr (hothers _ hwritten)
    unfold chooseEach at h
    split at h
    next first hreveal => exact key (.inl hreveal) (fun _ => id) h
    next =>
      split at h
      next first others =>
        exact key (.inr List.mem_cons_self) (fun _ => List.mem_cons_of_mem _) h
      next => cases h

/-- Inference finds a choice for each parameter, and what it finds is revealed by one of the
supplied values, or written. -/
theorem found_of_inferTypeArgs {function : FunctionType}
    {written supplied chosen : List (Option Ty)}
    (h : inferTypeArgs function written supplied = .ok chosen) :
  chosen.length = function.typeParams.length
    ∧ ∀ j type, chosen[j]? = some (some type) →
      (∃ slot value, (some value, slot) ∈ supplied.zip function.args
        ∧ reveal j slot value = some type)
      ∨ some type ∈ written
  := by
  unfold inferTypeArgs at h
  dsimp only at h
  split at h
  next hlength =>
    cases h
    exact ⟨hlength, fun j type hj => .inr (List.mem_of_getElem? hj)⟩
  next =>
    split at h
    · cases h
    obtain ⟨hlength, hfound⟩ := revealed_or_written h
    refine ⟨hlength, fun j type hj => ?_⟩
    obtain hrevealed | hmem := hfound j type hj
    · rw [Nat.zero_add] at hrevealed
      exact .inl (exists_revealing hrevealed)
    · exact .inr hmem

theorem formed_inferTypeArgs (hallows : ∀ p, scope.allows p) {function : FunctionType}
    {written supplied chosen : List (Option Ty)}
    (hwritten : ∀ w, some w ∈ written → w.Formed scope 0)
    (hsupplied : ∀ s, some s ∈ supplied → s.Formed scope 0)
    (h : inferTypeArgs function written supplied = .ok chosen) :
  chosen.length = function.typeParams.length ∧ ∀ c, some c ∈ chosen → c.Formed scope 0
  := by
  obtain ⟨hlength, hfound⟩ := found_of_inferTypeArgs h
  refine ⟨hlength, fun c hc => ?_⟩
  obtain ⟨j, hj⟩ := List.getElem?_of_mem hc
  obtain ⟨slot, value, hmem, hreveal⟩ | hmem := hfound j c hj
  · exact formed_reveal hallows j slot value (hsupplied value (List.of_mem_zip hmem).1) hreveal
  · exact hwritten c hmem

end Reveal

end TypedModules
