import TypedModules.Proofs.Ty.Ground
import TypedModules.Proofs.Ty.Same

/-!
# What inference finds

A function type whose parameters are chosen reveals the choice for each parameter that one of its
arguments mentions, however deep, and nothing of the others, which are hidden.  Inside a function
type with parameters of its own the sought parameter is counted past these, and what is supplied
has names in their place; neither gets into what is revealed.  Hence inference finds the choice if
and only if what is written is the choice for the hidden parameters: `inference_exact`.
-/

namespace TypedModules

open Ty

/-! ### Mentioned parameters -/

mutual

/-- Whether a type mentions the internal parameter `index`.  Inside a function type the index is
counted past the function type's own parameters. -/
def Ty.mentions (index : Nat) : Ty → Bool
  | .integer => false
  | .natural => false
  | .boolean => false
  | .list element => element.mentions index
  | .tryOf inner => inner.mentions index
  | .function _ typeParams args output =>
    anyMentions (index + typeParams.length) args || output.mentions (index + typeParams.length)
  | .named _ _ _ params => anyMentions index params
  | .param _ => false
  | .internal i => i == index

/-- Whether one of some types mentions the internal parameter `index`. -/
def Ty.anyMentions (index : Nat) : List Ty → Bool
  | [] => false
  | type :: rest => type.mentions index || anyMentions index rest

end

@[simp]
theorem anyMentions_eq_any (index : Nat) (types : List Ty) :
  anyMentions index types = types.any (mentions index)
  := by
  induction types with
  | nil => rfl
  | cons type rest ih => simp [anyMentions, ih]

/-- The items at the positions of the parameters that no argument mentions. -/
def FunctionType.hidden {α : Type} (function : FunctionType) (items : List α) : List α :=
  (items.zipIdx.filter fun item => !function.args.any (mentions item.2)).map (·.1)

/-! ### Choices for what is open -/

theorem complete_map_some (types later : List Ty) :
  complete (types.map some) later = types
  := by
  induction types with
  | nil => rfl
  | cons type rest ih => rw [List.map_cons, complete, ih]

theorem complete_map (f : Ty → Ty) (chosen : List (Option Ty)) (later : List Ty) :
  (complete chosen later).map f = complete (chosen.map (Option.map f)) (later.map f)
  := by
  induction chosen generalizing later with
  | nil => rfl
  | cons entry rest ih =>
    cases entry with
    | some type => rw [complete, List.map_cons, ih]; rfl
    | none =>
      cases later with
      | nil => rfl
      | cons first later => rw [complete, List.map_cons, ih]; rfl

/-- Later choices for parameters in front of those that are chosen come to stand in front. -/
theorem complete_replicate (later types : List Ty) :
  complete (List.replicate later.length none ++ types.map some) later = later ++ types
  := by
  induction later with
  | nil => exact complete_map_some types []
  | cons first rest ih =>
    rw [List.length_cons, List.replicate_succ, List.cons_append, complete, ih, List.cons_append]

/-- Choosing types for the parameters in front of those that are chosen comes to choosing all at
once. -/
theorem instantiate_later {type : Ty} {later types : List Ty}
    (htype : type.isClosedWithin (later.length + types.length) = true)
    (htypes : ∀ t ∈ types, t.isClosedWithin 0 = true) :
  (type.instantiate (List.replicate later.length none ++ types.map some)).instantiate
      (later.map some)
    = type.instantiate ((later ++ types).map some)
  := by
  have hcount : later.length
      = openCount (List.replicate later.length none ++ types.map some) := by
    rw [openCount_append, openCount_map_some]
    simp [openCount, List.countP_replicate]
  have hformed : ∀ c, some c ∈ List.replicate later.length none ++ types.map some →
      c.Formed .all 0 := by
    simpa [formed_all_iff] using htypes
  have hcomplete := @instantiate_complete _ _ _ hcount hformed type 0
    (formed_all_iff.mpr (by simpa using htype))
  simpa only [List.replicate_zero, List.nil_append, complete_replicate] using hcomplete

/-! ### Revealed types -/

/-- Whether a relation between types goes down to what they are made of, and is kept when types are
chosen for internal parameters. -/
structure Ty.Congruence (R : Ty → Ty → Prop) : Prop where
  list : ∀ {a element : Ty}, R a (.list element) → ∃ inner, a = .list inner ∧ R inner element
  tryOf : ∀ {a value : Ty}, R a (.tryOf value) → ∃ inner, a = .tryOf inner ∧ R inner value
  named : ∀ {a : Ty} {isReference : Bool} {entity : Entity} {written : Reference}
    {params : List Ty},
    R a (.named isReference entity written params) →
    ∃ isReference' written' params', a = .named isReference' entity written' params'
      ∧ List.Forall₂ R params' params
  function : ∀ {a : Ty} {isReference : Bool} {typeParams : List TypeParam} {args : List Ty}
    {output : Ty},
    R a (.function isReference typeParams args output) →
    ∃ actual : FunctionType, a = actual.toTy
      ∧ actual.typeParams.length = typeParams.length ∧ List.Forall₂ R actual.args args
      ∧ R actual.output output
  instantiate : ∀ {a b : Ty} (chosen : List (Option Ty)), R a b →
    R (a.instantiate chosen) (b.instantiate chosen)

theorem congruence_eq :
  Congruence Eq
  := by
  constructor
  case list => exact fun h => ⟨_, h, rfl⟩
  case tryOf => exact fun h => ⟨_, h, rfl⟩
  case named => exact fun h => ⟨_, _, _, h, List.forall₂_eq_eq_eq ▸ rfl⟩
  case function =>
    exact fun {_ isReference typeParams args output} h =>
      ⟨⟨isReference, typeParams, args, output⟩, h, rfl, List.forall₂_eq_eq_eq ▸ rfl, rfl⟩
  case instantiate => exact fun chosen h => congrArg (Ty.instantiate chosen) h

theorem congruence_same :
  Congruence fun a b => a.same b = true
  := by
  constructor
  case list =>
    intro a element h
    cases a <;> simp only [Ty.same, Bool.false_eq_true] at h
    exact ⟨_, rfl, h⟩
  case tryOf =>
    intro a value h
    cases a <;> simp only [Ty.same, Bool.false_eq_true] at h
    exact ⟨_, rfl, h⟩
  case named =>
    intro a isReference entity written params h
    cases a <;> simp only [Ty.same, Bool.false_eq_true, Bool.and_eq_true, beq_iff_eq] at h
    obtain ⟨⟨-, rfl⟩, hparams⟩ := h
    exact ⟨_, _, _, rfl, forall₂_of_sameAll hparams⟩
  case function =>
    intro a isReference typeParams args output h
    cases a with
    | function isReference' typeParams' args' output' =>
      simp only [Ty.same, Bool.and_eq_true, sameTypeClasses, beq_iff_eq] at h
      obtain ⟨⟨⟨-, hparams⟩, hargs⟩, houtput⟩ := h
      exact ⟨⟨isReference', typeParams', args', output'⟩, rfl,
        by simpa using congrArg List.length hparams, forall₂_of_sameAll hargs, houtput⟩
    | _ => simp only [Ty.same, Bool.false_eq_true] at h
  case instantiate => exact fun chosen h => same_instantiate h (sameOptions_refl chosen)

section Reveal

variable {R : Ty → Ty → Prop} {index : Nat} {types : List Ty}

/-- With names for its parameters, a function type is related to one for which these names are
chosen along with the types around it. -/
theorem Ty.Congruence.groundByName (hR : Congruence R) {function : FunctionType} {args : List Ty}
    {output : Ty} (htypes : ∀ t ∈ types, t.isClosedWithin 0 = true)
    (hclosed : ∀ arg ∈ args, arg.isClosedWithin (function.typeParams.length + types.length) = true)
    (hclosed' : output.isClosedWithin (function.typeParams.length + types.length) = true)
    (hargs : List.Forall₂ R function.args (args.map
      (Ty.instantiate (List.replicate function.typeParams.length none ++ types.map some))))
    (houtput : R function.output
      (output.instantiate (List.replicate function.typeParams.length none ++ types.map some))) :
  List.Forall₂ R function.groundByName.args
      (args.map (Ty.instantiate ((function.typeParams.map Ty.param ++ types).map some)))
    ∧ R function.groundByName.output
      (output.instantiate ((function.typeParams.map Ty.param ++ types).map some))
  := by
  have key : ∀ {actual declared : Ty},
      declared.isClosedWithin (function.typeParams.length + types.length) = true →
      R actual (declared.instantiate
        (List.replicate function.typeParams.length none ++ types.map some)) →
      R (actual.instantiate ((function.typeParams.map Ty.param).map some))
        (declared.instantiate ((function.typeParams.map Ty.param ++ types).map some)) := by
    intro actual declared hdeclared hrelated
    have hlater := @instantiate_later declared (function.typeParams.map Ty.param) types
      (by simpa using hdeclared) htypes
    rw [List.length_map] at hlater
    rw [← hlater]
    exact hR.instantiate _ hrelated
  unfold FunctionType.groundByName FunctionType.ground
  split
  next hground =>
    have hparams := List.length_eq_zero_iff.mp (FunctionType.isGround_iff.mp hground)
    simp only [hparams, List.length_nil, List.replicate_zero, List.nil_append, List.map_nil]
      at hargs houtput ⊢
    exact ⟨hargs, houtput⟩
  next =>
    refine ⟨?_, key hclosed' houtput⟩
    rw [List.forall₂_map_right_iff] at hargs
    rw [List.forall₂_map_left_iff, List.forall₂_map_right_iff]
    exact (related_of_mem hargs.flip fun arg harg _ hrelated =>
      key (hclosed arg harg) hrelated).flip

theorem revealAny_cons (first actual : Ty) (rest others : List Ty) :
  revealAny index (first :: rest) (actual :: others)
    = (reveal index first actual).or (revealAny index rest others)
  := by
  rw [revealAny]
  cases reveal index first actual <;> rfl

theorem revealBySupplied_cons (index : Nat) (first : Ty) (rest : List Ty) (entry : Option Ty)
    (others : List (Option Ty)) :
  revealBySupplied index (first :: rest) (entry :: others)
    = (entry.bind (reveal index first)).or (revealBySupplied index rest others)
  := by
  rw [revealBySupplied]
  cases entry.bind (reveal index first) <;> rfl

theorem reveal_function (isReference : Bool) (typeParams : List TypeParam) (args : List Ty)
    (output : Ty) (actual : FunctionType) :
  reveal index (.function isReference typeParams args output) actual.toTy
    = (revealAny (index + typeParams.length) args actual.groundByName.args).or
      (reveal (index + typeParams.length) output actual.groundByName.output)
  := by
  rw [FunctionType.toTy, reveal]
  cases revealAny (index + typeParams.length) args actual.groundByName.args <;> rfl

/-- What two places reveal, where the second counts if the first reveals nothing. -/
theorem rel_or {first second found : Option Ty} {p q : Bool}
    (hfirst : Option.Rel R first (if p then found else none))
    (hsecond : Option.Rel R second (if q then found else none)) :
  Option.Rel R (first.or second) (if p || q then found else none)
  := by
  cases p with
  | false =>
    cases hfirst
    exact hsecond
  | true =>
    cases hfirst with
    | some h => exact .some h
    | none => simpa using hsecond

theorem related_revealAny {declared actual : List Ty} {f : Ty → Ty} {found : Option Ty}
    (ih : ∀ type ∈ declared, ∀ actual, R actual (f type) →
      Option.Rel R (reveal index type actual) (if type.mentions index then found else none))
    (h : List.Forall₂ R actual (declared.map f)) :
  Option.Rel R (revealAny index declared actual)
    (if declared.any (mentions index) then found else none)
  := by
  induction declared generalizing actual with
  | nil => exact .none
  | cons first rest ihRest =>
    rw [List.forall_mem_cons] at ih
    cases h with
    | cons hfirst hrest =>
      rw [revealAny_cons, List.any_cons]
      exact rel_or (ih.1 _ hfirst) (ihRest ih.2 hrest)

/-- A type with chosen types in the place of its internal parameters reveals the chosen type for
each parameter that the type mentions, and nothing for the others. -/
theorem related_reveal (hR : Congruence R) {declared actual : Ty}
    (hclosed : declared.isClosedWithin types.length = true)
    (htypes : ∀ t ∈ types, t.isClosedWithin 0 = true)
    (h : R actual (declared.instantiate (types.map some))) :
  Option.Rel R (reveal index declared actual)
    (if declared.mentions index then types[index]? else none)
  := by
  induction declared using type_induction generalizing index types actual with
  | integer | natural | boolean | param => exact .none
  | list element ih =>
    obtain ⟨inner, rfl, hinner⟩ := hR.list h
    exact ih hclosed htypes hinner
  | tryOf value ih =>
    obtain ⟨inner, rfl, hinner⟩ := hR.tryOf h
    exact ih hclosed htypes hinner
  | named isReference entity written params ih =>
    simp only [Ty.instantiate, instantiateAll_eq_map] at h
    simp only [Ty.isClosedWithin, areClosedWithin_eq_all, List.all_eq_true] at hclosed
    obtain ⟨_, _, _, rfl, hparams⟩ := hR.named h
    simp only [reveal, if_pos, mentions, anyMentions_eq_any]
    exact related_revealAny (fun param hparam _ => ih param hparam (hclosed param hparam) htypes)
      hparams
  | function isReference typeParams args output ihArgs ihOutput =>
    simp only [Ty.instantiate, instantiateAll_eq_map, List.map_const'] at h
    simp only [Ty.isClosedWithin, areClosedWithin_eq_all, List.all_eq_true, Bool.and_eq_true,
      Nat.add_comm types.length] at hclosed
    obtain ⟨function, rfl, hcount, hargs, houtput⟩ := hR.function h
    rw [← hcount] at hclosed hargs houtput
    obtain ⟨hargs, houtput⟩ := hR.groundByName htypes hclosed.1 hclosed.2 hargs houtput
    -- the sought parameter stands behind the names, which are closed as well
    have hinner : ∀ t ∈ function.typeParams.map Ty.param ++ types, t.isClosedWithin 0 = true := by
      simpa [Ty.isClosedWithin, or_imp, forall_and] using htypes
    have hlength : (function.typeParams.map Ty.param ++ types).length
        = function.typeParams.length + types.length := by
      rw [List.length_append, List.length_map]
    have hget : (function.typeParams.map Ty.param ++ types)[index + function.typeParams.length]?
        = types[index]? := by
      rw [List.getElem?_append_right (by simp), List.length_map, Nat.add_sub_cancel]
    simp only [reveal_function, mentions, anyMentions_eq_any, ← hcount, ← hget]
    refine rel_or (related_revealAny (fun arg harg actual hactual => ?_) hargs)
      (ihOutput (hlength ▸ hclosed.2) hinner houtput)
    exact ihArgs arg harg (hlength ▸ hclosed.1 arg harg) hinner hactual
  | internal i =>
    simp only [Ty.isClosedWithin, decide_eq_true_eq] at hclosed
    simp only [Ty.instantiate, instantiateIndex, List.getElem?_map,
      List.getElem?_eq_getElem hclosed, Option.map_some] at h
    simp only [reveal, mentions, beq_iff_eq]
    split
    next e =>
      subst e
      rw [List.getElem?_eq_getElem hclosed]
      exact .some h
    next => exact .none

end Reveal

/-! ### Choosing each parameter -/

section Choose

variable {args : List Ty} {supplied : List (Option Ty)}

/-- What the supplied values reveal of the parameters from position `index` on. -/
def revealedFrom (args : List Ty) (supplied : List (Option Ty)) (index : Nat)
    (params : List TypeParam) : List (Option Ty) :=
  (params.zipIdx index).map fun param => revealBySupplied param.2 args supplied

@[simp]
theorem revealedFrom_nil (index : Nat) :
  revealedFrom args supplied index [] = []
  := rfl

@[simp]
theorem revealedFrom_cons (index : Nat) (param : TypeParam) (rest : List TypeParam) :
  revealedFrom args supplied index (param :: rest)
    = revealBySupplied index args supplied :: revealedFrom args supplied (index + 1) rest
  := by
  simp [revealedFrom]

theorem chooseEach_of_revealed {index : Nat} {type : Ty}
    (h : revealBySupplied index args supplied = some type) (param : TypeParam)
    (rest : List TypeParam) (written : List (Option Ty)) :
  chooseEach args supplied index (param :: rest) written
    = (chooseEach args supplied (index + 1) rest written).map (some type :: ·)
  := by
  simp only [chooseEach, h]

theorem chooseEach_of_written {index : Nat} (h : revealBySupplied index args supplied = none)
    (param : TypeParam) (rest : List TypeParam) (type : Ty) (written : List (Option Ty)) :
  chooseEach args supplied index (param :: rest) (some type :: written)
    = (chooseEach args supplied (index + 1) rest written).map (some type :: ·)
  := by
  simp only [chooseEach, h]

/-- The written types are chosen for the parameters that are not revealed, in order; none may be
left over. -/
theorem chooseEach_append {index : Nat} {params : List TypeParam} {types : List Ty}
    (h : types.length = openCount (revealedFrom args supplied index params))
    (more : List (Option Ty)) :
  chooseEach args supplied index params (types.map some ++ more)
    = if more.isEmpty then
        .ok ((complete (revealedFrom args supplied index params) types).map some)
      else .error (.unconsumed more.length)
  := by
  induction params generalizing index types with
  | nil =>
    obtain rfl := List.length_eq_zero_iff.mp h
    rfl
  | cons param rest ih =>
    rw [revealedFrom_cons] at h ⊢
    cases hrevealed : revealBySupplied index args supplied with
    | some type =>
      rw [hrevealed, openCount_some_cons] at h
      rw [chooseEach_of_revealed hrevealed, ih h, complete, List.map_cons]
      split <;> rfl
    | none =>
      rw [hrevealed, openCount_none_cons] at h
      cases types with
      | nil => cases h
      | cons first types =>
        rw [List.map_cons, List.cons_append, chooseEach_of_written hrevealed, ih (Nat.succ.inj h),
          complete, List.map_cons]
        split <;> rfl

/-- A parameter stays undecided that is not revealed if too little is written, or what is written is
open. -/
theorem chooseEach_undecided {index : Nat} {params : List TypeParam} {written : List (Option Ty)}
    (h : written.length < openCount (revealedFrom args supplied index params)
      ∨ none ∈ written.take (openCount (revealedFrom args supplied index params))) :
  ∃ param ∈ FunctionType.unbound (revealedFrom args supplied index params) params,
    chooseEach args supplied index params written = .error (.undecided param.name)
  := by
  induction params generalizing index written with
  | nil => simp [openCount] at h
  | cons param rest ih =>
    rw [revealedFrom_cons] at h ⊢
    cases hrevealed : revealBySupplied index args supplied with
    | some type =>
      rw [hrevealed, openCount_some_cons] at h
      obtain ⟨undecided, hmem, herror⟩ := ih h
      rw [FunctionType.unbound_some, chooseEach_of_revealed hrevealed, herror]
      exact ⟨undecided, hmem, rfl⟩
    | none =>
      rw [FunctionType.unbound_none]
      rcases written with _ | ⟨_ | type, others⟩
      · exact ⟨param, List.mem_cons_self, by simp only [chooseEach, hrevealed]⟩
      · exact ⟨param, List.mem_cons_self, by simp only [chooseEach, hrevealed]⟩
      · rw [hrevealed, openCount_none_cons] at h
        obtain ⟨undecided, hmem, herror⟩ := @ih (index + 1) others (by simpa using h)
        rw [chooseEach_of_written hrevealed, herror]
        exact ⟨undecided, List.mem_cons_of_mem _ hmem, rfl⟩

/-- What is written either does not suffice for some parameters, or there is a type for each of
them in front. -/
theorem enough_or_not (written : List (Option Ty)) (count : Nat) :
  (written.length < count ∨ none ∈ written.take count)
    ∨ ∃ (types : List Ty) (more : List (Option Ty)),
      written = types.map some ++ more ∧ types.length = count
  := by
  induction count generalizing written with
  | zero => exact .inr ⟨[], written, rfl, rfl⟩
  | succ count ih =>
    rcases written with _ | ⟨_ | type, others⟩
    · exact .inl (.inl (Nat.succ_pos count))
    · exact .inl (.inr List.mem_cons_self)
    · obtain h | ⟨types, more, rfl, rfl⟩ := ih others
      · exact .inl (by simpa using h)
      · exact .inr ⟨type :: types, more, rfl, rfl⟩

/-- Types are chosen if exactly those are written that are not revealed. -/
theorem chooseEach_eq_ok_iff {index : Nat} {params : List TypeParam}
    {written chosen : List (Option Ty)} :
  chooseEach args supplied index params written = .ok chosen
    ↔ ∃ types, written = types.map some
      ∧ types.length = openCount (revealedFrom args supplied index params)
      ∧ chosen = (complete (revealedFrom args supplied index params) types).map some
  := by
  constructor
  · intro h
    obtain hfew | ⟨types, more, rfl, hcount⟩ :=
      enough_or_not written (openCount (revealedFrom args supplied index params))
    · obtain ⟨param, -, herror⟩ := chooseEach_undecided hfew
      rw [herror] at h
      cases h
    · rw [chooseEach_append hcount] at h
      split at h
      next hmore =>
        obtain rfl := List.isEmpty_iff.mp hmore
        cases h
        exact ⟨types, List.append_nil _, hcount, rfl⟩
      next => cases h
  · rintro ⟨types, rfl, hcount, rfl⟩
    rw [← List.append_nil (types.map some), chooseEach_append hcount]
    rfl

end Choose

/-! ### Inference -/

section Inference

variable {R : Ty → Ty → Prop} {function : FunctionType} {chosen supplied : List Ty}
  {written : List (Option Ty)}

/-- Supplied values of which none is absent reveal what their types reveal. -/
theorem revealBySupplied_map_some (index : Nat) (args supplied : List Ty) :
  revealBySupplied index args (supplied.map some) = revealAny index args supplied
  := by
  induction args generalizing supplied with
  | nil => rfl
  | cons first rest ih =>
    cases supplied with
    | nil => rfl
    | cons actual others => simp only [List.map_cons, revealBySupplied, revealAny, ih]; rfl

namespace FunctionType

/-- What supplied values reveal of each parameter of a function type. -/
def revealed (function : FunctionType) (supplied : List (Option Ty)) : List (Option Ty) :=
  revealedFrom function.args supplied 0 function.typeParams

@[simp]
theorem length_revealed (function : FunctionType) (supplied : List (Option Ty)) :
  (function.revealed supplied).length = function.typeParams.length
  := by
  simp [revealed, revealedFrom]

theorem getElem_revealed {supplied : List (Option Ty)} {index : Nat}
    (h : index < (function.revealed supplied).length) :
  (function.revealed supplied)[index] = revealBySupplied index function.args supplied
  := by
  simp [revealed, revealedFrom]

theorem isBound_revealed {supplied : List (Option Ty)} {index : Nat}
    (h : index < function.typeParams.length) :
  isBound (function.revealed supplied) index
    = (revealBySupplied index function.args supplied).isSome
  := by
  rw [isBound, List.getElem?_eq_getElem (by simpa using h), getElem_revealed]
  cases revealBySupplied index function.args supplied <;> rfl

end FunctionType

/-- Whether the types of supplied values are related to those of a function's arguments where types
are chosen for all of its parameters. -/
structure FunctionType.Supplies (R : Ty → Ty → Prop) (function : FunctionType)
    (chosen supplied : List Ty) : Prop where
  closed : function.toTy.isClosedWithin 0 = true
  count : chosen.length = function.typeParams.length
  chosen_closed : ∀ c ∈ chosen, c.isClosedWithin 0 = true
  args : List.Forall₂ R supplied (function.ground chosen).args

namespace FunctionType.Supplies

/-- What is supplied reveals the choice for exactly those parameters that an argument mentions. -/
theorem related_revealBySupplied (h : function.Supplies R chosen supplied) (hR : Congruence R)
    (index : Nat) :
  Option.Rel R (revealBySupplied index function.args (supplied.map some))
    (if function.args.any (mentions index) then chosen[index]? else none)
  := by
  have hformed : function.toTy.Formed .all 0 := formed_all_iff.mpr h.closed
  have hargs := h.args
  rw [FunctionType.ground_eq hformed] at hargs
  rw [revealBySupplied_map_some]
  refine related_revealAny (fun arg harg actual hactual => ?_) hargs
  refine related_reveal hR ?_ h.chosen_closed hactual
  rw [h.count]
  exact ((FunctionType.formed_toTy.mp hformed).1 arg harg).isClosedWithin

theorem related_revealed (h : function.Supplies R chosen supplied) (hR : Congruence R) :
  List.Forall₂ (fun entry c => ∀ type, entry = some type → R type c)
    (function.revealed (supplied.map some)) chosen
  := by
  refine List.forall₂_iff_get.mpr ⟨by simp [h.count], ?_⟩
  intro index hindex hindex' type htype
  rw [List.get_eq_getElem, FunctionType.getElem_revealed] at htype
  have hrelated := h.related_revealBySupplied hR index
  rw [htype, List.getElem?_eq_getElem hindex'] at hrelated
  split at hrelated <;> cases hrelated
  assumption

/-- What no argument mentions is what is not revealed. -/
theorem hidden_eq_unbound {α : Type} (h : function.Supplies R chosen supplied) (hR : Congruence R)
    {items : List α} (hitems : items.length = function.typeParams.length) :
  function.hidden items = FunctionType.unbound (function.revealed (supplied.map some)) items
  := by
  unfold FunctionType.hidden FunctionType.unbound
  congr 1
  apply List.filter_congr
  rintro ⟨item, index⟩ hmem
  have hindex : index < function.typeParams.length := by
    rw [← hitems]
    simpa using (List.mem_zipIdx hmem).2.1
  have hrelated := isSome_eq_of_rel (h.related_revealBySupplied hR index)
  have hchosen : chosen[index]?.isSome = true := by simpa [h.count] using hindex
  rw [FunctionType.isBound_revealed hindex, hrelated]
  cases function.args.any (mentions index) <;> simp [hchosen]

/-- As many choices are hidden as none are revealed. -/
theorem length_hidden (h : function.Supplies R chosen supplied) (hR : Congruence R) :
  (function.hidden chosen).length = openCount (function.revealed (supplied.map some))
  := by
  rw [h.hidden_eq_unbound hR h.count]
  exact FunctionType.length_unbound (by simp [h.count])

end FunctionType.Supplies

/-- Revealed types, with written ones for the rest, are related to a choice exactly if the written
ones are related to the choice for what is not revealed. -/
theorem related_complete {revealed : List (Option Ty)} {types : List Ty}
    (h : List.Forall₂ (fun entry c => ∀ type, entry = some type → R type c) revealed chosen)
    (hcount : types.length = openCount revealed) :
  List.Forall₂ R (complete revealed types) chosen
    ↔ List.Forall₂ R types (FunctionType.unbound revealed chosen)
  := by
  induction h generalizing types with
  | nil =>
    obtain rfl := List.length_eq_zero_iff.mp hcount
    rfl
  | @cons entry c _ _ hentry _ ih =>
    cases entry with
    | some type =>
      rw [openCount_some_cons] at hcount
      rw [complete, FunctionType.unbound_some, List.forall₂_cons, ih hcount]
      exact and_iff_right (hentry type rfl)
    | none =>
      rw [openCount_none_cons] at hcount
      cases types with
      | nil => cases hcount
      | cons first types =>
        rw [complete, FunctionType.unbound_none, List.forall₂_cons, List.forall₂_cons,
          ih (Nat.succ.inj hcount)]

theorem inferTypeArgs_of_shorter (h : written.length < function.typeParams.length)
    (supplied : List (Option Ty)) :
  inferTypeArgs function written supplied
    = chooseEach function.args supplied 0 function.typeParams written
  := by
  rw [inferTypeArgs, if_neg (Nat.ne_of_lt h), if_neg (Nat.not_lt_of_lt h)]

namespace FunctionType.Supplies

variable (h : function.Supplies R chosen supplied) (hR : Congruence R)
  (hwritten : written.length < function.typeParams.length)

include h hR hwritten

/-- With too little written, a hidden parameter stays undecided. -/
theorem undecided (hfew : written.length < (function.hidden chosen).length
      ∨ none ∈ written.take (function.hidden chosen).length) :
  ∃ param ∈ function.hidden function.typeParams,
    inferTypeArgs function written (supplied.map some) = .error (.undecided param.name)
  := by
  rw [h.length_hidden hR] at hfew
  rw [inferTypeArgs_of_shorter hwritten, h.hidden_eq_unbound hR rfl]
  exact chooseEach_undecided hfew

/-- With too much written, something is left over. -/
theorem unconsumed (hgiven : none ∉ written.take (function.hidden chosen).length)
    (hmany : (function.hidden chosen).length < written.length) :
  inferTypeArgs function written (supplied.map some)
    = .error (.unconsumed (written.length - (function.hidden chosen).length))
  := by
  rw [h.length_hidden hR] at hgiven hmany ⊢
  obtain hfew | ⟨types, more, rfl, hcount⟩ :=
    enough_or_not written (openCount (function.revealed (supplied.map some)))
  · exact absurd hfew (not_or.mpr ⟨Nat.not_lt_of_lt hmany, hgiven⟩)
  · rw [inferTypeArgs_of_shorter hwritten, chooseEach_append hcount, ← hcount]
    rw [← hcount, List.length_append, List.length_map] at hmany
    have hmore : more.isEmpty = false := by
      rw [List.isEmpty_eq_false_iff]
      rintro rfl
      simp at hmany
    simp [hmore]

/-- The choice is found exactly if that for the hidden parameters is written. -/
theorem infers_iff :
  (∃ types, inferTypeArgs function written (supplied.map some) = .ok (types.map some)
      ∧ List.Forall₂ R types chosen)
    ↔ ∃ types, written = types.map some ∧ List.Forall₂ R types (function.hidden chosen)
  := by
  have hcomplete := fun types => @related_complete R chosen _ types (h.related_revealed hR)
  rw [← h.hidden_eq_unbound hR h.count] at hcomplete
  simp only [inferTypeArgs_of_shorter hwritten, chooseEach_eq_ok_iff]
  constructor
  · rintro ⟨inferred, ⟨types, rfl, hcount, hinferred⟩, hrelated⟩
    obtain rfl := List.map_injective_iff.mpr (fun _ _ => Option.some.inj) hinferred
    exact ⟨types, rfl, (hcomplete types hcount).mp hrelated⟩
  · rintro ⟨types, rfl, hrelated⟩
    have hcount : types.length = openCount (function.revealed (supplied.map some)) := by
      rw [hrelated.length_eq, h.length_hidden hR]
    exact ⟨_, ⟨types, rfl, hcount, rfl⟩, (hcomplete types hcount).mpr hrelated⟩

end FunctionType.Supplies

/-- Entries are the same as types if none is open and each is the same as the type. -/
theorem sameOptions_map_some {entries : List (Option Ty)} {types : List Ty} :
  sameOptions entries (types.map some) = true
    ↔ ∃ found, entries = found.map some ∧ List.Forall₂ (fun a b => a.same b = true) found types
  := by
  induction types generalizing entries with
  | nil => cases entries <;> simp [sameOptions]
  | cons type rest ih =>
    cases entries with
    | nil => simp [sameOptions]
    | cons entry others =>
      rw [List.map_cons, sameOptions, Bool.and_eq_true, ih]
      constructor
      · rintro ⟨hentry, found, rfl, hrest⟩
        cases entry with
        | none => cases hentry
        | some first => exact ⟨first :: found, rfl, .cons hentry hrest⟩
      · rintro ⟨_, hentries, hrelated⟩
        cases hrelated with
        | cons hfirst hrest =>
          obtain ⟨rfl, rfl⟩ := List.cons.inj hentries
          exact ⟨hfirst, _, rfl, hrest⟩

/-- Inference finds a choice of closed types for a closed function type from values of the argument
types that the choice makes, if and only if the written type arguments are the choice for the
parameters that no argument mentions, in order.  With fewer or open ones such a parameter stays
undecided, and with more the rest is left over.  From values of exactly the argument types it finds
exactly the choice. -/
theorem inference_exact (hclosed : function.toTy.isClosedWithin 0 = true)
    (hcount : chosen.length = function.typeParams.length)
    (hchosen : ∀ c ∈ chosen, c.isClosedWithin 0 = true)
    (hwritten : written.length < function.typeParams.length) :
  let hidden := function.hidden chosen
  let infer := fun supplied : List Ty => inferTypeArgs function written (supplied.map some)
  (∀ supplied, sameAll supplied (function.ground chosen).args = true →
    ((∃ found, infer supplied = .ok found ∧ sameOptions found (chosen.map some) = true)
        ↔ sameOptions written (hidden.map some) = true)
      ∧ (written.length < hidden.length ∨ none ∈ written.take hidden.length →
        ∃ param ∈ function.hidden function.typeParams,
          infer supplied = .error (.undecided param.name))
      ∧ (none ∉ written.take hidden.length → hidden.length < written.length →
        infer supplied = .error (.unconsumed (written.length - hidden.length))))
    ∧ (infer (function.ground chosen).args = .ok (chosen.map some) ↔ written = hidden.map some)
  := by
  intro hidden infer
  constructor
  · intro supplied hsame
    have h : function.Supplies (fun a b => a.same b = true) chosen supplied :=
      ⟨hclosed, hcount, hchosen, forall₂_of_sameAll hsame⟩
    refine ⟨?_, h.undecided congruence_same hwritten, h.unconsumed congruence_same hwritten⟩
    rw [sameOptions_map_some, ← h.infers_iff congruence_same hwritten]
    constructor
    · rintro ⟨found, hinfer, hfound⟩
      obtain ⟨types, rfl, hrelated⟩ := sameOptions_map_some.mp hfound
      exact ⟨types, hinfer, hrelated⟩
    · rintro ⟨types, hinfer, hrelated⟩
      exact ⟨_, hinfer, sameOptions_map_some.mpr ⟨types, rfl, hrelated⟩⟩
  · have h : function.Supplies Eq chosen (function.ground chosen).args :=
      ⟨hclosed, hcount, hchosen, List.forall₂_eq_eq_eq ▸ rfl⟩
    have hinfers := h.infers_iff congruence_eq hwritten
    simpa only [List.forall₂_eq_eq_eq, exists_eq_right] using hinfers

end Inference

/-- The type `<T, U>(<V>(V, T) -> T) -> U` of a function: its argument mentions `T` behind a
parameter of its own, and `U` is hidden. -/
def applyType : FunctionType where
  isReference := false
  typeParams := [⟨"T", none⟩, ⟨"U", none⟩]
  args := [.function false [⟨"V", none⟩] [.internal 0, .internal 1] (.internal 1)]
  output := .internal 1

/-- The type `<W>(W, Integer) -> Integer` of a value. -/
def keepType : Ty :=
  .function false [⟨"W", none⟩] [.internal 0, .integer] .integer

/-- From a value of the type `<W>(W, Integer) -> Integer`, and `Boolean` written for `U`, it is
found that `T` is `Integer`; without it `U` stays undecided. -/
theorem inference_exact_apply :
  applyType.toTy.isClosedWithin 0 = true
    ∧ sameAll [keepType] (applyType.ground [.integer, .boolean]).args = true
    ∧ (∃ found, inferTypeArgs applyType [some .boolean] [some keepType] = .ok found
      ∧ sameOptions found [some .integer, some .boolean] = true)
    ∧ ∃ param ∈ [(⟨"U", none⟩ : TypeParam)],
      inferTypeArgs applyType [] [some keepType] = .error (.undecided param.name)
  := by
  have hclosed : applyType.toTy.isClosedWithin 0 = true := by decide
  have hchosen : ∀ c ∈ [Ty.integer, Ty.boolean], c.isClosedWithin 0 = true := by decide
  have hsame : sameAll [keepType] (applyType.ground [.integer, .boolean]).args = true := by decide
  exact ⟨hclosed, hsame,
    ((inference_exact hclosed rfl hchosen (by decide)).1 _ hsame).1.mpr (by decide),
    ((inference_exact hclosed rfl hchosen (by decide)).1 _ hsame).2.1 (.inl (by decide))⟩

end TypedModules
