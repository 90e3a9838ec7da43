import TypedModules.Proofs.Check.Instances
import TypedModules.Proofs.Ty.Ground
import TypedModules.Proofs.Ty.Proper

/-!
# Constrained types

A type is constrained if each named type that stands in it, at any depth, has plain data for the
type parameters of plain data that its declaration has.  Inside a function type its own type
parameters count as what they are by name.  What replaces the type parameters in a type and leaves
the rest keeps it constrained, if it puts constrained types for them, and plain data for those of
plain data (`Ty.Replacing.constrained`).  So do the operations on function types, and what is
revealed in constrained types, or written, is constrained.
-/

namespace TypedModules

/-- Whether an entity is a named type with the given type parameters. -/
def Setting.Takes (setting : Setting) (entity : Entity) (typeParams : List TypeParam) : Prop :=
  ∃ definitions kind header, setting.definitions? entity.module = some definitions
    ∧ definitions.typeHeader? kind entity.id = some header ∧ header.typeParams = typeParams

/-- Whether what is chosen for type parameters of plain data is plain data. -/
def Setting.Fits (setting : Setting) (typeParams : List TypeParam) (chosen : List (Option Ty)) :
    Prop :=
  ∀ choice ∈ typeParams.zip chosen, ∀ type, choice.2 = some type →
    choice.1.typeClass = some .data → setting.isData type = true

namespace Ty

/-- The type in which the parameters of the function types around it stand by name. -/
def byName (outer : List TypeParam) (type : Ty) : Ty :=
  type.instantiate ((outer.map Ty.param).map some)

mutual

/-- Whether named types have plain data where their declarations want it, in a type inside function
types with the given type parameters. -/
def Constrained (setting : Setting) (outer : List TypeParam) : Ty → Prop
  | .integer => True
  | .natural => True
  | .boolean => True
  | .list element => element.Constrained setting outer
  | .tryOf inner => inner.Constrained setting outer
  | .function _ typeParams args output =>
    AreConstrained setting (typeParams ++ outer) args
      ∧ output.Constrained setting (typeParams ++ outer)
  | .named _ entity _ args =>
    (∀ typeParams, setting.Takes entity typeParams →
        setting.Fits typeParams (args.map fun arg => some (arg.byName outer)))
      ∧ AreConstrained setting outer args
  | .param _ => True
  | .internal _ => True

/-- Whether all types of a list are constrained. -/
def AreConstrained (setting : Setting) (outer : List TypeParam) : List Ty → Prop
  | [] => True
  | type :: rest => type.Constrained setting outer ∧ AreConstrained setting outer rest

end

@[simp]
theorem areConstrained_iff {setting : Setting} {outer : List TypeParam} {types : List Ty} :
  AreConstrained setting outer types ↔ ∀ type ∈ types, type.Constrained setting outer
  := by
  induction types with
  | nil => simp [AreConstrained]
  | cons type rest ih => simp [AreConstrained, ih]

/-! ### Replacing parameters -/

/-- Whether a type may be put for a type parameter of a class, inside function types with the given
type parameters. -/
structure Suits (setting : Setting) (outer : List TypeParam) (typeClass : Option TypeClass)
    (type : Ty) : Prop where
  constrained : type.Constrained setting outer
  data : typeClass = some .data → setting.isData (type.byName outer) = true

/-- Whether an operation, which is told the type parameters of the function types that it has gone
into, replaces the type parameters in types by what suits them and leaves the rest.  The types stand
inside function types with some type parameters before, and with others after. -/
structure Replacing (setting : Setting) (scope : TyScope) (before after : List TypeParam)
    (replace : List TypeParam → Ty → Ty) : Prop where
  integer : ∀ inner, replace inner .integer = .integer
  natural : ∀ inner, replace inner .natural = .natural
  boolean : ∀ inner, replace inner .boolean = .boolean
  list : ∀ inner element, replace inner (.list element) = .list (replace inner element)
  tryOf : ∀ inner value, replace inner (.tryOf value) = .tryOf (replace inner value)
  function : ∀ inner isReference typeParams args output,
    replace inner (.function isReference typeParams args output)
      = .function isReference typeParams (args.map (replace (typeParams ++ inner)))
        (replace (typeParams ++ inner) output)
  named : ∀ inner isReference entity written args,
    replace inner (.named isReference entity written args)
      = .named isReference entity written (args.map (replace inner))
  param : ∀ inner p, scope.allows p →
    (replace inner (.param p)).Suits setting (inner ++ after) p.typeClass
  internal : ∀ inner index p, (inner ++ before)[index]? = some p →
    (replace inner (.internal index)).Suits setting (inner ++ after) p.typeClass

section Replacing

variable {setting : Setting} {scope : TyScope} {before after : List TypeParam}
  {replace : List TypeParam → Ty → Ty}

theorem byName_internal {outer : List TypeParam} {index : Nat} {p : TypeParam}
    (h : outer[index]? = some p) :
  (Ty.internal index).byName outer = .param p
  := by
  have hlookup : ((outer.map Ty.param).map some)[index]? = some (some (.param p)) := by
    simp [h]
  simp only [byName, Ty.instantiate, instantiateIndex, hlookup]

/-- What a type parameter is by name suits its class. -/
theorem suits_internal {outer : List TypeParam} {index : Nat} {p : TypeParam}
    (h : outer[index]? = some p) :
  (Ty.internal index).Suits setting outer p.typeClass
  := ⟨trivial, fun hdata => by simp [byName_internal h, hdata]⟩

theorem suits_param (outer : List TypeParam) (p : TypeParam) :
  (Ty.param p).Suits setting outer p.typeClass
  := ⟨trivial, fun hdata => by simp [byName, Ty.instantiate, hdata]⟩

/-- What is left of a type after its parameters are replaced is an instance of it. -/
theorem Replacing.hasInstance (h : Replacing setting scope before after replace) {type : Ty}
    (inner : List TypeParam) (hformed : type.Formed scope (inner ++ before).length) :
  setting.HasInstance (type.byName (inner ++ before))
    ((replace inner type).byName (inner ++ after))
  := by
  induction type using type_induction with
  | integer => rw [h.integer]; exact .integer
  | natural => rw [h.natural]; exact .natural
  | boolean => rw [h.boolean]; exact .boolean
  | list element ih => rw [h.list]; exact .list (ih hformed)
  | tryOf value ih => rw [h.tryOf]; exact .tryOf (ih hformed)
  | function => exact .function
  | named isReference entity written params ih =>
    simp only [Formed, areFormed_iff] at hformed
    rw [h.named]
    refine .named ?_
    simp only [instantiateAll_eq_map, List.forall₂_map_left_iff, List.forall₂_map_right_iff,
      List.forall₂_same]
    exact fun param hparam => ih param hparam (hformed.2 param hparam)
  | param p => exact .param (h.param inner p hformed).data
  | internal index =>
    have hindex : (inner ++ before)[index]? = some (inner ++ before)[index] :=
      List.getElem?_eq_getElem hformed
    rw [byName_internal hindex]
    exact .param (h.internal inner index _ hindex).data

/-- Types stay constrained if their parameters are replaced by what suits them. -/
theorem Replacing.constrained (h : Replacing setting scope before after replace) {type : Ty}
    (inner : List TypeParam) (hformed : type.Formed scope (inner ++ before).length)
    (htype : type.Constrained setting (inner ++ before)) :
  (replace inner type).Constrained setting (inner ++ after)
  := by
  induction type using type_induction generalizing inner with
  | integer => rw [h.integer]; trivial
  | natural => rw [h.natural]; trivial
  | boolean => rw [h.boolean]; trivial
  | list element ih => rw [h.list]; exact ih inner hformed htype
  | tryOf value ih => rw [h.tryOf]; exact ih inner hformed htype
  | function isReference typeParams args output ihArgs ihOutput =>
    have hlength : (inner ++ before).length + typeParams.length
        = ((typeParams ++ inner) ++ before).length := by
      simp only [List.length_append]
      omega
    simp only [Formed, areFormed_iff, hlength] at hformed
    simp only [Constrained, areConstrained_iff, ← List.append_assoc] at htype
    rw [h.function]
    simp only [Constrained, areConstrained_iff, List.forall_mem_map, ← List.append_assoc]
    exact ⟨fun arg harg => ihArgs arg harg _ (hformed.1 arg harg) (htype.1 arg harg),
      ihOutput _ hformed.2 htype.2⟩
  | named isReference entity written args ih =>
    simp only [Formed, areFormed_iff] at hformed
    simp only [Constrained, areConstrained_iff] at htype
    rw [h.named]
    simp only [Constrained, areConstrained_iff, List.forall_mem_map]
    refine ⟨fun typeParams htakes => ?_,
      fun arg harg => ih arg harg inner (hformed.2 arg harg) (htype.2 arg harg)⟩
    intro choice hchoice type hsome hdata
    rw [List.map_map, List.zip_map_right, List.mem_map] at hchoice
    obtain ⟨⟨p, arg⟩, hmem, rfl⟩ := hchoice
    obtain rfl := Option.some.inj hsome
    have harg := (List.of_mem_zip hmem).2
    have hbefore : setting.isData (arg.byName (inner ++ before)) = true := by
      refine htype.1 typeParams htakes (p, some (arg.byName (inner ++ before))) ?_ _ rfl hdata
      rw [List.zip_map_right, List.mem_map]
      exact ⟨(p, arg), hmem, rfl⟩
    exact Setting.isData_of_instance (h.hasInstance inner (hformed.2 arg harg)) hbefore
  | param p => exact (h.param inner p hformed).constrained
  | internal index =>
    exact (h.internal inner index _ (List.getElem?_eq_getElem hformed)).constrained

end Replacing

/-! ### Operations on types -/

section Operations

variable {setting : Setting} {scope scope' : TyScope} {typeClass : Option TypeClass} {type : Ty}

theorem replacing_weaken (outer more : List TypeParam) :
  Replacing setting scope outer (outer ++ more) fun _ type => type
  := by
  constructor
  case function | named => simp
  case param => exact fun inner p _ => suits_param _ p
  case internal =>
    intro inner index p hindex
    refine suits_internal ?_
    rw [← List.append_assoc, List.getElem?_append_left]
    · exact hindex
    · exact (List.getElem?_eq_some_iff.mp hindex).1
  all_goals exact fun _ => by simp

/-- A type that is formed inside function types is constrained as well where there are more around
them. -/
theorem Constrained.weaken {outer : List TypeParam} (h : type.Constrained setting outer)
    (hformed : type.Formed scope outer.length) (more : List TypeParam) :
  type.Constrained setting (outer ++ more)
  := (replacing_weaken outer more).constrained [] hformed h

theorem Formed.byName_eq (hformed : type.Formed scope 0) (outer : List TypeParam) :
  type.byName outer = type
  := hformed.instantiate_eq _

theorem Suits.weaken (h : type.Suits setting [] typeClass) (hformed : type.Formed scope 0)
    (outer : List TypeParam) :
  type.Suits setting outer typeClass
  := by
  refine ⟨h.constrained.weaken hformed outer, fun hdata => ?_⟩
  rw [hformed.byName_eq]
  exact hformed.byName_eq [] ▸ h.data hdata

theorem replacing_substitute {choices : Choices}
    (hput : ∀ p c, scope.allows p → choices.get? p.name = some c →
      c.Formed scope' 0 ∧ c.Suits setting [] p.typeClass) :
  Replacing setting scope [] [] fun _ => substitute choices
  := by
  constructor
  case function | named => simp [Ty.substitute]
  case param =>
    intro inner p hp
    rw [Ty.substitute]
    cases hfound : choices.get? p.name with
    | none => exact suits_param _ p
    | some c =>
      obtain ⟨hformed, hsuits⟩ := hput p c hp hfound
      exact hsuits.weaken hformed _
  case internal => exact fun inner index p hindex => suits_internal hindex
  all_goals exact fun _ => by simp [Ty.substitute]

/-- Types of a declaration are constrained at the arguments of a constrained type. -/
theorem Constrained.substitute {choices : Choices} (h : type.Constrained setting [])
    (hformed : type.Formed scope 0)
    (hput : ∀ p c, scope.allows p → choices.get? p.name = some c →
      c.Formed scope' 0 ∧ c.Suits setting [] p.typeClass) :
  (type.substitute choices).Constrained setting []
  := (replacing_substitute hput).constrained [] hformed h

theorem replacing_internalize {params : List TypeParam}
    (hclass : ∀ p index, scope.allows p → p.typeClass = some .data →
      (params.map (·.name)).idxOf? p.name = some index → params[index]? = some p) :
  Replacing setting scope [] params fun inner => internalize (params.map (·.name)) inner.length
  := by
  constructor
  case function => simp [Ty.internalize, Nat.add_comm]
  case named => simp [Ty.internalize]
  case param =>
    intro inner p hp
    rw [Ty.internalize]
    split
    next index hindex =>
      refine ⟨trivial, fun hdata => (suits_internal ?_).data hdata⟩
      rw [List.getElem?_append_right (Nat.le_add_right _ _), Nat.add_sub_cancel_left]
      exact hclass p index hp hdata hindex
    next => exact suits_param _ p
  case internal =>
    intro inner index p hindex
    refine suits_internal ?_
    rw [List.append_nil] at hindex
    rw [List.getElem?_append_left (List.getElem?_eq_some_iff.mp hindex).1]
    exact hindex
  all_goals exact fun _ => by simp [Ty.internalize]

end Operations
end Ty

open Ty

/-! ### Chosen types -/

/-- What is not bound stands at the number that its entry has among the open ones. -/
theorem FunctionType.getElem?_unbound {β : Type} {chosen : List (Option Ty)} {items : List β}
    {index : Nat} (h : chosen[index]? = some none) :
  (unbound chosen items)[openCount (chosen.take index)]? = items[index]?
  := by
  induction items generalizing chosen index with
  | nil => simp
  | cons item items ih =>
    match chosen, index with
    | [], _ => simp at h
    | none :: chosen, 0 => simp [openCount]
    | some type :: chosen, 0 => simp at h
    | none :: chosen, index + 1 => simpa using ih (by simpa using h)
    | some type :: chosen, index + 1 => simpa using ih (by simpa using h)

/-- Whether types may be chosen for type parameters, if all types are to stay constrained. -/
structure Setting.MayChoose (setting : Setting) (scope : TyScope) (typeParams : List TypeParam)
    (chosen : List (Option Ty)) : Prop where
  count : chosen.length = typeParams.length
  formed : ∀ c, some c ∈ chosen → c.Formed scope 0
  constrained : ∀ c, some c ∈ chosen → c.Constrained setting []
  fits : setting.Fits typeParams chosen

section Chosen

variable {setting : Setting} {scope scope' : TyScope} {params : List TypeParam}
  {chosen : List (Option Ty)}

theorem Setting.Fits.getElem? (h : setting.Fits params chosen) {index : Nat} {p : TypeParam}
    {c : Ty} (hp : params[index]? = some p) (hc : chosen[index]? = some (some c))
    (hdata : p.typeClass = some .data) :
  setting.isData c = true
  := by
  refine h (p, some c) (List.mem_of_getElem? (i := index) ?_) c rfl hdata
  rw [List.getElem?_zip_eq_some]
  exact ⟨hp, hc⟩

theorem Setting.MayChoose.suits (h : setting.MayChoose scope params chosen) {index : Nat}
    {p : TypeParam} {c : Ty} (hp : params[index]? = some p) (hc : chosen[index]? = some (some c)) :
  c.Suits setting [] p.typeClass
  := by
  have hmem := List.mem_of_getElem? hc
  refine ⟨h.constrained c hmem, fun hdata => ?_⟩
  rw [(h.formed c hmem).byName_eq]
  exact h.fits.getElem? hp hc hdata

theorem replacing_instantiate (h : setting.MayChoose scope' params chosen) :
  Replacing setting scope params (FunctionType.unbound chosen params) fun inner =>
    instantiate (inner.map (fun _ => none) ++ chosen)
  := by
  constructor
  case function =>
    intro inner isReference typeParams args output
    simp only [Ty.instantiate, instantiateAll_eq_map, List.map_append, List.append_assoc]
  case named => simp [Ty.instantiate]
  case param => exact fun inner p _ => suits_param _ p
  case internal =>
    intro inner index p hindex
    obtain hlt | hle := Nat.lt_or_ge index inner.length
    · -- a parameter of a function type inside keeps its number
      have hlookup : (inner.map (fun _ => (none : Option Ty)) ++ chosen)[index]? = some none := by
        rw [List.getElem?_append_left (by simpa using hlt)]
        simp [hlt]
      have hcount : openCount ((inner.map (fun _ => (none : Option Ty)) ++ chosen).take index)
          = index := by
        rw [List.take_append_of_le_length (by simpa using Nat.le_of_lt hlt), ← List.map_take,
          openCount_map_none, List.length_take, Nat.min_eq_left (Nat.le_of_lt hlt)]
      simp only [Ty.instantiate, instantiateIndex, hlookup, hcount]
      refine suits_internal ?_
      rw [List.getElem?_append_left hlt] at hindex ⊢
      exact hindex
    · obtain ⟨j, rfl⟩ := Nat.exists_eq_add_of_le hle
      have hlookup : (inner.map (fun _ => (none : Option Ty)) ++ chosen)[inner.length + j]?
          = chosen[j]? := by
        rw [List.getElem?_append_right (by simp)]
        simp
      rw [List.getElem?_append_right hle, Nat.add_sub_cancel_left] at hindex
      have hj : j < chosen.length := h.count ▸ (List.getElem?_eq_some_iff.mp hindex).1
      simp only [Ty.instantiate, instantiateIndex, hlookup]
      cases hchoice : chosen[j] with
      | some c =>
        have hc : chosen[j]? = some (some c) := by rw [List.getElem?_eq_getElem hj, hchoice]
        simp only [hc]
        exact (h.suits hindex hc).weaken (h.formed c (List.mem_of_getElem? hc)) _
      | none =>
        have hc : chosen[j]? = some none := by rw [List.getElem?_eq_getElem hj, hchoice]
        have hcount : openCount ((inner.map (fun _ => (none : Option Ty)) ++ chosen).take
            (inner.length + j)) = inner.length + openCount (chosen.take j) := by
          rw [List.take_append, openCount_append, List.take_of_length_le (by simp),
            openCount_map_none]
          simp
        simp only [hc, hcount]
        refine suits_internal ?_
        rw [List.getElem?_append_right (Nat.le_add_right _ _), Nat.add_sub_cancel_left,
          FunctionType.getElem?_unbound hc]
        exact hindex
  all_goals exact fun _ => by simp [Ty.instantiate]

end Chosen

/-! ### Function types -/

namespace FunctionType

variable {setting : Setting} {scope scope' : TyScope} {function : FunctionType}

theorem constrained_toTy :
  function.toTy.Constrained setting []
    ↔ (∀ arg ∈ function.args, arg.Constrained setting function.typeParams)
      ∧ function.output.Constrained setting function.typeParams
  := by
  simp [FunctionType.toTy, Ty.Constrained]

/-- What remains of a constrained function type is constrained after types are chosen. -/
theorem constrained_rebindTypes {chosen : List (Option Ty)}
    (h : function.toTy.Constrained setting []) (hformed : function.toTy.Formed scope 0)
    (hchosen : setting.MayChoose scope' function.typeParams chosen) :
  (function.rebindTypes chosen).toTy.Constrained setting []
  := by
  rw [rebindTypes_eq hformed]
  rw [constrained_toTy] at h ⊢
  rw [formed_toTy] at hformed
  have key : ∀ type : Ty, type.Formed scope function.typeParams.length →
      type.Constrained setting function.typeParams →
      (type.instantiate chosen).Constrained setting (unbound chosen function.typeParams) :=
    fun type hformed htype => (replacing_instantiate hchosen).constrained [] hformed htype
  exact ⟨List.forall_mem_map.mpr fun arg harg => key arg (hformed.1 arg harg) (h.1 arg harg),
    key _ hformed.2 h.2⟩

theorem constrained_rebindArgs {bound : List (Option Ty)}
    (h : function.toTy.Constrained setting []) :
  (function.rebindArgs bound).toTy.Constrained setting []
  := by
  rw [constrained_toTy] at h ⊢
  exact ⟨fun arg harg => h.1 arg (mem_of_mem_unbound harg), h.2⟩

theorem constrained_ground {chosen : List Ty} (h : function.toTy.Constrained setting [])
    (hformed : function.toTy.Formed scope 0)
    (hchosen : setting.MayChoose scope' function.typeParams (chosen.map some)) :
  (∀ arg ∈ (function.ground chosen).args, arg.Constrained setting [])
    ∧ (function.ground chosen).output.Constrained setting []
  := by
  have hcount : chosen.length = function.typeParams.length := by simpa using hchosen.count
  have hrest := constrained_rebindTypes h hformed hchosen
  rw [← ground_eq_rebindTypes hcount, constrained_toTy, ground_eq hformed] at hrest
  rw [ground_eq hformed]
  exact hrest

/-- Type parameters may be chosen as what they are by name. -/
theorem mayChoose_byName (hallows : ∀ p, scope.allows p) (params : List TypeParam) :
  setting.MayChoose scope params ((params.map Ty.param).map some)
  := by
  constructor
  case count => simp
  case formed => simpa [Ty.Formed] using fun p _ => hallows p
  case constrained => simp [Ty.Constrained]
  case fits =>
    have hzip : params.zip ((params.map Ty.param).map some)
        = params.map fun p => (p, some (.param p)) := by
      induction params with
      | nil => rfl
      | cons p params ih => simp [← ih]
    intro choice hchoice type hsome hdata
    rw [hzip, List.mem_map] at hchoice
    obtain ⟨p, -, rfl⟩ := hchoice
    obtain rfl := Option.some.inj hsome
    simpa using hdata

theorem constrained_groundByName (hallows : ∀ p, scope.allows p)
    (h : function.toTy.Constrained setting []) (hformed : function.toTy.Formed scope 0) :
  (∀ arg ∈ function.groundByName.args, arg.Constrained setting [])
    ∧ function.groundByName.output.Constrained setting []
  := constrained_ground h hformed (mayChoose_byName hallows _)

theorem constrained_ofSignature {typeParams : List TypeParam} {args : List Ty} {output : Ty}
    (hargs : ∀ arg ∈ args, arg.Formed scope 0 ∧ arg.Constrained setting [])
    (houtput : output.Formed scope 0 ∧ output.Constrained setting [])
    (hclass : ∀ p index, scope.allows p → p.typeClass = some .data →
      (typeParams.map (·.name)).idxOf? p.name = some index → typeParams[index]? = some p) :
  (ofSignature typeParams args output).toTy.Constrained setting []
  := by
  have key : ∀ type : Ty, type.Formed scope 0 ∧ type.Constrained setting [] →
      (type.internalize (typeParams.map (·.name)) 0).Constrained setting typeParams :=
    fun type h => (replacing_internalize hclass).constrained [] h.1 h.2
  rw [constrained_toTy]
  exact ⟨List.forall_mem_map.mpr fun arg harg => key arg (hargs arg harg), key _ houtput⟩

end FunctionType

/-! ### Revealed types -/

section Reveal

variable {setting : Setting} {scope : TyScope}

mutual

/-- What a closed and constrained type reveals is constrained. -/
theorem constrained_reveal (hallows : ∀ p, scope.allows p) :
    (index : Nat) → (declared actual : Ty) → {type : Ty} → actual.Formed scope 0 →
      actual.Constrained setting [] → reveal index declared actual = some type →
        type.Constrained setting []
  | index, .internal i, actual, type, hformed, hactual, h => by
    simp only [reveal] at h
    split at h
    · cases h
      exact hactual
    · cases h
  | index, .list declared, actual, type, hformed, hactual, h => by
    cases actual <;> simp only [reveal, reduceCtorEq] at h
    simp only [Formed] at hformed
    simp only [Constrained] at hactual
    exact constrained_reveal hallows index declared _ hformed hactual h
  | index, .tryOf declared, actual, type, hformed, hactual, h => by
    cases actual <;> simp only [reveal, reduceCtorEq] at h
    simp only [Formed] at hformed
    simp only [Constrained] at hactual
    exact constrained_reveal hallows index declared _ hformed hactual h
  | index, .named _ _ _ declared, actual, type, hformed, hactual, h => by
    cases actual <;> simp only [reveal, reduceCtorEq] at h
    split at h
    · simp only [Formed, areFormed_iff] at hformed
      simp only [Constrained, areConstrained_iff] at hactual
      exact constrained_revealAny hallows index declared _ hformed.2 hactual.2 h
    · cases h
  | index, .function _ typeParams args output, actual, type, hformed, hactual, h => by
    cases actual <;> simp only [reveal, reduceCtorEq] at h
    next isReference₂ typeParams₂ args₂ output₂ =>
      let function : FunctionType := ⟨isReference₂, typeParams₂, args₂, output₂⟩
      have hclosed : function.toTy.Formed scope 0 := hformed
      obtain ⟨hformedArgs, hformedOutput⟩ := FunctionType.formed_groundByName hclosed hallows
      obtain ⟨hargs, houtput⟩ := FunctionType.constrained_groundByName hallows hactual hclosed
      split at h
      next hany =>
        cases h
        exact constrained_revealAny hallows _ args _ hformedArgs hargs hany
      next => exact constrained_reveal hallows _ output _ hformedOutput houtput h
  | _, .integer, _, _, _, _, h => by cases h
  | _, .natural, _, _, _, _, h => by cases h
  | _, .boolean, _, _, _, _, h => by cases h
  | _, .param _, _, _, _, _, h => by cases h

theorem constrained_revealAny (hallows : ∀ p, scope.allows p) :
    (index : Nat) → (declared actual : List Ty) → {type : Ty} →
      (∀ a ∈ actual, a.Formed scope 0) → (∀ a ∈ actual, a.Constrained setting []) →
        revealAny index declared actual = some type → type.Constrained setting []
  | index, first :: rest, actual, type, hformed, hactual, h => by
    cases actual <;> simp only [revealAny, reduceCtorEq] at h
    rw [List.forall_mem_cons] at hformed hactual
    split at h
    next hfirst =>
      cases h
      exact constrained_reveal hallows index first _ hformed.1 hactual.1 hfirst
    next => exact constrained_revealAny hallows index rest _ hformed.2 hactual.2 h
  | _, [], _, _, _, _, h => by cases h

end

/-- The types that are chosen are constrained where those are that are written and supplied. -/
theorem constrained_inferTypeArgs (hallows : ∀ p, scope.allows p) {function : FunctionType}
    {written supplied chosen : List (Option Ty)}
    (hwritten : ∀ w, some w ∈ written → w.Constrained setting [])
    (hsupplied : ∀ s, some s ∈ supplied → s.Formed scope 0 ∧ s.Constrained setting [])
    (h : inferTypeArgs function written supplied = .ok chosen) :
  ∀ c, some c ∈ chosen → c.Constrained setting []
  := by
  intro c hc
  obtain ⟨j, hj⟩ := List.getElem?_of_mem hc
  obtain ⟨slot, value, hmem, hreveal⟩ | hmem := (found_of_inferTypeArgs h).2 j c hj
  · obtain ⟨hformed, hconstrained⟩ := hsupplied value (List.of_mem_zip hmem).1
    exact constrained_reveal hallows j slot value hformed hconstrained hreveal
  · exact hwritten c hmem

end Reveal

end TypedModules
