import TypedModules.Proofs.Declared.Adapter
import TypedModules.Proofs.Ty.Ground

/-!
# Grounding a declared function type

The types of a signature mention its type parameters by name; its function type has internal
parameters in their place, which are numbered past those of every function type around them.  To
ground the function type is to replace the parameters by name in what was declared, at any depth and
next to any other parameters: `ground_ofSignature`.  If each parameter is replaced by itself, what
was declared comes back.
-/

namespace TypedModules

open Ty

/-! ### Replacing names -/

/-- The type for a name is the one at the position of the name, if names are distinct. -/
theorem Choices.get?_ofParams_eq {params : List TypeParam} {args : List Ty}
    (hnames : (params.map (·.name)).Nodup) (hlength : args.length = params.length)
    (name : String) :
  (ofParams params args).get? name = ((params.map (·.name)).idxOf? name).bind (args[·]?)
  := by
  induction params generalizing args with
  | nil => simp [ofParams, get?]
  | cons param params ih =>
    obtain ⟨arg, args, rfl⟩ := List.exists_cons_of_length_eq_add_one hlength
    rw [List.map_cons, List.nodup_cons] at hnames
    rw [get?_ofParams_cons, List.map_cons, List.idxOf?_cons]
    by_cases hname : param.name = name
    case pos =>
      subst hname
      rw [get?_ofParams_of_not_mem hnames.1]
      simp
    case neg =>
      rw [ih hnames.2 (by simpa using hlength), if_neg hname, Option.or_none]
      simp [hname, Option.bind_map, Function.comp_def]

/-- Where each parameter is replaced by itself, a name is replaced by the last parameter that has
it. -/
theorem Choices.get?_ofParams_self (params : List TypeParam) (name : String) :
  (ofParams params (params.map Ty.param)).get? name
    = (params.reverse.find? (·.name == name)).map Ty.param
  := by
  have hzip : (params.map (·.name)).zip (params.map Ty.param)
      = params.map fun p => (p.name, .param p) := by
    rw [List.zip_map']
  simp only [get?, ofParams, hzip, ← List.map_reverse, List.find?_map, Function.comp_def,
    Option.map_map]

namespace Ty

mutual

/-- The named parameters that occur in a type. -/
def namedParams : Ty → List TypeParam
  | .integer => []
  | .natural => []
  | .boolean => []
  | .list element => element.namedParams
  | .tryOf inner => inner.namedParams
  | .function _ _ args output => namedParamsAll args ++ output.namedParams
  | .named _ _ _ params => namedParamsAll params
  | .param p => [p]
  | .internal _ => []

/-- The named parameters that occur in some types. -/
def namedParamsAll : List Ty → List TypeParam
  | [] => []
  | type :: rest => type.namedParams ++ namedParamsAll rest

end

@[simp]
theorem namedParamsAll_eq_flatMap (types : List Ty) :
  namedParamsAll types = types.flatMap namedParams
  := by
  induction types with
  | nil => rfl
  | cons type rest ih => simp [namedParamsAll, ih]

/-- Whether each occurrence of a declared parameter in a type carries the constraint with which the
parameter is declared. -/
def CarriesDeclared (typeParams : List TypeParam) (type : Ty) : Prop :=
  ∀ p ∈ type.namedParams, ∀ declared ∈ typeParams,
    p.name = declared.name → p.typeClass = declared.typeClass

/-- A type is as before if each of its named parameters is replaced by itself. -/
theorem substitute_eq_self {type : Ty} {choices : Choices}
    (h : ∀ p ∈ type.namedParams, (choices.get? p.name).getD (.param p) = .param p) :
  type.substitute choices = type
  := by
  induction type using type_induction with
  | integer | natural | boolean | internal => rfl
  | list element ih | tryOf element ih => rw [Ty.substitute, ih h]
  | function isReference typeParams args output ihArgs ihOutput =>
    simp only [namedParams, namedParamsAll_eq_flatMap, List.mem_append, List.mem_flatMap] at h
    have hargs : ∀ arg ∈ args, arg.substitute choices = arg := fun arg harg =>
      ihArgs arg harg fun p hp => h p (.inl ⟨arg, harg, hp⟩)
    rw [Ty.substitute, substituteAll_eq_map, ihOutput fun p hp => h p (.inr hp),
      List.map_congr_left hargs, List.map_id']
  | named isReference entity written params ih =>
    simp only [namedParams, namedParamsAll_eq_flatMap, List.mem_flatMap] at h
    have hparams : ∀ param ∈ params, param.substitute choices = param := fun param hparam =>
      ih param hparam fun p hp => h p ⟨param, hparam, hp⟩
    rw [Ty.substitute, substituteAll_eq_map, List.map_congr_left hparams, List.map_id']
  | param p => exact h p List.mem_cons_self

/-- With each declared parameter replaced by itself, a type that carries the declared constraints is
as before. -/
theorem CarriesDeclared.substitute_eq {type : Ty} {typeParams : List TypeParam}
    (h : type.CarriesDeclared typeParams) :
  type.substitute (.ofParams typeParams (typeParams.map Ty.param)) = type
  := by
  apply substitute_eq_self
  intro p hp
  rw [Choices.get?_ofParams_self]
  cases hfound : typeParams.reverse.find? (·.name == p.name) with
  | none => rfl
  | some declared =>
    have hmem : declared ∈ typeParams := List.mem_reverse.mp (List.mem_of_find?_eq_some hfound)
    have hname : declared.name = p.name := by simpa using List.find?_some hfound
    have hclass := h p hp declared hmem hname.symm
    obtain ⟨name, typeClass⟩ := p
    obtain ⟨name', typeClass'⟩ := declared
    dsimp only at hname hclass
    rw [Option.map_some, Option.getD_some, hname, hclass]

/-! ### Internal parameters -/

/-- To choose types for named parameters that have become internal is to replace them by name.  The
types around the type have `offset` parameters, which stay. -/
theorem instantiate_internalize_ofParams {typeParams : List TypeParam} {chosen : List Ty}
    (hnames : (typeParams.map (·.name)).Nodup) (hlength : chosen.length = typeParams.length)
    {type : Ty} {offset : Nat} (h : type.isClosedWithin offset = true) :
  (type.internalize (typeParams.map (·.name)) offset).instantiate
      (List.replicate offset none ++ chosen.map some)
    = type.substitute (.ofParams typeParams chosen)
  := by
  induction type using type_induction generalizing offset with
  | integer | natural | boolean => rfl
  | list element ih | tryOf element ih =>
    simp only [isClosedWithin] at h
    simp only [Ty.internalize, Ty.instantiate, Ty.substitute, ih h]
  | function isReference own args output ihArgs ihOutput =>
    simp only [isClosedWithin, areClosedWithin_eq_all, Bool.and_eq_true, List.all_eq_true] at h
    simp only [Ty.internalize, Ty.instantiate, Ty.substitute, internalizeAll_eq_map,
      instantiateAll_eq_map, substituteAll_eq_map, map_none_append_replicate, ihOutput h.2,
      List.map_map, Function.comp_def]
    rw [List.map_congr_left fun arg harg => ihArgs arg harg (h.1 arg harg)]
  | named isReference entity written params ih =>
    simp only [isClosedWithin, areClosedWithin_eq_all, List.all_eq_true] at h
    simp only [Ty.internalize, Ty.instantiate, Ty.substitute, internalizeAll_eq_map,
      instantiateAll_eq_map, substituteAll_eq_map, List.map_map, Function.comp_def]
    rw [List.map_congr_left fun param hparam => ih param hparam (h param hparam)]
  | param p =>
    rw [Ty.substitute, Choices.get?_ofParams_eq hnames hlength, Ty.internalize]
    cases hindex : (typeParams.map (·.name)).idxOf? p.name with
    | none => rfl
    | some index =>
      obtain ⟨c, hc⟩ : ∃ c, chosen[index]? = some c := by
        have hlt := (idxOf?_eq_some hindex).2
        rw [List.length_map, ← hlength] at hlt
        exact ⟨_, List.getElem?_eq_getElem hlt⟩
      have hlookup : (List.replicate offset none ++ chosen.map some)[offset + index]?
          = some (some c) := by
        rw [List.getElem?_append_right (by simp), List.length_replicate, Nat.add_sub_cancel_left,
          List.getElem?_map, hc, Option.map_some]
      simp only [Ty.instantiate, instantiateIndex, hlookup, Option.bind_some, hc, Option.getD_some]
  | internal index => exact instantiate_of_formed (formed_all_iff.mpr h) _

end Ty

namespace FunctionType

/-- The function type of a signature with distinct type parameters and closed types, with a type
chosen for each parameter, has the declared types with the parameters replaced by name.  With each
parameter chosen as itself it has the declared types again, if each occurrence of a parameter
carries its declared constraint. -/
theorem ground_ofSignature {typeParams : List TypeParam} {args : List Ty} {output : Ty}
    (hnames : (typeParams.map (·.name)).Nodup)
    (hargs : ∀ arg ∈ args, arg.isClosedWithin 0 = true)
    (houtput : output.isClosedWithin 0 = true) :
  (∀ chosen : List Ty, chosen.length = typeParams.length →
      (ofSignature typeParams args output).ground chosen
        = ⟨false, [], args.map (Ty.substitute (.ofParams typeParams chosen)),
            output.substitute (.ofParams typeParams chosen)⟩)
    ∧ ((∀ arg ∈ args, arg.CarriesDeclared typeParams) → output.CarriesDeclared typeParams →
      (ofSignature typeParams args output).groundByName = ⟨false, [], args, output⟩)
  := by
  have hground : ∀ chosen : List Ty, chosen.length = typeParams.length →
      (ofSignature typeParams args output).ground chosen
        = ⟨false, [], args.map (Ty.substitute (.ofParams typeParams chosen)),
            output.substitute (.ofParams typeParams chosen)⟩ := by
    intro chosen hlength
    have key : ∀ type : Ty, type.isClosedWithin 0 = true →
        (type.internalize (typeParams.map (·.name)) 0).instantiate (chosen.map some)
          = type.substitute (.ofParams typeParams chosen) := fun type htype =>
      instantiate_internalize_ofParams hnames hlength htype
    have hformedArgs : ∀ arg ∈ args, arg.Formed .all 0 := fun arg harg =>
      formed_all_iff.mpr (hargs arg harg)
    have hformed : (ofSignature typeParams args output).toTy.Formed .all 0 :=
      formed_ofSignature hformedArgs (formed_all_iff.mpr houtput) (fun _ _ => id)
        fun _ _ => .inr trivial
    rw [ground_eq hformed]
    simp only [ofSignature, List.map_map, key output houtput, Function.comp_def]
    rw [List.map_congr_left fun arg harg => key arg (hargs arg harg)]
  refine ⟨hground, fun hcarry houtputCarries => ?_⟩
  have hself := hground (typeParams.map Ty.param) (by simp)
  rw [houtputCarries.substitute_eq,
    List.map_congr_left fun arg harg => (hcarry arg harg).substitute_eq, List.map_id'] at hself
  exact hself

/-- The type `<C>(C, A, <D>(D, C, B) -> A) -> List<E>`: inside a function type with a parameter of
its own stand the declared parameters `A` and `B`, also below a second such function type, and `E`,
which is none of them. -/
def nestedType (a b : Ty) : Ty :=
  .function false [⟨"C", none⟩]
    [.internal 0, a, .function false [⟨"D", none⟩] [.internal 0, .internal 1, b] a]
    (.list (.param ⟨"E", none⟩))

/-- What is declared for `<A, B: Data>` is grounded at any depth, and comes back for `A` and `B`
themselves. -/
theorem ground_ofSignature_nested :
  let typeParams : List TypeParam := [⟨"A", none⟩, ⟨"B", some .data⟩]
  let declared := nestedType (.param ⟨"A", none⟩) (.param ⟨"B", some .data⟩)
  (typeParams.map (·.name)).Nodup ∧ declared.isClosedWithin 0 = true
    ∧ declared.CarriesDeclared typeParams
    ∧ (ofSignature typeParams [declared] declared).ground [.internal 3, .list .boolean]
      = ⟨false, [], [nestedType (.internal 3) (.list .boolean)],
          nestedType (.internal 3) (.list .boolean)⟩
    ∧ (ofSignature typeParams [declared] declared).groundByName
      = ⟨false, [], [declared], declared⟩
  := by
  intro typeParams declared
  have hnames : (typeParams.map (·.name)).Nodup := by decide
  have hclosed : declared.isClosedWithin 0 = true := by decide
  have hargs : ∀ arg ∈ [declared], arg.isClosedWithin 0 = true :=
    List.forall_mem_singleton.mpr hclosed
  have hcarries : declared.CarriesDeclared typeParams := by
    unfold CarriesDeclared
    decide
  obtain ⟨hground, hself⟩ := ground_ofSignature hnames hargs hclosed
  exact ⟨hnames, hclosed, hcarries, hground _ rfl,
    hself (List.forall_mem_singleton.mpr hcarries) hcarries⟩

end FunctionType
end TypedModules
