import TypedModules.Proofs.Literal.Chain
import TypedModules.Proofs.Sound.Expr

/-!
# Literals keep to their types

A text that is a literal of a type denotes an inhabitant of the type.  A struct with one member
takes over the literals of the member's type; only its `requires` block may refuse what one of
them denotes.
-/

namespace TypedModules

/-- With arguments for the parameters of a struct, its members have the types that these make of
theirs when they are assigned to the parameters. -/
theorem StructHeader.Formed.substitute_members {library : Library} {header : StructHeader}
    (h : header.Formed library) {args : List Ty} (hlength : args.length = header.typeParams.length) :
  (header.members.map fun m => m.type.substitute (.ofParams header.typeParams args))
    = header.members.map fun m => m.type.assign (.ofArgs header.typeParams args)
  := List.map_congr_left fun m hm => substitute_eq_assign (h.members m hm) hlength

namespace Realm

variable {realm : Realm} {world : World} {ask : Request → Eval Value} {σ : Assignment}

/-! ### Structs with one member -/

/-- What is made of inhabitants of the types of the members inhabits the struct. -/
theorem inhabits_struct {isReference : Bool} {entity : Entity} {written : Reference}
    {args : List Ty} {header : StructHeader} {members : List Value}
    (hshape : realm.library.shape? entity = some header)
    (hmembers : realm.InhabitAll world members
      (header.members.map fun m => m.type.substitute (.ofParams header.typeParams args))) :
  realm.Inhabits world (.named isReference entity written args) (.struct header members)
  := by
  obtain ⟨hlength, hmembers⟩ := inhabitAll_map_iff.mp hmembers
  exact .struct hshape hlength hmembers

theorem yields_decodeStruct (hserves : realm.Serves ask) (hhosts : realm.Hosts)
    {isReference : Bool} {entity : Entity} {written : Reference} {args : List Ty} {struct : Struct}
    {member : Argument} {form : LiteralForm} {text : String}
    (hshape : realm.library.shape? entity = some struct.toStructHeader)
    (htyped : struct.Typed realm.library.surroundings)
    (hformed : (Ty.named isReference entity written args).Formed realm.library.openScope 0)
    (hmember : struct.members = [member])
    (hform : realm.library.HasForm
      (member.type.substitute (.ofParams struct.typeParams args)) form)
    (haccepts : form.accepts text = true) (hσ : σ.Formed realm.library.closedScope) :
  realm.Yields EvalCause.Tolerated world (decodeStruct ask struct member args text)
    ((Ty.named isReference entity written args).assign σ)
  := by
  rw [Ty.Formed, Ty.areFormed_iff] at hformed
  rw [Ty.assign, Ty.assignAll_eq_map]
  obtain ⟨hheader, harity⟩ := Library.formed_shape? realm.formed hshape
  have hlength := Library.Arity.unique realm.formed hformed.1 harity
  have htype := hheader.members member (hmember ▸ List.mem_singleton.mpr rfl)
  have hmemberFormed := formed_substitute_ofParams htype (fun _ _ h => h) hlength hformed.2
  have hdecoded := @Serves.literal _ _ hserves world _ _ _ _ hmemberFormed hform haccepts hσ
  rw [assign_substitute_ofParams htype hlength] at hdecoded
  refine hdecoded.bind fun after _ value hvalue => ?_
  have hmembers : realm.InhabitAll after [value] (struct.members.map fun m =>
      m.type.substitute (.ofParams struct.typeParams (args.map (Ty.assign σ)))) := by
    rw [hmember]
    exact .cons hvalue .nil
  have hresult : ∀ {later : World}, after <+: later → realm.Inhabits later
      (.named isReference entity written (args.map (Ty.assign σ)))
      (.struct struct.toStructHeader [value]) :=
    fun hgrows => inhabits_struct hshape (hmembers.grow hgrows)
  split
  next requires hblock =>
    obtain ⟨hbody, hboolean⟩ := htyped.requires requires hblock
    have hargs : ∀ a ∈ args.map (Ty.assign σ), a.Formed realm.library.closedScope 0 :=
      List.forall_mem_map.mpr fun a ha => (hformed.2 a ha).assigned hσ
    rw [hheader.substitute_members (by simpa using hlength)] at hmembers
    have hholds := keeps_satisfies hserves hhosts (Assignment.formed_ofArgs hargs) hmembers rfl
      hbody hboolean
    refine hholds.bind fun later hgrows holds _ => ?_
    have hrefused : realm.Keeps EvalCause.Tolerated later
        (Eval.fail (.requiresFailed struct.id.text text) : Eval PUnit) fun _ _ => False :=
      keeps_fail (.refused struct.id.text text)
    apply keeps_ite
    · exact fun _ => keeps_pure (hresult hgrows)
    · exact fun _ => hrefused.bind fun _ _ _ hfalse => hfalse.elim
  next => exact keeps_pure (hresult (List.prefix_refl after))

/-- What a literal at the end of no chain denotes inhabits its type. -/
theorem yields_primitive {program : Program} {type : Ty} {form : LiteralForm} {text : String}
    (hchain : program.Chain type [] form) (haccepts : form.accepts text = true) :
  realm.Yields EvalCause.Tolerated world (decode program ask type text) (type.assign σ)
  := by
  obtain ⟨value, hvalue⟩ := form.exists_value? haccepts
  rw [decode_eq_pure hchain haccepts hvalue]
  cases hchain with
  | string isReference written args =>
    cases hvalue
    exact yields_pure (.string text)
  | integer =>
    obtain ⟨n, -, rfl⟩ := Option.map_eq_some_iff.mp hvalue
    exact yields_pure (.integer n)
  | natural =>
    obtain ⟨n, -, rfl⟩ := Option.map_eq_some_iff.mp hvalue
    exact yields_pure (.natural n)
  | boolean =>
    obtain ⟨b, -, rfl⟩ := Option.map_eq_some_iff.mp hvalue
    exact yields_pure (.boolean b)

/-- A text that is a literal of a type denotes an inhabitant of the type. -/
theorem yields_decode (hserves : realm.Serves ask) (hhosts : realm.Hosts) {program : Program}
    (haccepted : Accepted program.module) (hlibrary : realm.library = program.module.library)
    {type : Ty} {form : LiteralForm} {text : String} (hformed : type.Formed realm.library.openScope 0)
    (hform : realm.library.HasForm type form) (haccepts : form.accepts text = true)
    (hσ : σ.Formed realm.library.closedScope) :
  realm.Yields EvalCause.Tolerated world (decode program ask type text) (type.assign σ)
  := by
  cases hform with
  | integer => exact yields_primitive .integer haccepts
  | natural => exact yields_primitive .natural haccepts
  | boolean => exact yields_primitive .boolean haccepts
  | string isReference written args =>
    exact yields_primitive (.string isReference written args) haccepts
  | struct hentity hd hheader hmember hform =>
    rw [hlibrary] at hd
    obtain ⟨struct, hstruct, rfl⟩ := Program.exists_struct? hd hheader
    have hshape := Library.shape?_of_struct? hd hheader
    have htyped := haccepted.typed_struct hstruct
    rw [← hlibrary] at hshape htyped
    rw [stringEntity] at hentity
    simp only [decode, if_neg hentity, hstruct, hmember]
    exact yields_decodeStruct hserves hhosts hshape htyped hformed hmember hform haccepts hσ

end Realm
end TypedModules
