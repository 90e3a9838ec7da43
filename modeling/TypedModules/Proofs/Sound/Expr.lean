import TypedModules.Proofs.Eval.Environment
import TypedModules.Proofs.Sound.Assigned

/-!
# Expressions keep to their types

A well typed expression yields an inhabitant of its type, with types assigned to the parameters
around it, where the visible variables stand for inhabitants of theirs and requests are answered as
their types say: `computes`, by induction on the tree.  What is evaluated first creates list
builders, so each value has to stay an inhabitant until the last part is evaluated.
-/

namespace TypedModules

namespace FunctionType

/-- What is open in front is not bound. -/
theorem unbound_open_append {α β : Type} (front back : List β) {bound : List α}
    (hlength : bound.length = back.length) :
  unbound (List.replicate front.length none ++ bound.map some) (front ++ back) = front
  := by
  induction front with
  | nil => exact unbound_map_some bound hlength
  | cons item front ih =>
    rw [List.length_cons, List.replicate_succ, List.cons_append, List.cons_append, unbound_none, ih]

end FunctionType

namespace Realm

variable {realm : Realm} {world later : World} {ask : Request → Eval Value} {σ : Assignment}
  {vars : Variables} {env : Environment}

/-- Whether each visible variable stands for an inhabitant of its type. -/
def Provides (realm : Realm) (σ : Assignment) (world : World) (env : Environment)
    (vars : Variables) : Prop :=
  env.Covers (fun type value => realm.Inhabits world (type.assign σ) value) vars

theorem Provides.grow (hgrows : world <+: later) (h : realm.Provides σ world env vars) :
  realm.Provides σ later env vars
  := h.imp fun _ _ hvalue => hvalue.grow hgrows

/-- Whether what is evaluated in an environment yields an inhabitant of a type, wherever the
visible variables are provided. -/
def Computes (realm : Realm) (σ : Assignment) (vars : Variables) (type : Ty)
    (run : Environment → Eval Value) : Prop :=
  ∀ world env, realm.Provides σ world env vars →
    realm.Yields EvalCause.Tolerated world (run env) (type.assign σ)

/-! ### Lists of expressions -/

theorem keeps_evalExprs {exprs : List Expr}
    (h : ∀ e ∈ exprs, realm.Computes σ vars e.type fun env => e.eval ask env)
    (henv : realm.Provides σ world env vars) :
  realm.Keeps EvalCause.Tolerated world (evalExprs ask env exprs) fun after values =>
    realm.InhabitAll after values ((exprs.map (·.type)).map (Ty.assign σ))
  := by
  induction exprs generalizing world with
  | nil => exact keeps_pure .nil
  | cons expr rest ih =>
    rw [List.forall_mem_cons] at h
    refine (h.1 world env henv).bind fun after hgrows value hvalue => ?_
    refine (ih h.2 (henv.grow hgrows)).bind fun last hlast values hvalues => ?_
    exact keeps_pure (.cons (hvalue.grow hlast) hvalues)

theorem keeps_evalSlots {slots : List (Option Expr)}
    (h : ∀ e, some e ∈ slots → realm.Computes σ vars e.type fun env => e.eval ask env)
    (henv : realm.Provides σ world env vars) :
  realm.Keeps EvalCause.Tolerated world (evalSlots ask env slots) fun after values =>
    realm.Supplies σ after values (slots.map fun slot => slot.map (·.type))
  := by
  induction slots generalizing world with
  | nil => exact keeps_pure .nil
  | cons slot rest ih =>
    have ih := fun {world} => @ih world fun e he => h e (List.mem_cons_of_mem _ he)
    cases slot with
    | none =>
      exact (ih henv).bind fun _ _ values hvalues => keeps_pure (.cons .none hvalues)
    | some expr =>
      refine (h expr List.mem_cons_self world env henv).bind fun after hgrows value hvalue => ?_
      refine (ih (henv.grow hgrows)).bind fun last hlast values hvalues => ?_
      exact keeps_pure (.cons (.some (hvalue.grow hlast)) hvalues)

/-! ### Variables -/

theorem yields_get (henv : realm.Provides σ world env vars) {name : String} {type : Ty}
    (htype : vars.type? name = some type) :
  realm.Yields EvalCause.Tolerated world (env.get name) (type.assign σ)
  := by
  obtain ⟨value, hlookup, hvalue⟩ := henv name type htype
  rw [Environment.get, hlookup]
  exact yields_pure hvalue

/-! ### Members -/

section Members

variable {isReference : Bool} {entity : Entity} {written : Reference} {args : List Ty}
  {value : Value} {name : String} {type : Ty}

/-- The member with a name of a struct or an adapter has the type of the name. -/
theorem Inhabits.exists_structMember {header : StructHeader}
    (hshape : realm.library.shape? entity = some header)
    (hmember : header.memberType? args name = some type)
    (h : realm.Inhabits world (.named isReference entity written args) value) :
  ∃ member, value.member? name = some member ∧ realm.Inhabits world type member
  := by
  obtain ⟨members, rfl, hmembers⟩ := h.exists_struct hshape
  obtain ⟨declared, hfind, rfl⟩ := Option.map_eq_some_iff.mp hmember
  rw [List.find?_eq_bind_findIdx?_getElem?] at hfind
  obtain ⟨index, hindex, hdeclared⟩ := Option.bind_eq_some_iff.mp hfind
  have htype : (header.members.map fun m =>
      m.type.substitute (.ofParams header.typeParams args))[index]?
        = some (declared.type.substitute (.ofParams header.typeParams args)) := by
    rw [List.getElem?_map, hdeclared, Option.map_some]
  obtain ⟨member, hget, hmember⟩ := exists_related_getElem? hmembers htype
  refine ⟨member, ?_, hmember⟩
  simp only [Value.member?, StructHeader.memberIndex?, hindex, Option.bind_some, hget]

/-- The method with a name of an instance has the type of the name. -/
theorem Inhabits.exists_method {interface : Interface}
    (hinterface : realm.library.interface? entity = some interface)
    (hmember : interface.methodType? args name = some type)
    (h : realm.Inhabits world (.named isReference entity written args) value) :
  ∃ member, value.member? name = some member ∧ realm.Inhabits world type member
  := by
  obtain ⟨methods, rfl, hmethods⟩ := h.exists_object hinterface
  obtain ⟨declared, hfind, rfl⟩ := Option.map_eq_some_iff.mp hmember
  rw [List.find?_eq_bind_findIdx?_getElem?] at hfind
  obtain ⟨index, hindex, hdeclared⟩ := Option.bind_eq_some_iff.mp hfind
  have htype : (interface.methods.map fun m =>
      m.functionType.toTy.substitute (.ofParams interface.typeParams args))[index]?
        = some (declared.functionType.toTy.substitute (.ofParams interface.typeParams args)) := by
    rw [List.getElem?_map, hdeclared, Option.map_some]
  obtain ⟨member, hget, hmember⟩ := exists_related_getElem? hmethods htype
  rw [List.getElem?_map] at hget
  obtain ⟨binding, hget, rfl⟩ := Option.map_eq_some_iff.mp hget
  refine ⟨.function binding, ?_, hmember⟩
  simp only [Value.member?, Interface.methodIndex?, hindex, Option.bind_some, hget]

/-- A member of a value has the type that its name has in the type of the value. -/
theorem Inhabits.exists_member
    (hformed : (Ty.named isReference entity written args).Formed realm.library.openScope 0)
    (hmember : realm.library.HasMember (.named isReference entity written args) name type)
    (h : realm.Inhabits world ((Ty.named isReference entity written args).assign σ) value) :
  ∃ member, value.member? name = some member ∧ realm.Inhabits world (type.assign σ) member
  := by
  rw [Ty.assign, Ty.assignAll_eq_map] at h
  obtain ⟨header, hshape, hmember⟩ | ⟨interface, hinterface, hmember⟩ := hmember.cases
  · obtain ⟨hheader, harity⟩ := Library.formed_shape? realm.formed hshape
    have hlength := Library.Arity.unique realm.formed hformed.1 harity
    apply h.exists_structMember hshape
    obtain ⟨declared, hfind, rfl⟩ := Option.map_eq_some_iff.mp hmember
    have hdeclared := hheader.members declared (List.mem_of_find?_eq_some hfind)
    rw [StructHeader.memberType?, hfind, Option.map_some,
      assign_substitute_ofParams hdeclared hlength]
  · obtain ⟨hheader, harity⟩ := Library.formed_interface? realm.formed hinterface
    have hlength := Library.Arity.unique realm.formed hformed.1 harity
    apply h.exists_method hinterface
    obtain ⟨declared, hfind, rfl⟩ := Option.map_eq_some_iff.mp hmember
    have hdeclared := hheader.methods declared (List.mem_of_find?_eq_some hfind)
    rw [Interface.methodType?, hfind, Option.map_some,
      assign_substitute_ofParams hdeclared.functionType hlength]

end Members

theorem yields_follow {receiver type : Ty} {value : Value} {name : String}
    (hformed : receiver.Formed realm.library.openScope 0)
    (hmember : realm.library.HasMember receiver name type)
    (h : realm.Inhabits world (receiver.assign σ) value) :
  realm.Yields EvalCause.Tolerated world (value.follow name) (type.assign σ)
  := by
  obtain ⟨_, _, _, _, _, rfl, -⟩ := id hmember
  obtain ⟨member, hfound, hmember⟩ := h.exists_member hformed hmember
  rw [Value.follow, hfound]
  exact yields_pure hmember

/-! ### Closures -/

/-- A binding that can be called, with its last slots filled, can be applied to the first. -/
theorem applies_of_last {base binding : Binding} {front back : List Ty} {result : Ty}
    {values : List Value} (hbase : realm.callable world base (front ++ back) result)
    (hopen : base.slots = List.replicate (front ++ back).length none)
    (hvalues : realm.InhabitAll world values back) (htarget : binding.target = base.target)
    (hslots : binding.slots = List.replicate front.length none ++ values.map some) :
  realm.Applies world binding front result
  := by
  have hlength := hvalues.length_eq
  have hfilled : base.slots
      = List.replicate (List.replicate front.length none ++ values.map some).length none := by
    rw [hopen]
    simp [hlength]
  have hfit : SlotsFit (realm.Inhabits world) (List.replicate front.length none ++ values.map some)
      (front ++ back) :=
    List.rel_append (SlotsFit.replicate front) (SlotsFit.map_some_iff.mpr hvalues)
  refine .intro hbase htarget ?_ hfit ?_ (Ty.same_refl result)
  · rw [hfilled, hslots, Binding.fillSlots_replicate]
  · rw [FunctionType.unbound_open_append front back hlength]
    exact Ty.sameAll_refl front

/-- A closure is made of the variables that it captures, and can be applied as it is written. -/
theorem yields_bind (hhosts : realm.Hosts) (hσ : σ.Formed realm.library.closedScope)
    {closure : Closure} (isReference : Bool)
    (hbody : closure.body.Typed realm.library.surroundings (closure.args ++ closure.captures))
    (hsame : closure.body.type.same closure.output = true)
    (hcaptures : ∀ c ∈ closure.captures, vars.type? c.name = some c.type)
    (henv : realm.Provides σ world env vars) :
  realm.Yields EvalCause.Tolerated world (return .function (← closure.bind env))
    ((Ty.function isReference [] (closure.args.map (·.type)) closure.output).assign σ)
  := by
  have hcaptured : realm.Keeps EvalCause.Tolerated world
      (closure.captures.mapM fun v => env.get v.name) fun after values =>
        List.Forall₂ (fun c v => realm.Inhabits after (c.type.assign σ) v) closure.captures values := by
    refine Discipline.keeps_mapM (fun hgrows _ _ hv => hv.grow hgrows) fun after hgrows c hc => ?_
    exact yields_get (henv.grow hgrows) (hcaptures c hc)
  have hbound : realm.Keeps EvalCause.Tolerated world (closure.bind env) fun after binding =>
      realm.Applies after binding (closure.args.map fun a => a.type.assign σ)
        (closure.output.assign σ) := by
    refine hcaptured.bind fun after _ values hvalues => keeps_pure ?_
    have hmade := @hhosts after _ _ _ (.closure hbody hsame hσ)
    rw [List.map_append] at hmade
    have hall : realm.InhabitAll after values (closure.captures.map fun c => c.type.assign σ) :=
      List.forall₂_map_right_iff.mpr hvalues.flip
    exact applies_of_last hmade (by simp [Binding.slots]) hall rfl (by simp [Binding.slots])
  refine hbound.bind fun after _ binding hbinding => yields_pure ?_
  refine (@inhabits_toTy_iff realm after ⟨isReference, [], _, _⟩ _).mpr
    ⟨binding, rfl, fun chosen _ => ?_⟩
  simpa [FunctionType.ground, FunctionType.isGround, Function.comp_def] using hbinding

/-! ### Statements -/

theorem keeps_exec {statement : Stmt} {around : Surroundings}
    (ih : statement.value.Typed around vars →
      realm.Computes σ vars statement.value.type fun env => statement.value.eval ask env)
    (htyped : statement.Typed around vars) (henv : realm.Provides σ world env vars) :
  realm.Keeps EvalCause.Tolerated world (statement.exec ask env) fun after env =>
    realm.Provides σ after env (vars ++ statement.declared)
  := by
  cases statement with
  | assign name type value =>
    obtain ⟨-, hvalue, rfl⟩ := htyped
    refine (ih hvalue world env henv).bind fun after hgrows v hv => keeps_pure ?_
    exact (henv.grow hgrows).define hv
  | bare value =>
    refine (ih htyped world env henv).bind fun after hgrows _ _ => keeps_pure ?_
    rw [Stmt.declared, List.append_nil]
    exact henv.grow hgrows

theorem keeps_execStmts {statements : List Stmt} {around : Surroundings}
    (ih : ∀ s ∈ statements, ∀ vars, s.value.Typed around vars →
      realm.Computes σ vars s.value.type fun env => s.value.eval ask env)
    (htyped : StmtsTyped around vars statements) (henv : realm.Provides σ world env vars) :
  realm.Keeps EvalCause.Tolerated world (execStmts ask env statements) fun after env =>
    realm.Provides σ after env (vars ++ declaredBy statements)
  := by
  induction statements generalizing world env vars with
  | nil =>
    rw [declaredBy, List.flatMap_nil, List.append_nil]
    exact keeps_pure henv
  | cons statement rest ihRest =>
    rw [List.forall_mem_cons] at ih
    refine (keeps_exec (ih.1 vars) htyped.1 henv).bind fun after _ env henv => ?_
    rw [declaredBy, List.flatMap_cons, ← List.append_assoc]
    exact ihRest ih.2 htyped.2 henv

/-! ### Calls -/

section Calls

variable {function : FunctionType} (hσ : σ.Formed realm.library.closedScope)
  (hformed : function.toTy.Formed realm.library.openScope 0)

include hσ hformed

/-- A function that is called is applied to what its type takes. -/
theorem yields_apply (hserves : realm.Serves ask) {chosen types : List Ty} {type : Ty}
    (hcalls : function.Calls realm.library chosen types type) {binding : Binding}
    (happlies : ∀ all, realm.Choice (function.assign σ).typeParams.length all →
      realm.Applies world binding ((function.assign σ).ground all).args
        ((function.assign σ).ground all).output)
    {args : List Value} (hargs : realm.InhabitAll world args (types.map (Ty.assign σ))) :
  realm.Yields EvalCause.Tolerated world (ask (.apply binding args)) (type.assign σ)
  := by
  have hanswer := hserves.apply _ _ _ _ _ (happlies _ (choice_of_calls hσ hcalls))
    (hargs.same (sameAll_of_calls hσ hcalls hformed))
  rwa [output_of_calls hσ hcalls hformed] at hanswer

/-- A function that is bound further can be applied to what is left. -/
theorem yields_fill {chosen supplied : List (Option Ty)} {type : Ty}
    (hbinds : function.Binds realm.library chosen supplied type) {binding : Binding}
    (happlies : ∀ all, realm.Choice (function.assign σ).typeParams.length all →
      realm.Applies world binding ((function.assign σ).ground all).args
        ((function.assign σ).ground all).output)
    {values : List (Option Value)} (hvalues : realm.Supplies σ world values supplied) :
  realm.Yields EvalCause.Tolerated world (return .function (← binding.fill values))
    (type.assign σ)
  := by
  have hcount := openSlots_of_binds hσ hformed hbinds happlies hvalues
  have hfill : binding.fill values
      = pure (.mk binding.target (Binding.fillSlots binding.slots values) binding.chosen) := by
    rw [Binding.fill, Binding.fill?, if_pos hcount.symm]
  rw [hfill, pure_bind]
  exact yields_pure (inhabits_of_binds hσ hformed hbinds happlies hvalues rfl rfl)

end Calls

/-- Whatever has a signature can be bound, and takes what its signature says. -/
theorem inhabits_entity (hhosts : realm.Hosts) (hσ : σ.Formed realm.library.closedScope)
    {entry : Visible} {signature : Signature} (hdeclares : realm.library.Declares entry)
    (hsignature : realm.library.signature? entry = some signature)
    {chosen supplied : List (Option Ty)} {type : Ty}
    (hbinds : signature.functionType.Binds realm.library chosen supplied type)
    {values : List (Option Value)} (hvalues : realm.Supplies σ world values supplied)
    (written : List (Option Ty)) :
  realm.Inhabits world (type.assign σ) (.function (.mk (.entity entry.entity) values written))
  := by
  have hformed := realm.formed.signature hsignature
  have happlies : ∀ all,
      realm.Choice (signature.functionType.assign σ).typeParams.length all →
      realm.Applies world (.mk (.entity entry.entity) (List.replicate signature.args.length none) [])
        ((signature.functionType.assign σ).ground all).args
        ((signature.functionType.assign σ).ground all).output := by
    rw [hformed.assign_functionType]
    intro all hall
    have hcount : all.length = signature.typeParams.length := hall.count
    exact applies_of_callable (hhosts (.entity hdeclares hsignature hcount hall.formed))
  have hcount := openSlots_of_binds hσ hformed.open hbinds happlies hvalues
  refine inhabits_of_binds hσ hformed.open hbinds happlies hvalues rfl ?_
  have hlength : signature.args.length = values.length := by
    simpa [Binding.openSlots, Binding.slots, List.countP_replicate] using hcount
  rw [Binding.slots, Binding.slots, hlength, Binding.fillSlots_replicate]

/-! ### Trees -/

/-- Every tree computes an inhabitant of its type. -/
theorem computes (hserves : realm.Serves ask) (hhosts : realm.Hosts)
    (hσ : σ.Formed realm.library.closedScope) :
  (∀ (expr : Expr) (vars : Variables), expr.Typed realm.library.surroundings vars →
      realm.Computes σ vars expr.type fun env => expr.eval ask env)
    ∧ ∀ (block : Block) (vars : Variables), block.Typed realm.library.surroundings vars →
      realm.Computes σ vars block.type fun env => block.eval ask env
  := by
  apply tree_induction
  case name =>
    rintro type aliasing name vars ⟨-, htype⟩ world env henv
    exact yields_get henv htype
  case literal =>
    rintro type aliasing text vars ⟨hformed, form, hform, haccepts⟩ world env -
    exact hserves.literal hformed hform haccepts hσ
  case list =>
    rintro type aliasing items element ih vars ⟨-, rfl, hitems, hsame⟩ world env henv
    rw [areTyped_iff] at hitems
    have hvalues := keeps_evalExprs (fun item hitem => ih item hitem vars (hitems item hitem)) henv
    refine hvalues.bind fun after _ values hvalues => yields_pure (.list fun value hvalue => ?_)
    rw [List.map_map] at hvalues
    obtain ⟨_, hmem, hvalue⟩ := exists_related_right hvalues hvalue
    obtain ⟨item, hitem, rfl⟩ := List.mem_map.mp hmem
    exact hvalue.same (Ty.same_assign (hsame item hitem) σ)
  case follow =>
    rintro type aliasing receiver member ih vars ⟨-, hreceiver, hmember⟩ world env henv
    refine (ih vars hreceiver world env henv).bind fun after _ value hvalue => ?_
    exact yields_follow hreceiver.formed hmember hvalue
  case call =>
    rintro type aliasing function entity args chosen ih vars
      ⟨-, hargs, entry, signature, hdeclares, rfl, hsignature, hcalls⟩ world env henv
    rw [areTyped_iff] at hargs
    have hvalues := keeps_evalExprs (fun arg harg => ih arg harg vars (hargs arg harg)) henv
    refine hvalues.bind fun after _ values hvalues => ?_
    have hformed := realm.formed.signature hsignature
    have hchoice := choice_of_calls hσ hcalls
    have hsame := sameAll_of_calls hσ hcalls hformed.open
    have houtput := output_of_calls hσ hcalls hformed.open
    rw [hformed.assign_functionType] at hchoice hsame houtput
    have hanswer := hserves.call hdeclares hsignature hchoice (hvalues.same hsame)
    rwa [houtput] at hanswer
  case callValue =>
    rintro type aliasing function args chosen ih ihs vars
      ⟨-, hfunction, hargs, functionType, htype, hcalls⟩ world env henv
    rw [areTyped_iff] at hargs
    have hformed := hfunction.formed
    have hcallee := ih vars hfunction world env henv
    rw [Ty.eq_toTy_of_function? htype] at hformed hcallee
    rw [FunctionType.assign_toTy] at hcallee
    have hvalues := fun {after} (hgrows : world <+: after) => keeps_evalExprs
      (fun arg harg => ihs arg harg vars (hargs arg harg)) (henv.grow hgrows)
    refine hcallee.bind fun after hgrows value hvalue => ?_
    obtain ⟨binding, rfl, happlies⟩ := inhabits_toTy_iff.mp hvalue
    refine (hvalues hgrows).bind fun last hlast values hvalues => ?_
    exact yields_apply hσ hformed hserves hcalls (fun all hall => (happlies all hall).grow hlast)
      hvalues
  case bind =>
    rintro type aliasing function entity slots chosen ih vars
      ⟨-, hslots, entry, signature, hdeclares, rfl, hsignature, hbinds⟩ world env henv
    rw [slotsTyped_iff] at hslots
    have hvalues := keeps_evalSlots (fun e he => ih e he vars (hslots e he)) henv
    refine hvalues.bind fun after _ values hvalues => yields_pure ?_
    exact inhabits_entity hhosts hσ hdeclares hsignature hbinds hvalues chosen
  case bindValue =>
    rintro type aliasing function slots chosen ih ihs vars
      ⟨-, hfunction, hslots, functionType, htype, hbinds⟩ world env henv
    rw [slotsTyped_iff] at hslots
    have hformed := hfunction.formed
    have hcallee := ih vars hfunction world env henv
    rw [Ty.eq_toTy_of_function? htype] at hformed hcallee
    rw [FunctionType.assign_toTy] at hcallee
    have hvalues := fun {after} (hgrows : world <+: after) => keeps_evalSlots
      (fun e he => ihs e he vars (hslots e he)) (henv.grow hgrows)
    refine hcallee.bind fun after hgrows value hvalue => ?_
    obtain ⟨binding, rfl, happlies⟩ := inhabits_toTy_iff.mp hvalue
    refine (hvalues hgrows).bind fun last hlast values hvalues => ?_
    exact yields_fill hσ hformed hbinds (fun all hall => (happlies all hall).grow hlast) hvalues
  case ifThen =>
    rintro type aliasing condition thenBlock elseBlock ih ihThen ihElse vars
      ⟨-, hcondition, hboolean, hthen, hsame, helse, hsame'⟩ world env henv
    have hholds := (ih vars hcondition world env henv).same (Ty.same_assign hboolean σ)
    refine hholds.bind fun after hgrows value hvalue => ?_
    obtain ⟨holds, rfl⟩ := hvalue.exists_boolean
    apply keeps_ite
    · exact fun _ => (ihThen vars hthen after env (henv.grow hgrows)).same (Ty.same_assign hsame σ)
    · exact fun _ => (ihElse vars helse after env (henv.grow hgrows)).same (Ty.same_assign hsame' σ)
  case closure =>
    rintro type aliasing site args captures output body - vars
      ⟨-, -, hnew, hcaptures, hbody, hsame, rfl⟩ world env henv
    exact yields_bind hhosts hσ _ (hcaptures.typed_body hnew hbody) hsame hcaptures.types henv
  case block =>
    rintro statements last ih ihLast vars ⟨hstatements, hlast⟩ world env henv
    have hexec := keeps_execStmts ih hstatements henv.push
    exact hexec.bind fun after _ env henv => ihLast _ hlast after env henv

/-! ### Bodies -/

section Bodies

variable (hserves : realm.Serves ask) (hhosts : realm.Hosts)
  (hσ : σ.Formed realm.library.closedScope) {args : List Argument} {values : List Value}
  (hvalues : realm.InhabitAll world values (args.map fun a => a.type.assign σ))

include hserves hhosts hσ hvalues

/-- A well typed body yields what it declares, given what its arguments declare. -/
theorem yields_callBody {body : Block} {output : Ty}
    (hbody : body.Typed realm.library.surroundings args) (hsame : body.type.same output = true) :
  realm.Yields EvalCause.Tolerated world (callBody ask args body values) (output.assign σ)
  := by
  have henv : realm.Provides σ world (.ofBindings ((args.map (·.name)).zip values)) args := by
    have hflip := (List.forall₂_map_right_iff.mp hvalues).flip
    exact Environment.covers_ofBindings hflip
  have hblock := (computes hserves hhosts hσ).2 body args hbody world _ henv
  exact hblock.same (Ty.same_assign hsame σ)

/-- A `requires` block tells whether members satisfy it. -/
theorem keeps_satisfies {header : StructHeader} (hargs : header.members = args) {requires : Block}
    (htyped : requires.Typed realm.library.surroundings args)
    (hboolean : requires.type.same .boolean = true) :
  realm.Keeps EvalCause.Tolerated world (satisfies ask header requires values) fun _ _ => True
  := by
  subst hargs
  refine (yields_callBody hserves hhosts hσ hvalues htyped hboolean).bind fun _ _ value hvalue => ?_
  obtain ⟨holds, rfl⟩ := hvalue.exists_boolean
  exact keeps_pure trivial

end Bodies

end Realm
end TypedModules
