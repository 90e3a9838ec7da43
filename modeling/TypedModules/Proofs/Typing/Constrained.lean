import Mathlib
import TypedModules.Proofs.Declared.Constrained
import TypedModules.Proofs.Renamed.Module
import TypedModules.Proofs.Typing.Scoped

/-!
# Constraints in an accepted module

What is chosen for the type parameters of plain data of a callee, whether written or revealed, is
plain data.  For the arguments of named types that holds only where it holds of the types that a
module and what it reaches write themselves, which nothing makes sure of: then all types that occur
in the module are constrained, and no inference, no choice and no member brings in one that is not.
-/

namespace TypedModules

open Check Ty

/-! ### Type parameters in scope -/

namespace Setting

variable {setting : Setting}

theorem isDataBy_within (typeParams : List TypeParam) (unfold : Entity → List Ty → Bool)
    (type : Ty) :
  (setting.within typeParams).isDataBy unfold type = setting.isDataBy unfold type
  := by
  induction type using type_induction with
  | integer | natural | boolean | function | param | internal => rfl
  | list element ih | tryOf element ih => exact ih
  | named isReference entity written params ih =>
    have hparams : (setting.within typeParams).areDataBy unfold params
        = setting.areDataBy unfold params := by
      rw [areDataBy_eq_all, areDataBy_eq_all, Bool.eq_iff_iff, List.all_eq_true, List.all_eq_true]
      exact forall₂_congr fun param hparam => by rw [ih param hparam]
    unfold isDataBy
    rw [hparams]
    rfl

theorem isDataWithin_within (typeParams : List TypeParam) (depth : Nat) (visiting : List Entity) :
  (setting.within typeParams).isDataWithin depth visiting = setting.isDataWithin depth visiting
  := by
  induction depth generalizing visiting with
  | zero => rfl
  | succ depth ih =>
    funext type
    simp only [isDataWithin, ih]
    exact isDataBy_within typeParams _ type

/-- Whether a type is plain data does not depend on the type parameters in scope. -/
theorem isData_within (typeParams : List TypeParam) (type : Ty) :
  (setting.within typeParams).isData type = setting.isData type
  := congrFun (isDataWithin_within typeParams _ _) type

theorem Fits.of_within {typeParams params : List TypeParam} {chosen : List (Option Ty)}
    (h : (setting.within typeParams).Fits params chosen) :
  setting.Fits params chosen
  := by
  intro choice hchoice type hsome hdata
  rw [← isData_within typeParams]
  exact h choice hchoice type hsome hdata

end Setting

/-! ### Choices -/

section Choices

variable {setting : Setting} {callee : String} {location : Option Location}

/-- What is chosen for a type parameter of plain data is plain data. -/
theorem data_of_checkChoice {param : TypeParam} {type : Ty} {fits : Bool}
    (hp : (checkChoice setting callee location param type).Passes fits)
    (hdata : param.typeClass = some .data) :
  setting.isData type = true
  := by
  have hvalue := value_of_checkChoice hp
  by_contra h
  simp [checkChoice, hvalue, hdata, h] at hp

theorem fits_of_checkChoices {params : List TypeParam} {chosen : List (Option Ty)} {fits : Bool}
    (hp : (checkChoices setting callee location params chosen).Passes fits) :
  setting.Fits params chosen
  := by
  induction chosen generalizing params fits with
  | nil => simp [Setting.Fits]
  | cons first chosen ih =>
    cases params with
    | nil => simp [Setting.Fits]
    | cons param params =>
      rw [Setting.Fits, List.zip_cons_cons, List.forall_mem_cons]
      cases first with
      | none => exact ⟨nofun, ih hp⟩
      | some type =>
        simp only [checkChoices, passes_bind] at hp
        obtain ⟨_, hfirst, _, hothers, -⟩ := hp
        refine ⟨?_, ih hothers⟩
        rintro _ ⟨⟩ hdata
        exact data_of_checkChoice hfirst hdata

theorem fits_of_groundCall {function : FunctionType} {written : List (Option Ty)}
    {args : List Expr} {chosen : List Ty} {ground : FunctionType}
    (hp : (groundCall setting function written args callee location).Passes (chosen, ground)) :
  setting.Fits function.typeParams (chosen.map some)
  := by
  obtain ⟨-, ⟨_, hchoices⟩, -⟩ := passes_groundCall hp
  exact fits_of_checkChoices hchoices

theorem fits_of_bindFunction {function : FunctionType} {written : List (Option Ty)}
    {slots : List (Option Expr)} {chosen : List (Option Ty)} {bound : FunctionType}
    (hp : (bindFunction setting function written slots callee location).Passes (chosen, bound)) :
  setting.Fits function.typeParams chosen
  := by
  obtain ⟨-, ⟨_, hchoices⟩, -⟩ := passes_bindFunction hp
  exact fits_of_checkChoices hchoices

end Choices

/-! ### Calls and bindings -/

/-- Whether what is chosen at a call or a binding is plain data for the type parameters of plain
data of what is called or bound. -/
def Node.Fits (setting : Setting) (around : Surroundings) : Node → Prop
  | .call reference entity _ chosen =>
    ∃ entry signature, around.resolves reference entry ∧ entry.entity = entity
      ∧ around.library.signature? entry = some signature
      ∧ setting.Fits signature.typeParams (chosen.map some)
  | .bind reference entity _ chosen =>
    ∃ entry signature, around.resolves reference entry ∧ entry.entity = entity
      ∧ around.library.signature? entry = some signature
      ∧ setting.Fits signature.typeParams chosen
  | .callValue value _ chosen =>
    ∃ function, value.type.function? = some function
      ∧ setting.Fits function.typeParams (chosen.map some)
  | .bindValue value _ chosen =>
    ∃ function, value.type.function? = some function ∧ setting.Fits function.typeParams chosen
  | _ => True

/-- The rules of the checker leave only what fits at calls and bindings. -/
theorem carries_fits {setting : Setting} {typeParams : List TypeParam} {around : Surroundings}
    (h : (setting.within typeParams).Within around) :
  (setting.within typeParams).Carries
    (fun _ _ expr => ∀ part ∈ expr.parts, part.node.Fits setting around)
    fun _ _ block => ∀ part ∈ block.parts, part.node.Fits setting around
  := by
  have hslots : ∀ {written : List (Option SourceExpr)} {slots : List (Option Expr)},
      List.Forall₂ (Option.Rel fun _ expr => ∀ part ∈ expr.parts, part.node.Fits setting around)
        written slots →
      ∀ expr ∈ slots.reduceOption, ∀ part ∈ expr.parts, part.node.Fits setting around :=
    fun hrelated expr hexpr =>
      forall_some_of_related hrelated (fun _ _ => id) expr (List.reduceOption_mem_iff.mp hexpr)
  constructor
  case name =>
    exact fun _ => forall_parts trivial (List.forall_mem_nil _) (List.forall_mem_nil _)
  case literal =>
    exact fun _ _ _ => forall_parts trivial (List.forall_mem_nil _) (List.forall_mem_nil _)
  case list =>
    intro vars written element location items type htype hvalue hitems hsame
    exact forall_parts trivial (forall_of_related hitems fun _ _ => id) (List.forall_mem_nil _)
  case follow =>
    intro vars written member location receiver type hreceiver htype
    exact forall_parts trivial (List.forall_mem_singleton.mpr hreceiver) (List.forall_mem_nil _)
  case call =>
    intro vars reference written choices location entity function given args chosen ground
      hcallee hgiven hargs hground
    obtain ⟨entry, signature, hentry, hentity, hsignature, rfl⟩ := passes_callee h hcallee
    have hfits := (fits_of_groundCall hground).of_within
    exact forall_parts ⟨entry, signature, hentry, hentity, hsignature, hfits⟩
      (forall_of_related hargs fun _ _ => id) (List.forall_mem_nil _)
  case callValue =>
    intro vars callee written choices location value function given args chosen ground hvalue
      hfunction hgiven hargs hground
    exact forall_parts ⟨function, hfunction, (fits_of_groundCall hground).of_within⟩
      (List.forall_mem_cons.mpr ⟨hvalue, forall_of_related hargs fun _ _ => id⟩)
      (List.forall_mem_nil _)
  case bind =>
    intro vars reference written choices location entity function given slots chosen bound
      hcallee hgiven hrelated hbound
    obtain ⟨entry, signature, hentry, hentity, hsignature, rfl⟩ := passes_callee h hcallee
    have hfits := (fits_of_bindFunction hbound).of_within
    exact forall_parts ⟨entry, signature, hentry, hentity, hsignature, hfits⟩
      (hslots hrelated) (List.forall_mem_nil _)
  case bindValue =>
    intro vars callee written choices location value function given slots chosen bound hvalue
      hfunction hgiven hrelated hbound
    exact forall_parts ⟨function, hfunction, (fits_of_bindFunction hbound).of_within⟩
      (List.forall_mem_cons.mpr ⟨hvalue, hslots hrelated⟩) (List.forall_mem_nil _)
  case ifThen =>
    intro vars written first second location condition thenBlock elseBlock hcondition hboolean
      hthen helse hsame
    exact forall_parts trivial (List.forall_mem_singleton.mpr hcondition)
      (List.forall_mem_cons.mpr ⟨hthen, List.forall_mem_singleton.mpr helse⟩)
  case closure =>
    intro site vars written result inner location args output body hnames hnew hwritten houtput
      hbody hsame
    exact forall_parts trivial (List.forall_mem_nil _) (List.forall_mem_singleton.mpr hbody)
  case last => exact fun hexpr _ => forall_partsOfBlock_last hexpr
  case statement =>
    intro vars written rest statement block hpasses hblock
    cases hpasses with
    | assign hvalue | bare hvalue => exact forall_partsOfBlock_cons hvalue hblock

/-! ### Settled types -/

/-- Whether a type is constrained, and formed where any type parameter may be in scope. -/
structure Ty.Settled (setting : Setting) (type : Ty) : Prop where
  formed : type.Formed (Library.openScope setting.definitions?) 0
  constrained : type.Constrained setting []

section Settled

variable {setting : Setting} {typeParams : List TypeParam} {callee : String}
  {location : Option Location} {function : FunctionType} {given : List (Option Ty)}

theorem settled_list {element : Ty} (h : element.Settled setting) :
  (Ty.list element).Settled setting
  := ⟨h.formed, h.constrained⟩

theorem settled_function {isReference : Bool} {args : List Ty} {output : Ty}
    (hargs : ∀ a ∈ args, a.Settled setting) (houtput : output.Settled setting) :
  (Ty.function isReference [] args output).Settled setting
  := by
  constructor
  · simp only [Formed, areFormed_iff]
    exact ⟨fun a ha => (hargs a ha).formed, houtput.formed⟩
  · simp only [Constrained, areConstrained_iff]
    exact ⟨fun a ha => (hargs a ha).constrained, houtput.constrained⟩

/-- What stands under a name in a settled type is settled. -/
theorem settled_member (hformed : Library.Formed setting.definitions?)
    (htell : ∀ id definitions, setting.definitions? id = some definitions →
      definitions.Tell setting)
    {receiver type : Ty} {name : String}
    (hmember : Library.HasMember setting.definitions? receiver name type)
    (h : receiver.Settled setting) :
  type.Settled setting
  := by
  refine ⟨?_, hmember.constrained hformed htell (fun _ _ => id) h.formed h.constrained⟩
  obtain ⟨isReference, entity, written, args, definitions, rfl, hd, hfound⟩ := hmember
  have hreceiver := h.formed
  simp only [Formed, areFormed_iff] at hreceiver
  exact (hformed _ _ hd).memberType hd hreceiver.1 (fun _ _ => id) hreceiver.2 hfound

theorem mayChoose_of_infer {supplied chosen : List (Option Ty)}
    (hgiven : ∀ t, some t ∈ given → t.Settled setting)
    (hsupplied : ∀ t, some t ∈ supplied → t.Settled setting)
    (hinfer : inferTypeArgs function given supplied = .ok chosen)
    (hfits : setting.Fits function.typeParams chosen) :
  setting.MayChoose (Library.openScope setting.definitions?) function.typeParams chosen
  := by
  obtain ⟨hcount, hformed⟩ := formed_inferTypeArgs (fun _ => trivial)
    (fun t ht => (hgiven t ht).formed) (fun t ht => (hsupplied t ht).formed) hinfer
  constructor
  case count => exact hcount
  case formed => exact hformed
  case constrained =>
    exact constrained_inferTypeArgs (fun _ => trivial) (fun t ht => (hgiven t ht).constrained)
      (fun t ht => ⟨(hsupplied t ht).formed, (hsupplied t ht).constrained⟩) hinfer
  case fits => exact hfits

/-- What a call that passes chooses is settled, and so is its type. -/
theorem settled_groundCall {args : List Expr} {chosen : List Ty} {ground : FunctionType}
    (hfunction : function.toTy.Settled setting)
    (hgiven : ∀ t, some t ∈ given → t.Settled setting)
    (hargs : ∀ a ∈ args, a.type.Settled setting)
    (hp : (groundCall (setting.within typeParams) function given args callee location).Passes
      (chosen, ground)) :
  (∀ c ∈ chosen, c.Settled setting) ∧ ground.output.Settled setting
  := by
  obtain ⟨hinfer, -, -, rfl⟩ := passes_groundCall hp
  have hfits := (fits_of_groundCall hp).of_within
  have hchosen := mayChoose_of_infer hgiven (by simpa using hargs) hinfer hfits
  have hformed : ∀ c ∈ chosen, c.Formed (Library.openScope setting.definitions?) 0 :=
    fun c hc => hchosen.formed c (List.mem_map_of_mem hc)
  refine ⟨fun c hc => ⟨hformed c hc, hchosen.constrained c (List.mem_map_of_mem hc)⟩, ?_, ?_⟩
  · have hcount : chosen.length = function.typeParams.length := by simpa using hchosen.count
    exact (FunctionType.formed_ground hfunction.formed hcount hformed).2
  · exact (FunctionType.constrained_ground hfunction.constrained hfunction.formed hchosen).2

/-- What a binding that passes chooses is settled, and so is its type. -/
theorem settled_bindFunction {slots : List (Option Expr)} {chosen : List (Option Ty)}
    {bound : FunctionType} (hfunction : function.toTy.Settled setting)
    (hgiven : ∀ t, some t ∈ given → t.Settled setting)
    (hslots : ∀ e, some e ∈ slots → e.type.Settled setting)
    (hp : (bindFunction (setting.within typeParams) function given slots callee location).Passes
      (chosen, bound)) :
  (∀ c, some c ∈ chosen → c.Settled setting) ∧ bound.toTy.Settled setting
  := by
  obtain ⟨hinfer, -, -, rfl⟩ := passes_bindFunction hp
  have hfits := (fits_of_bindFunction hp).of_within
  have hchosen := mayChoose_of_infer hgiven (forall_some_map_type hslots) hinfer hfits
  refine ⟨fun c hc => ⟨hchosen.formed c hc, hchosen.constrained c hc⟩, ?_, ?_⟩
  · exact FunctionType.formed_rebindArgs
      (FunctionType.formed_rebindTypes hfunction.formed hchosen.count hchosen.formed)
  · exact FunctionType.constrained_rebindArgs
      (FunctionType.constrained_rebindTypes hfunction.constrained hfunction.formed hchosen)

end Settled

/-! ### Written types -/

/-- Whether a written type is constrained, if it passes where type parameters are in scope. -/
def SourceTy.Constrained (setting : Setting) (typeParams : List TypeParam) (written : SourceTy) :
    Prop :=
  ∀ type, (checkTy (setting.within typeParams) written).Passes type → type.Constrained setting []

mutual

/-- The types that an expression writes, at any depth, for what it makes: not those of variables,
which have the types of their values. -/
def SourceExpr.types : SourceExpr → List SourceTy
  | .variable _ _ => []
  | .literal type _ _ => [type]
  | .list items element _ => element :: typesOfExprs items
  | .follow receiver _ _ => receiver.types
  | .call _ args chosen _ => chosen ++ typesOfExprs args
  | .callValue callee args chosen _ => callee.types ++ (chosen ++ typesOfExprs args)
  | .bind _ slots chosen _ => chosen.reduceOption ++ typesOfSlots slots
  | .bindValue callee slots chosen _ =>
    callee.types ++ (chosen.reduceOption ++ typesOfSlots slots)
  | .ifThen condition thenBlock elseBlock _ =>
    condition.types ++ (thenBlock.types ++ elseBlock.types)
  | .closure args output body _ => args.map (·.type) ++ (output :: body.types)

/-- The types that expressions write. -/
def typesOfExprs : List SourceExpr → List SourceTy
  | [] => []
  | expr :: rest => expr.types ++ typesOfExprs rest

/-- The types that the expressions of slots write. -/
def typesOfSlots : List (Option SourceExpr) → List SourceTy
  | [] => []
  | none :: rest => typesOfSlots rest
  | some expr :: rest => expr.types ++ typesOfSlots rest

/-- The types that a statement writes. -/
def SourceStmt.types : SourceStmt → List SourceTy
  | .assign _ _ value _ => value.types
  | .bare value => value.types

/-- The types that statements write. -/
def typesOfStmts : List SourceStmt → List SourceTy
  | [] => []
  | statement :: rest => statement.types ++ typesOfStmts rest

/-- The types that a block writes. -/
def SourceBlock.types : SourceBlock → List SourceTy
  | .mk statements _ => typesOfStmts statements

end

theorem SourceBlock.types_eq (block : SourceBlock) :
  block.types = typesOfStmts block.statements
  := by
  cases block
  rfl

theorem mem_typesOfExprs {type : SourceTy} {exprs : List SourceExpr} {expr : SourceExpr}
    (hexpr : expr ∈ exprs) (htype : type ∈ expr.types) :
  type ∈ typesOfExprs exprs
  := by
  induction exprs with
  | nil => cases hexpr
  | cons first rest ih =>
    obtain rfl | hrest := List.mem_cons.mp hexpr
    · exact List.mem_append_left _ htype
    · exact List.mem_append_right _ (ih hrest)

theorem mem_typesOfSlots {type : SourceTy} {slots : List (Option SourceExpr)} {expr : SourceExpr}
    (hexpr : some expr ∈ slots) (htype : type ∈ expr.types) :
  type ∈ typesOfSlots slots
  := by
  induction slots with
  | nil => cases hexpr
  | cons first rest ih =>
    obtain rfl | hrest := List.mem_cons.mp hexpr
    · exact List.mem_append_left _ htype
    · cases first with
      | none => exact ih hrest
      | some first => exact List.mem_append_right _ (ih hrest)

/-! ### Settled trees -/

/-- Whether the types in an expression are settled. -/
def Expr.Settled (setting : Setting) (expr : Expr) : Prop :=
  ∀ part ∈ expr.parts, ∀ type ∈ part.typesHere, type.Settled setting

/-- Whether the types in a block are settled. -/
structure Block.Settled (setting : Setting) (block : Block) : Prop where
  lets : ∀ type ∈ block.lets, type.Settled setting
  parts : ∀ part ∈ block.parts, ∀ type ∈ part.typesHere, type.Settled setting

section Trees

variable {setting : Setting}

theorem Expr.Settled.type {expr : Expr} (h : expr.Settled setting) :
  expr.type.Settled setting
  := by
  obtain ⟨type, aliasing, node⟩ := expr
  exact h _ List.mem_cons_self _ List.mem_cons_self

theorem Expr.Settled.of_parts {type : Ty} {aliasing : Aliasing} {node : Node}
    (htype : type.Settled setting) (htypes : ∀ t ∈ node.types, t.Settled setting)
    (hoperands : ∀ operand ∈ node.operands, operand.Settled setting)
    (hblocks : ∀ block ∈ node.blocks, block.Settled setting) :
  (Expr.mk type aliasing node).Settled setting
  := by
  have hlets := fun block hblock => (hblocks block hblock).lets
  exact forall_parts (Expr.forall_typesHere.mpr ⟨htype, htypes, hlets⟩) hoperands
    fun block hblock => (hblocks block hblock).parts

theorem Block.Settled.last {block : Block} (h : block.Settled setting) :
  block.last.Settled setting
  := fun part hpart => h.parts part (mem_partsOfBlock.mpr (.inr hpart))

theorem Block.Settled.cons {statement : Stmt} {block : Block} (h : block.Settled setting)
    (hdeclared : ∀ v ∈ statement.declared, v.type.Settled setting)
    (hvalue : statement.value.Settled setting) :
  (Block.mk (statement :: block.statements) block.last).Settled setting
  := ⟨Block.forall_lets_cons.mpr ⟨hdeclared, h.lets⟩, forall_partsOfBlock_cons hvalue h.parts⟩

theorem Block.Settled.types {block : Block} (h : block.Settled setting) :
  ∀ type ∈ block.types, type.Settled setting
  := by
  simp only [Block.types, List.forall_mem_append, List.mem_flatMap]
  refine ⟨h.lets, ?_⟩
  rintro type ⟨part, hpart, htype⟩
  exact h.parts part hpart type htype

end Trees

/-- Whether an expression is settled if the types that are written for it are constrained and those
of the visible variables are settled. -/
def Setting.Settles (setting : Setting) (typeParams : List TypeParam) (vars : Variables)
    (written : SourceExpr) (expr : Expr) : Prop :=
  (∀ w ∈ written.types, w.Constrained setting typeParams) →
    (∀ v ∈ vars, v.type.Settled setting) → expr.Settled setting

section Settles

variable {setting : Setting} {typeParams : List TypeParam} {vars : Variables}

theorem Setting.Settles.exprs {written : List SourceExpr} {exprs : List Expr}
    (h : List.Forall₂ (setting.Settles typeParams vars) written exprs)
    (hwritten : ∀ w ∈ typesOfExprs written, w.Constrained setting typeParams)
    (hvars : ∀ v ∈ vars, v.type.Settled setting) :
  ∀ expr ∈ exprs, expr.Settled setting
  := by
  intro expr hexpr
  obtain ⟨w, hw, hrel⟩ := exists_related_left h hexpr
  exact hrel (fun t ht => hwritten t (mem_typesOfExprs hw ht)) hvars

theorem Setting.Settles.slots {written : List (Option SourceExpr)} {slots : List (Option Expr)}
    (h : List.Forall₂ (Option.Rel (setting.Settles typeParams vars)) written slots)
    (hwritten : ∀ w ∈ typesOfSlots written, w.Constrained setting typeParams)
    (hvars : ∀ v ∈ vars, v.type.Settled setting) :
  ∀ expr, some expr ∈ slots → expr.Settled setting
  := by
  intro expr hexpr
  obtain ⟨w, hw, hrel⟩ := exists_related_left h hexpr
  cases hrel with
  | some hrel => exact hrel (fun t ht => hwritten t (mem_typesOfSlots hw ht)) hvars

end Settles

/-- The rules of the checker settle the types in a tree, where the types that are written in it are
constrained, those of the visible variables are settled, and declarations tell of constrained types
only. -/
theorem carries_settled {setting : Setting} {typeParams : List TypeParam}
    (hformed : Library.Formed setting.definitions?)
    (htypes : (setting.within typeParams).TypesIn setting.definitions?)
    (htell : ∀ id definitions, setting.definitions? id = some definitions →
      definitions.Tell setting) :
  (setting.within typeParams).Carries (setting.Settles typeParams)
    fun vars written block =>
      (∀ w ∈ typesOfStmts written, w.Constrained setting typeParams) →
        (∀ v ∈ vars, v.type.Settled setting) → block.Settled setting
  := by
  have h : (setting.within typeParams).Within
      ⟨fun reference entry => setting.scope.resolve .function reference = .ok entry,
        setting.definitions?⟩ :=
    ⟨fun _ _ => id, fun _ _ => id, hformed, htypes⟩
  -- what passes is formed, and constrained if it is where it is written
  have hsettled : ∀ {w : SourceTy} {type : Ty},
      (checkTy (setting.within typeParams) w).Passes type →
      w.Constrained setting typeParams → type.Settled setting :=
    fun hp hw => ⟨(formed_checkTy htypes hp).open, hw _ hp⟩
  have hopen : ∀ {choices : List (Option SourceTy)} {given : List (Option Ty)},
      (checkOpenTys (setting.within typeParams) choices).Passes given →
      (∀ w, some w ∈ choices → w.Constrained setting typeParams) →
      ∀ t, some t ∈ given → t.Settled setting := by
    intro choices given hp hchoices t ht
    obtain ⟨w, hw, hrel⟩ := exists_related_left (passes_checkOpenTys.mp hp) ht
    cases hrel with
    | some hpasses => exact hsettled hpasses (hchoices _ hw)
  have hcallee : ∀ {reference : Reference} {location : Option Location} {entity : Entity}
      {function : FunctionType},
      ((setting.within typeParams).callee reference location).Passes (entity, function) →
      function.toTy.Settled setting := by
    intro reference location entity function hp
    obtain ⟨entry, signature, -, -, hsignature, rfl⟩ := passes_callee h hp
    refine ⟨(hformed.signature hsignature).open, ?_⟩
    obtain ⟨definitions, hd, hsignature⟩ := Option.bind_eq_some_iff.mp hsignature
    exact (htell _ _ hd).signatures _ _ _ hsignature
  constructor
  case name =>
    intro vars name location type htype _ hvars
    obtain ⟨v, hv, -, rfl⟩ := Variables.exists_of_type? htype
    exact .of_parts (hvars v hv) (List.forall_mem_nil _) (List.forall_mem_nil _)
      (List.forall_mem_nil _)
  case literal =>
    intro vars written text location type form htype hform haccepts hwritten _
    exact .of_parts (hsettled htype (hwritten written List.mem_cons_self)) (List.forall_mem_nil _)
      (List.forall_mem_nil _) (List.forall_mem_nil _)
  case list =>
    intro vars written element location items type htype hvalue hitems hsame hwritten hvars
    have helement := hsettled htype (hwritten element List.mem_cons_self)
    have hwrittenItems := fun w hw => hwritten w (List.mem_cons_of_mem _ hw)
    have hitems := Setting.Settles.exprs hitems hwrittenItems hvars
    exact .of_parts (settled_list helement) (List.forall_mem_singleton.mpr helement) hitems
      (List.forall_mem_nil _)
  case follow =>
    intro vars written member location receiver type hreceiver htype hwritten hvars
    have hreceiver := hreceiver hwritten hvars
    have hmember := hasMember_of_memberType h htype
    exact .of_parts (settled_member hformed htell hmember hreceiver.type) (List.forall_mem_nil _)
      (List.forall_mem_singleton.mpr hreceiver) (List.forall_mem_nil _)
  case call =>
    intro vars reference written choices location entity function given args chosen ground
      hpasses hchoices hrelated hground hwritten hvars
    have hwritten := List.forall_mem_append.mp hwritten
    have hgiven := hopen hchoices fun w hw => hwritten.1 w (by simpa using hw)
    have hargs := Setting.Settles.exprs hrelated hwritten.2 hvars
    obtain ⟨hchosen, houtput⟩ := settled_groundCall (hcallee hpasses) hgiven
      (fun a ha => (hargs a ha).type) hground
    exact .of_parts houtput hchosen hargs (List.forall_mem_nil _)
  case callValue =>
    intro vars callee written choices location value function given args chosen ground hvalue
      hfunction hchoices hrelated hground hwritten hvars
    simp only [SourceExpr.types, List.forall_mem_append] at hwritten
    obtain ⟨hwrittenValue, hwrittenChoices, hwrittenArgs⟩ := hwritten
    have hvalue := hvalue hwrittenValue hvars
    have htype := hvalue.type
    rw [Ty.eq_toTy_of_function? hfunction] at htype
    have hgiven := hopen hchoices fun w hw => hwrittenChoices w (by simpa using hw)
    have hargs := Setting.Settles.exprs hrelated hwrittenArgs hvars
    obtain ⟨hchosen, houtput⟩ := settled_groundCall htype hgiven
      (fun a ha => (hargs a ha).type) hground
    exact .of_parts houtput hchosen (List.forall_mem_cons.mpr ⟨hvalue, hargs⟩)
      (List.forall_mem_nil _)
  case bind =>
    intro vars reference written choices location entity function given slots chosen bound
      hpasses hchoices hrelated hbound hwritten hvars
    have hwritten := List.forall_mem_append.mp hwritten
    have hgiven := hopen hchoices fun w hw => hwritten.1 w (List.reduceOption_mem_iff.mpr hw)
    have hslots := Setting.Settles.slots hrelated hwritten.2 hvars
    obtain ⟨hchosen, htype⟩ := settled_bindFunction (hcallee hpasses) hgiven
      (fun e he => (hslots e he).type) hbound
    exact .of_parts htype (fun c hc => hchosen c (List.reduceOption_mem_iff.mp hc))
      (fun e he => hslots e (List.reduceOption_mem_iff.mp he)) (List.forall_mem_nil _)
  case bindValue =>
    intro vars callee written choices location value function given slots chosen bound hvalue
      hfunction hchoices hrelated hbound hwritten hvars
    simp only [SourceExpr.types, List.forall_mem_append] at hwritten
    obtain ⟨hwrittenValue, hwrittenChoices, hwrittenSlots⟩ := hwritten
    have hvalue := hvalue hwrittenValue hvars
    have htype := hvalue.type
    rw [Ty.eq_toTy_of_function? hfunction] at htype
    have hgiven := hopen hchoices fun w hw =>
      hwrittenChoices w (List.reduceOption_mem_iff.mpr hw)
    have hslots := Setting.Settles.slots hrelated hwrittenSlots hvars
    obtain ⟨hchosen, htype⟩ := settled_bindFunction htype hgiven
      (fun e he => (hslots e he).type) hbound
    exact .of_parts htype (fun c hc => hchosen c (List.reduceOption_mem_iff.mp hc))
      (List.forall_mem_cons.mpr ⟨hvalue, fun e he => hslots e (List.reduceOption_mem_iff.mp he)⟩)
      (List.forall_mem_nil _)
  case ifThen =>
    intro vars written first second location condition thenBlock elseBlock hcondition hboolean
      hthen helse hsame hwritten hvars
    simp only [SourceExpr.types, SourceBlock.types_eq, List.forall_mem_append] at hwritten
    have hthen := hthen hwritten.2.1 hvars
    exact .of_parts hthen.last.type (List.forall_mem_nil _)
      (List.forall_mem_singleton.mpr (hcondition hwritten.1 hvars))
      (List.forall_mem_cons.mpr ⟨hthen, List.forall_mem_singleton.mpr (helse hwritten.2.2 hvars)⟩)
  case closure =>
    intro site vars written result inner location args output body hnames hnew hrelated houtput
      hbody hsame hwritten hvars
    simp only [SourceExpr.types, SourceBlock.types_eq, List.forall_mem_append, List.forall_mem_map,
      List.forall_mem_cons] at hwritten
    obtain ⟨hwrittenArgs, hwrittenOutput, hwrittenBody⟩ := hwritten
    have hargs : ∀ a ∈ args, a.type.Settled setting := by
      intro a ha
      obtain ⟨w, hw, htype, -⟩ := exists_related_left hrelated ha
      exact hsettled htype (hwrittenArgs w hw)
    have houtput := hsettled houtput hwrittenOutput
    have hcaptures : ∀ v ∈ vars.captured body.names, v.type.Settled setting :=
      fun v hv => hvars v (Variables.go_captured.1.mem hv)
    refine .of_parts (settled_function (List.forall_mem_map.mpr hargs) houtput) ?_
      (List.forall_mem_nil _) (List.forall_mem_singleton.mpr (hbody hwrittenBody ?_))
    · simp only [Node.types, Closure.args, Closure.captures, Closure.output,
        List.forall_mem_append, List.forall_mem_map, List.forall_mem_singleton]
      exact ⟨hargs, hcaptures, houtput⟩
    · exact List.forall_mem_append.mpr ⟨hvars, hargs⟩
  case last =>
    intro vars written expr hexpr hactions hwritten hvars
    have hexpr := hexpr (fun w hw => hwritten w (List.mem_append_left _ hw)) hvars
    exact ⟨List.forall_mem_nil _, forall_partsOfBlock_last hexpr⟩
  case statement =>
    intro vars written rest statement block hpasses hblock hwritten hvars
    have hwritten := List.forall_mem_append.mp hwritten
    have hvalue : statement.value.Settled setting := by
      cases hpasses with
      | assign hvalue | bare hvalue => exact hvalue hwritten.1 hvars
    have hdeclared : ∀ v ∈ statement.declared, v.type.Settled setting := by
      cases hpasses with
      | assign => exact List.forall_mem_singleton.mpr hvalue.type
      | bare => exact List.forall_mem_nil _
    exact (hblock hwritten.2 (List.forall_mem_append.mpr ⟨hvars, hdeclared⟩)).cons hdeclared hvalue

/-! ### Accepted modules -/

/-- Whether the types that the bodies of a context write are constrained. -/
structure Context.Constrained (setting : Setting) (context : Context) : Prop where
  functions : ∀ f ∈ context.functions, ∀ w ∈ f.body.types, w.Constrained setting f.typeParams
  requires : ∀ s ∈ context.structs, ∀ block, s.requires = some block →
    ∀ w ∈ block.types, w.Constrained setting s.typeParams

section Checked

variable {number : Nat} {context : Context} {name : ModuleName} {dependencies : List Module}
  {module : Module} (h : Checked number context name dependencies module)
  (haccepted : Accepted module)

include h

theorem Checked.library_ofBodies :
  (Setting.ofBodies number context dependencies module).definitions? = module.library
  := funext h.definitions?_ofBodies

/-- The body of a checked function passes where it is written. -/
theorem Checked.exists_body {function : Function} (hfunction : function ∈ module.functions) :
  ∃ f ∈ context.functions, ∃ site,
    (checkBlock ((Setting.ofBodies number context dependencies module).within f.typeParams) site
      function.args f.body).Passes function.body
  := by
  obtain ⟨f, hf, hheader, hbody⟩ :=
    exists_related_left (related_and h.functionHeaders h.functions) hfunction
  obtain ⟨-, -, _, -, _, -, e⟩ := passes_checkFunctionHeader.mp hheader
  have hparams : function.typeParams = f.typeParams := (congrArg FunctionHeader.typeParams e).symm
  exact ⟨f, hf, _, hparams ▸ (body_of_checkFunctionBody hbody).1⟩

/-- The `requires` block of a checked struct passes where it is written. -/
theorem Checked.exists_requires {struct : Struct} (hstruct : struct ∈ module.structs)
    {block : Block} (hblock : struct.requires = some block) :
  ∃ s ∈ context.structs, ∃ written site, s.requires = some written
    ∧ (checkBlock ((Setting.ofBodies number context dependencies module).within s.typeParams) site
      struct.members written).Passes block
  := by
  obtain ⟨s, hs, hheader, hbody⟩ :=
    exists_related_left (related_and h.structHeaders h.structs) hstruct
  obtain ⟨-, -, _, -, e⟩ := passes_checkStructHeader.mp hheader
  have hparams : struct.typeParams = s.typeParams := (congrArg StructHeader.typeParams e).symm
  have hrequires := requires_of_checkStructBody hbody
  rw [hblock] at hrequires
  cases hwritten : s.requires with
  | none =>
    rw [hwritten] at hrequires
    cases hrequires
  | some written =>
    rw [hwritten, Option.rel_some_some] at hrequires
    exact ⟨s, hs, written, _, hwritten, hparams ▸ hrequires.1⟩

include haccepted

theorem Checked.formed_ofBodies :
  Library.Formed (Setting.ofBodies number context dependencies module).definitions?
  := h.library_ofBodies ▸ haccepted.formed

/-- What is chosen at the calls and bindings of a checked module fits. -/
theorem Checked.fits :
  ∀ part ∈ module.parts, part.node.Fits (Setting.ofBodies number context dependencies module)
    (context.surroundings dependencies module)
  := by
  have hcarries := fun typeParams => carries_fits ((h.within haccepted).within typeParams)
  intro part hpart
  obtain hpart | hpart := List.mem_append.mp hpart
  · obtain ⟨function, hfunction, hpart⟩ := List.mem_flatMap.mp hpart
    obtain ⟨f, -, site, hpasses⟩ := h.exists_body hfunction
    exact (hcarries f.typeParams).of_block site _ f.body hpasses part hpart
  · obtain ⟨struct, hstruct, hpart⟩ := List.mem_flatMap.mp hpart
    obtain ⟨block, hblock, hpart⟩ := List.mem_flatMap.mp hpart
    obtain ⟨s, -, written, site, -, hpasses⟩ :=
      h.exists_requires hstruct (Option.mem_toList.mp hblock)
    exact (hcarries s.typeParams).of_block site _ written hpasses part hpart

variable (hwritten : ∀ other, other = module ∨ other ∈ module.reachable →
    other.definitions.Constrained (Setting.ofBodies number context dependencies module))

include hwritten

/-- What a checked module sees tells of constrained types only, if only such are written. -/
theorem Checked.tell {id : ModuleId} {definitions : Definitions}
    (hd : (Setting.ofBodies number context dependencies module).definitions? id
      = some definitions) :
  definitions.Tell (Setting.ofBodies number context dependencies module)
  := by
  have hformed := h.formed_ofBodies haccepted
  have hfound := hd
  rw [h.definitions?_ofBodies] at hfound
  unfold Module.definitionsOf? at hfound
  split at hfound
  next hnative =>
    obtain rfl : id = nativeModule := by simpa [ModuleId.isNative] using hnative
    cases hfound
    exact tell_nativeDefinitions hd
  next =>
    obtain ⟨other, hother, rfl⟩ := Option.map_eq_some_iff.mp hfound
    obtain ⟨hreach, -⟩ := Module.mem_of_find? hother
    have hother : Accepted other := haccepted.of_reached hreach
    exact (hwritten other hreach).tell hother.proper_definitions hformed hd
      fun _ _ _ => hother.proper_signature

/-- A block of a checked module is settled if it writes constrained types only. -/
theorem Checked.settled_block {typeParams : List TypeParam} {site : Site} {vars : Variables}
    {written : SourceBlock} {block : Block}
    (hp : (checkBlock ((Setting.ofBodies number context dependencies module).within typeParams) site
      vars written).Passes block)
    (htypes : ∀ w ∈ written.types,
      w.Constrained (Setting.ofBodies number context dependencies module) typeParams)
    (hvars : ∀ v ∈ vars, v.type.Settled (Setting.ofBodies number context dependencies module)) :
  block.Settled (Setting.ofBodies number context dependencies module)
  := by
  have hformed := h.formed_ofBodies haccepted
  have hin : (Setting.ofBodies number context dependencies module).TypesIn
      (Setting.ofBodies number context dependencies module).definitions? :=
    h.library_ofBodies ▸ h.typesIn_ofBodies haccepted
  have hcarries := carries_settled hformed (hin.within typeParams)
    fun _ _ => h.tell haccepted hwritten
  exact hcarries.of_block site vars written hp (written.types_eq ▸ htypes) hvars

/-- Every type that occurs in a checked module is constrained, if only such are written in the
module and in what it reaches. -/
theorem Checked.constrained
    (hcontext : context.Constrained (Setting.ofBodies number context dependencies module))
    {typeParams : List TypeParam} {type : Ty} (hoccurs : module.Occurs typeParams type) :
  type.Constrained (Setting.ofBodies number context dependencies module) []
  := by
  have hformed := h.formed_ofBodies haccepted
  have hd := definitionsOf?_self haccepted.not_native
  rw [← h.definitions?_ofBodies] at hd
  have hdefinitions := hwritten module (.inl rfl)
  have hproper := haccepted.proper_definitions
  have hsignature : ∀ {kind : EntityKind} {id : EntityId} {signature : Signature},
      module.definitions.signature? kind id = some signature →
      signature.Constrained (Setting.ofBodies number context dependencies module) :=
    hdefinitions.signature hproper hformed hd
  have hsettled : ∀ {typeParams : List TypeParam} {type : Ty},
      type.Proper (module.library.exactly typeParams) 0 →
      type.Constrained (Setting.ofBodies number context dependencies module) [] →
      type.Settled (Setting.ofBodies number context dependencies module) :=
    fun hproper hconstrained => ⟨h.library_ofBodies ▸ hproper.formed.byName.open, hconstrained⟩
  cases hoccurs with
  | argument hfound htype => exact (hsignature hfound).args _ htype
  | output hfound => exact (hsignature hfound).output
  | member hstruct hmember =>
    exact hdefinitions.members _ (List.mem_map_of_mem hstruct) _ hmember
  | adapterMember hinterface hmember =>
    exact (hdefinitions.adapterMember hproper hformed hd hinterface hmember).2
  | methodArgument hinterface hmethod hargument =>
    exact (hdefinitions.methods _ hinterface _ hmethod).1 _ hargument
  | methodOutput hinterface hmethod => exact (hdefinitions.methods _ hinterface _ hmethod).2
  | option hunion hoption htype => exact hdefinitions.options _ hunion _ hoption _ htype
  | @body function _ hfunction htype =>
    obtain ⟨f, hf, site, hpasses⟩ := h.exists_body hfunction
    have hmem : function.signature ∈ module.definitions.functions := List.mem_map_of_mem hfunction
    have hargs : ∀ v ∈ function.args,
        v.type.Settled (Setting.ofBodies number context dependencies module) := fun v hv =>
      hsettled ((hproper.functions _ hmem).args v.type (List.mem_map_of_mem hv))
        ((hdefinitions.functions _ hmem).args v.type (List.mem_map_of_mem hv))
    exact ((h.settled_block haccepted hwritten hpasses (hcontext.functions f hf) hargs).types _
      htype).constrained
  | @requires struct _ _ hstruct hblock htype =>
    obtain ⟨s, hs, written, site, hrequires, hpasses⟩ := h.exists_requires hstruct hblock
    have hmem : struct.toStructHeader ∈ module.definitions.structs := List.mem_map_of_mem hstruct
    have hmembers : ∀ v ∈ struct.members,
        v.type.Settled (Setting.ofBodies number context dependencies module) := fun v hv =>
      hsettled (hproper.members _ hmem v hv).proper (hdefinitions.members _ hmem v hv)
    exact ((h.settled_block haccepted hwritten hpasses (hcontext.requires s hs written hrequires)
      hmembers).types _ htype).constrained

end Checked

/-- In an accepted module what is chosen at each call and binding, whether it is written or
revealed, is plain data for the type parameters of plain data of what is called or bound.  If the
types that the module and what it reaches write are constrained, so are all types that occur in it:
those of signatures, of nodes and of variables, and those that are chosen. -/
theorem constraints_kept {number : Nat} {context : Context} {name : ModuleName}
    {dependencies : List Module} {config : SinkConfig} {module : Module}
    {warnings : List Diagnostic} (hdependencies : ∀ d ∈ dependencies, Accepted d)
    (h : validate number context name dependencies config = .success module warnings) :
  (∀ part ∈ module.parts, part.node.Fits (.ofBodies number context dependencies module)
      (context.surroundings dependencies module))
    ∧ ((∀ other, other = module ∨ other ∈ module.reachable →
          other.definitions.Constrained (.ofBodies number context dependencies module)) →
        context.Constrained (.ofBodies number context dependencies module) →
        ∀ typeParams type, module.Occurs typeParams type →
          type.Constrained (.ofBodies number context dependencies module) [])
  := by
  have haccepted := Accepted.intro hdependencies h
  have hchecked := checked_of_passes (passes_of_validate h)
  exact ⟨hchecked.fits haccepted, fun hwritten hcontext _ _ hoccurs =>
    hchecked.constrained haccepted hwritten hcontext hoccurs⟩

/-- A context with a struct that wants plain data.  For any `T` that is plain data, a `Box<T>` holds
a `T`, and `same(first: T, second: T): Boolean` is what `Data.equals` makes of the two; the type
argument of the call is not written. -/
def matchingContext : Context where
  structs := [{
      id := ⟨["Box"]⟩
      typeParams := [⟨"T", some .data⟩]
      members := [⟨"value", .named false ⟨none, ⟨["T"]⟩⟩ [] none⟩]
      requires := none
      annotations := []
      location := none }]
  functions := [{
      id := ⟨["same"]⟩
      typeParams := [⟨"T", some .data⟩]
      args := ["first", "second"].map fun name =>
        ⟨name, .named false ⟨none, ⟨["T"]⟩⟩ [] none, none⟩
      output := .boolean
      body := .mk [.bare (.call ⟨none, ⟨["Data", "equals"]⟩⟩
        [.variable "first" none, .variable "second" none] [] none)] none
      annotations := []
      location := none }]

/-- Whether a type is `Boolean` or a type parameter. -/
def Ty.isPlain : Ty → Bool
  | .boolean => true
  | .param _ => true
  | _ => false

theorem constrained_of_isPlain {setting : Setting} {type : Ty} (h : type.isPlain = true) :
  type.Constrained setting []
  := by
  cases type with
  | boolean | param => trivial
  | _ => cases h

/-- In `same`, the type that is inferred for the parameter of `Data.equals` is plain data, and the
type `Box<T>` that occurs in the constructor of `Box` is constrained. -/
theorem constraints_kept_matching :
  ∃ (module : Module) (warnings : List Diagnostic) (signature : Signature),
    validate 0 matchingContext ⟨"example", "matching"⟩ [] {} = .success module warnings
    ∧ (∃ part ∈ module.parts, part.node.chosen ≠ []
      ∧ part.node.Fits (.ofBodies 0 matchingContext [] module) (matchingContext.surroundings [] module))
    ∧ module.definitions.signature? .struct ⟨["Box"]⟩ = some signature
    ∧ signature.output.Constrained (.ofBodies 0 matchingContext [] module) []
  := by
  have hplain : (validate 0 matchingContext ⟨"example", "matching"⟩ [] {}).module?.any (fun module =>
      module.reachable.isEmpty && module.interfaces.isEmpty && module.unions.isEmpty
        && module.structs.all (fun s => s.members.all (·.type.isPlain))
        && module.functions.all (fun f => f.args.all (·.type.isPlain) && f.output.isPlain)
        && (module.definitions.signature? .struct ⟨["Box"]⟩).isSome
        && module.parts.any (fun part => !part.node.chosen.isEmpty)) = true := by
    decide +kernel
  obtain ⟨module, warnings, h, hplain⟩ := Verdict.exists_success hplain
  simp only [Bool.and_eq_true, List.isEmpty_iff, List.all_eq_true, List.any_eq_true,
    Bool.not_eq_true', List.isEmpty_eq_false_iff, Option.isSome_iff_exists] at hplain
  obtain ⟨⟨⟨⟨⟨⟨hreachable, hinterfaces⟩, hunions⟩, hstructs⟩, hfunctions⟩, signature, hsignature⟩,
    part, hpart, hchosen⟩ := hplain
  obtain ⟨hfits, hconstrained⟩ := constraints_kept (List.forall_mem_nil _) h
  refine ⟨module, warnings, signature, h, ⟨part, hpart, hchosen, hfits part hpart⟩, hsignature,
    hconstrained ?_ ?_ _ _ (.output hsignature)⟩
  · intro other hother
    obtain rfl : other = module := by simpa [hreachable] using hother
    constructor
    case members =>
      exact List.forall_mem_map.mpr fun s hs m hm => constrained_of_isPlain (hstructs s hs m hm)
    case methods => simp [Module.definitions, hinterfaces]
    case options => simp [Module.definitions, hunions]
    case functions =>
      refine List.forall_mem_map.mpr fun f hf => ⟨List.forall_mem_map.mpr fun a ha => ?_, ?_⟩
      · exact constrained_of_isPlain ((hfunctions f hf).1 a ha)
      · exact constrained_of_isPlain (hfunctions f hf).2
  · constructor
    case functions => exact List.forall_mem_singleton.mpr (List.forall_mem_nil _)
    case requires =>
      intro s hs block hblock
      obtain rfl := List.mem_singleton.mp hs
      cases hblock

/-- A context in which a function is put for a type parameter of plain data.  A `Box<T>`, for any
`T` that is plain data, holds a list of type `List<Box<() -> Integer>>`. -/
def callableContext : Context where
  structs := [{
      id := ⟨["Box"]⟩
      typeParams := [⟨"T", some .data⟩]
      members := [⟨"boxes", .list
        (.named false ⟨none, ⟨["Box"]⟩⟩ [.function false [] [] .integer none] none)⟩]
      requires := none
      annotations := []
      location := none }]

/-- The module that `callableContext` makes. -/
def callableModule (id : ModuleId) : Module where
  id := id
  functions := []
  structs := [⟨⟨⟨["Box"]⟩, id, [⟨"T", some .data⟩],
    [⟨"boxes", .list
      (.named false ⟨id, ⟨["Box"]⟩⟩ (.ofId ⟨["Box"]⟩) [.function false [] [] .integer])⟩],
    false, []⟩, none⟩]
  interfaces := []
  unions := []
  reachable := []

namespace callableModule

/-- The context passes, under whatever id. -/
theorem checkRounds_callable (id : ModuleId) (behind : Bool) :
  checkRounds (.ofModule 0 id callableContext [])
    (Scope.unique callableContext callableContext.duplicateIds) behind
    = (some (callableModule id), [])
  := by
  cbv

/-- Whatever `Box` is in the module takes plain data for its parameter. -/
theorem typeParams_of_typeHeader? {id : ModuleId} {kind : EntityKind} {header : TypeHeader}
    (h : (callableModule id).definitions.typeHeader? kind ⟨["Box"]⟩ = some header) :
  header.typeParams = [⟨"T", some .data⟩]
  := by
  cases kind with
  | struct =>
    cases h
    rfl
  | _ => cases h

end callableModule

/-- The module is accepted, and the type of what a `Box` holds is not constrained. -/
theorem unchecked_argument :
  ∃ (module : Module) (warnings : List Diagnostic) (typeParams : List TypeParam) (type : Ty),
    validate 0 callableContext ⟨"example", "callable"⟩ [] {} = .success module warnings
    ∧ module.Occurs typeParams type
    ∧ ¬type.Constrained (.ofBodies 0 callableContext [] module) []
  := by
  obtain ⟨id, h⟩ : ∃ id, validate 0 callableContext ⟨"example", "callable"⟩ [] {}
      = .success (callableModule id) [] :=
    ⟨_, validate_of_checkRounds (by cbv) (callableModule.checkRounds_callable _)⟩
  have hoccurs := @Module.Occurs.member (callableModule id) _ _ List.mem_cons_self
    List.mem_cons_self
  refine ⟨_, _, _, _, h, hoccurs, fun hconstrained => ?_⟩
  have hformed := well_scoped (Accepted.alone h) hoccurs
  simp only [Formed, areFormed_iff] at hformed
  simp only [Constrained, areConstrained_iff] at hconstrained
  -- the entity is declared by the module, and its parameter is one of plain data
  obtain ⟨definitions, kind, header, hd, hheader, -⟩ := hformed.1
  have hparams : header.typeParams = [⟨"T", some .data⟩] := by
    have hfound := hd
    unfold Module.library Module.definitionsOf? at hfound
    split at hfound
    · cases hfound
      have hnone : nativeDefinitions.typeHeader? kind ⟨["Box"]⟩ = none := by cases kind <;> rfl
      rw [hnone] at hheader
      cases hheader
    · obtain ⟨other, hother, rfl⟩ := Option.map_eq_some_iff.mp hfound
      obtain rfl : other = callableModule id := by
        simpa [callableModule] using (Module.mem_of_find? hother).1
      exact callableModule.typeParams_of_typeHeader? hheader
  have hd' : (Setting.ofBodies 0 callableContext [] (callableModule id)).definitions? id
      = some definitions := by
    rw [(checked_of_passes (passes_of_validate h)).definitions?_ofBodies]
    exact hd
  have hfits := hconstrained.1 _ ⟨definitions, kind, header, hd', hheader, rfl⟩
  rw [hparams] at hfits
  have hdata := hfits _ List.mem_cons_self _ rfl rfl
  exact (Setting.isData_iff _ _).mp hdata [] _ (.refl _) List.nodup_nil .function

end TypedModules
