import TypedModules.Proofs.Declared.Proper
import TypedModules.Proofs.Typing.Induction
import TypedModules.Proofs.Typing.Module

/-!
# The types in a tree

The types that occur in a typed tree: those of its expressions, those that its nodes carry, and
those of the variables that its blocks declare.  In a tree that passes all of them are proper where
the type parameters of the declaration around it are in scope, nothing that is chosen is a
reference, and what captures or binds a reference is a reference itself.
-/

namespace TypedModules

open Check Ty

/-! ### Calls and bindings -/

section Calls

variable {setting : Setting} {scope : TyScope} {callee : String} {location : Option Location}
  {function : FunctionType} {given : List (Option Ty)}

namespace FunctionType

theorem args_ground (function : FunctionType) (chosen : List Ty) :
  (function.ground chosen).args = (function.rebindTypes (chosen.map some)).args
  := by
  unfold ground rebindTypes
  split <;> rfl

/-- A binding makes a reference of a reference, and of what is supplied with one. -/
theorem isReference_rebind (function : FunctionType) (chosen bound : List (Option Ty)) :
  ((function.rebindTypes chosen).rebindArgs bound).isReference
    = (function.isReference || bound.any (·.any Ty.isReference))
  := by
  unfold rebindTypes
  split <;> rfl

/-- What can be bound has the type of the argument at its position. -/
theorem related_bindableArgs (function : FunctionType) :
  List.Forall₂ (fun e arg => ∀ type, e = some type → type = arg) function.bindableArgs
    function.args
  := by
  unfold bindableArgs
  split
  · simp [List.forall₂_map_left_iff, List.forall₂_same]
  · rw [List.forall₂_map_left_iff, List.forall₂_same]
    intro arg _ type htype
    split at htype <;> cases htype
    rfl

end FunctionType

/-- What a call that passes chooses may be chosen, and its type is proper. -/
theorem proper_groundCall {args : List Expr} {chosen : List Ty} {ground : FunctionType}
    (hfunction : function.toTy.Proper scope 0)
    (hgiven : ∀ t, some t ∈ given → t.Proper scope 0)
    (hargs : ∀ a ∈ args, a.type.Proper scope 0)
    (hp : (groundCall setting function given args callee location).Passes (chosen, ground)) :
  (∀ c ∈ chosen, c.Choosable scope) ∧ ground.output.Proper scope 0
  := by
  obtain ⟨hinfer, ⟨_, hchoices⟩, hsame, rfl⟩ := passes_groundCall hp
  have hslots : List.Forall₂ (fun value slot => ∀ v, value = some v → v.same slot = true)
      (args.map fun a => some a.type) (function.rebindTypes (chosen.map some)).args := by
    rw [← FunctionType.args_ground, List.forall₂_map_left_iff]
    have hrelated := forall₂_of_sameAll hsame
    rw [List.forall₂_map_left_iff] at hrelated
    exact hrelated.imp fun a slot h v hv => Option.some.inj hv ▸ h
  obtain ⟨hcount, hproper⟩ := proper_inferTypeArgs hgiven (by simpa using hargs) hinfer hslots
  have hchosen : ∀ c ∈ chosen, c.Choosable scope := by
    intro c hc
    have hmem : some c ∈ chosen.map some := List.mem_map_of_mem hc
    exact ⟨hproper c hmem, values_of_checkChoices hchoices hcount c hmem⟩
  exact ⟨hchosen, FunctionType.proper_ground hfunction (by simpa using hcount) hchosen⟩

/-- What a binding that passes chooses may be chosen, its type is proper, and it is a reference if
what is bound is one or something that is bound to it. -/
theorem proper_bindFunction {slots : List (Option Expr)} {chosen : List (Option Ty)}
    {bound : FunctionType} (hfunction : function.toTy.Proper scope 0)
    (hgiven : ∀ t, some t ∈ given → t.Proper scope 0)
    (hslots : ∀ e, some e ∈ slots → e.type.Proper scope 0)
    (hp : (bindFunction setting function given slots callee location).Passes (chosen, bound)) :
  (∀ c, some c ∈ chosen → c.Choosable scope) ∧ bound.toTy.Proper scope 0
    ∧ bound.isReference
      = (function.isReference || slots.any (·.any fun e => e.type.isReference))
  := by
  obtain ⟨hinfer, ⟨_, hchoices⟩, hrelated, rfl⟩ := passes_bindFunction hp
  have hslots' : List.Forall₂ (fun value slot => ∀ v, value = some v → v.same slot = true)
      (slots.map fun slot => slot.map (·.type)) (function.rebindTypes chosen).args := by
    rw [List.forall₂_map_left_iff]
    refine related_trans hrelated (function.rebindTypes chosen).related_bindableArgs ?_
    intro slot e arg _ hslot harg v hv
    obtain ⟨value, rfl, rfl⟩ := Option.map_eq_some_iff.mp hv
    obtain ⟨type, htype, hsame⟩ := hslot value rfl
    exact harg type htype ▸ hsame
  obtain ⟨hcount, hproper⟩ :=
    proper_inferTypeArgs hgiven (forall_some_map_type hslots) hinfer hslots'
  have hchosen : ∀ c, some c ∈ chosen → c.Choosable scope := fun c hc =>
    ⟨hproper c hc, values_of_checkChoices hchoices hcount c hc⟩
  refine ⟨hchosen, FunctionType.proper_rebind hfunction hcount hchosen _, ?_⟩
  simp only [FunctionType.isReference_rebind, List.any_map, Function.comp_def, Option.any_map]

end Calls

/-! ### What occurs in a tree -/

/-- The types that are chosen for type parameters at a node. -/
def Node.chosen : Node → List Ty
  | .call _ _ _ chosen => chosen
  | .callValue _ _ chosen => chosen
  | .bind _ _ _ chosen => chosen.reduceOption
  | .bindValue _ _ chosen => chosen.reduceOption
  | _ => []

/-- The types that a node carries: that of the items of a list, those of the arguments, the captures
and the output of a closure, and those that are chosen. -/
def Node.types : Node → List Ty
  | .list _ element => [element]
  | .closure c => c.args.map (·.type) ++ (c.captures.map (·.type) ++ [c.output])
  | node => node.chosen

/-- Whether a closure captures a reference, or a binding binds one. -/
def Node.holdsReference : Node → Bool
  | .closure c => c.captures.any (·.type.isReference)
  | .bind _ _ slots _ => slots.any (·.any fun e => e.type.isReference)
  | .bindValue callee slots _ =>
    callee.type.isReference || slots.any (·.any fun e => e.type.isReference)
  | _ => false

/-- The types of the variables that a block declares. -/
def Block.lets (block : Block) : List Ty :=
  (declaredBy block.statements).map (·.type)

/-- The types that occur at an expression itself. -/
def Expr.typesHere (expr : Expr) : List Ty :=
  expr.type :: (expr.node.types ++ expr.node.blocks.flatMap Block.lets)

/-- The types that occur in a block, at any depth. -/
def Block.types (block : Block) : List Ty :=
  block.lets ++ block.parts.flatMap Expr.typesHere

/-- What holds of all types that occur at an expression itself. -/
theorem Expr.forall_typesHere {P : Ty → Prop} {type : Ty} {aliasing : Aliasing} {node : Node} :
  (∀ t ∈ (Expr.mk type aliasing node).typesHere, P t)
    ↔ P type ∧ (∀ t ∈ node.types, P t) ∧ ∀ block ∈ node.blocks, ∀ t ∈ block.lets, P t
  := by
  simp only [Expr.typesHere, Expr.type, Expr.node, List.forall_mem_cons, List.forall_mem_append,
    List.forall_mem_flatMap]

/-- What holds of the types of all variables that a block declares with one more statement. -/
theorem Block.forall_lets_cons {P : Ty → Prop} {statement : Stmt} {block : Block} :
  (∀ t ∈ (Block.mk (statement :: block.statements) block.last).lets, P t)
    ↔ (∀ v ∈ statement.declared, P v.type) ∧ ∀ t ∈ block.lets, P t
  := by
  simp only [Block.lets, Block.statements, declaredBy, List.flatMap_cons, List.map_append,
    List.forall_mem_append, List.forall_mem_map]

/-- Whether the types at an expression itself are as they should be. -/
structure Expr.ProperHere (scope : TyScope) (expr : Expr) : Prop where
  types : ∀ type ∈ expr.typesHere, type.Proper scope 0
  chosen : ∀ c ∈ expr.node.chosen, c.isReference = false
  holds : expr.node.holdsReference = true → expr.type.isReference = true

/-- Whether the types at each expression in an expression are as they should be. -/
def Expr.Proper (scope : TyScope) (expr : Expr) : Prop :=
  ∀ part ∈ expr.parts, part.ProperHere scope

/-- Whether the types of the variables of a block and at each expression in it are as they should
be. -/
structure Block.Proper (scope : TyScope) (block : Block) : Prop where
  lets : ∀ type ∈ block.lets, type.Proper scope 0
  parts : ∀ part ∈ block.parts, part.ProperHere scope

section Proper

variable {scope : TyScope}

theorem Expr.Proper.type {expr : Expr} (h : expr.Proper scope) :
  expr.type.Proper scope 0
  := by
  obtain ⟨type, aliasing, node⟩ := expr
  exact (h _ List.mem_cons_self).types _ List.mem_cons_self

theorem Block.Proper.last {block : Block} (h : block.Proper scope) :
  block.last.Proper scope
  := fun part hpart => h.parts part (mem_partsOfBlock.mpr (.inr hpart))

theorem Expr.Proper.of_parts {type : Ty} {aliasing : Aliasing} {node : Node}
    (htype : type.Proper scope 0) (htypes : ∀ t ∈ node.types, t.Proper scope 0)
    (hchosen : ∀ c ∈ node.chosen, c.isReference = false)
    (hholds : node.holdsReference = true → type.isReference = true)
    (hoperands : ∀ operand ∈ node.operands, operand.Proper scope)
    (hblocks : ∀ block ∈ node.blocks, block.Proper scope) :
  (Expr.mk type aliasing node).Proper scope
  := by
  have hlets := fun block hblock => (hblocks block hblock).lets
  exact forall_parts ⟨Expr.forall_typesHere.mpr ⟨htype, htypes, hlets⟩, hchosen, hholds⟩ hoperands
    fun block hblock => (hblocks block hblock).parts

/-- The types are as they should be at an expression without blocks that holds no reference. -/
theorem Expr.Proper.of_operands {type : Ty} {aliasing : Aliasing} {node : Node}
    (hholds : node.holdsReference = false) (hblocks : node.blocks = [])
    (htype : type.Proper scope 0) (htypes : ∀ t ∈ node.types, t.Proper scope 0)
    (hchosen : ∀ c ∈ node.chosen, c.isReference = false)
    (hoperands : ∀ operand ∈ node.operands, operand.Proper scope) :
  (Expr.mk type aliasing node).Proper scope
  := .of_parts htype htypes hchosen (by simp [hholds]) hoperands (by simp [hblocks])

theorem Block.Proper.cons {statement : Stmt} {block : Block} (h : block.Proper scope)
    (hdeclared : ∀ v ∈ statement.declared, v.type.Proper scope 0)
    (hvalue : statement.value.Proper scope) :
  (Block.mk (statement :: block.statements) block.last).Proper scope
  := ⟨Block.forall_lets_cons.mpr ⟨hdeclared, h.lets⟩, forall_partsOfBlock_cons hvalue h.parts⟩

end Proper

/-! ### Trees that pass -/

/-- The rules of the checker keep the types in a tree as they should be, where the types of the
visible variables are proper. -/
theorem carries_proper {setting : Setting} {around : Surroundings} (h : setting.Within around)
    (hclean : around.library.Clean) :
  setting.Carries
    (fun vars _ expr =>
      (∀ v ∈ vars, v.type.Proper (around.library.exactly setting.typeParams) 0) →
        expr.Proper (around.library.exactly setting.typeParams))
    fun vars _ block =>
      (∀ v ∈ vars, v.type.Proper (around.library.exactly setting.typeParams) 0) →
        block.Proper (around.library.exactly setting.typeParams)
  := by
  have hgiven : ∀ {written : List (Option SourceTy)} {types : List (Option Ty)},
      (checkOpenTys setting written).Passes types →
      ∀ t, some t ∈ types → t.Proper (around.library.exactly setting.typeParams) 0 := fun hp =>
    forall_some_of_related (passes_checkOpenTys.mp hp) fun _ _ => proper_checkTy h.types
  constructor
  case name =>
    intro vars name location type htype hvars
    obtain ⟨v, hv, -, rfl⟩ := Variables.exists_of_type? htype
    exact .of_operands rfl rfl (hvars v hv) (List.forall_mem_nil _) (List.forall_mem_nil _)
      (List.forall_mem_nil _)
  case literal =>
    intro vars written text location type form htype hform haccepts hvars
    exact .of_operands rfl rfl (proper_checkTy h.types htype) (List.forall_mem_nil _)
      (List.forall_mem_nil _) (List.forall_mem_nil _)
  case list =>
    intro vars written element location items type htype hvalue hitems hsame hvars
    have helement := proper_checkTy h.types htype
    exact .of_operands rfl rfl (proper_list.mpr ⟨hvalue, helement⟩)
      (List.forall_mem_singleton.mpr helement) (List.forall_mem_nil _)
      (forall_of_related hitems fun _ _ h => h hvars)
  case follow =>
    intro vars written member location receiver type hreceiver htype hvars
    have hmember := hasMember_of_memberType h htype
    exact .of_operands rfl rfl (hmember.proper h.formed hclean (hreceiver hvars).type)
      (List.forall_mem_nil _) (List.forall_mem_nil _)
      (List.forall_mem_singleton.mpr (hreceiver hvars))
  case call =>
    intro vars reference written choices location entity function given args chosen ground
      hcallee hchoices hrelated hground hvars
    obtain ⟨entry, signature, -, -, hsignature, rfl⟩ := passes_callee h hcallee
    have hargs := forall_of_related hrelated fun _ _ h => h hvars
    obtain ⟨hchosen, houtput⟩ :=
      proper_groundCall (Library.proper_functionType h.formed hclean hsignature _)
        (hgiven hchoices) (fun a ha => (hargs a ha).type) hground
    exact .of_operands rfl rfl houtput (fun c hc => (hchosen c hc).proper)
      (fun c hc => (hchosen c hc).value) hargs
  case callValue =>
    intro vars callee written choices location value function given args chosen ground hvalue
      hfunction hchoices hrelated hground hvars
    have htype := (hvalue hvars).type
    rw [Ty.eq_toTy_of_function? hfunction] at htype
    have hargs := forall_of_related hrelated fun _ _ h => h hvars
    obtain ⟨hchosen, houtput⟩ :=
      proper_groundCall htype (hgiven hchoices) (fun a ha => (hargs a ha).type) hground
    exact .of_operands rfl rfl houtput (fun c hc => (hchosen c hc).proper)
      (fun c hc => (hchosen c hc).value) (List.forall_mem_cons.mpr ⟨hvalue hvars, hargs⟩)
  case bind =>
    intro vars reference written choices location entity function given slots chosen bound
      hcallee hchoices hrelated hbound hvars
    obtain ⟨entry, signature, -, -, hsignature, rfl⟩ := passes_callee h hcallee
    have hslots := forall_some_of_related hrelated fun _ _ h => h hvars
    obtain ⟨hchosen, htype, hreference⟩ :=
      proper_bindFunction (Library.proper_functionType h.formed hclean hsignature _)
        (hgiven hchoices) (fun e he => (hslots e he).type) hbound
    refine .of_parts htype (fun c hc => (hchosen c (List.reduceOption_mem_iff.mp hc)).proper)
      (fun c hc => (hchosen c (List.reduceOption_mem_iff.mp hc)).value) (fun hholds => ?_)
      (fun e he => hslots e (List.reduceOption_mem_iff.mp he)) (List.forall_mem_nil _)
    exact hreference.trans (Bool.or_eq_true_iff.mpr (.inr hholds))
  case bindValue =>
    intro vars callee written choices location value function given slots chosen bound hvalue
      hfunction hchoices hrelated hbound hvars
    have htype := (hvalue hvars).type
    have heq := Ty.eq_toTy_of_function? hfunction
    rw [heq] at htype
    have hslots := forall_some_of_related hrelated fun _ _ h => h hvars
    obtain ⟨hchosen, htype, hreference⟩ :=
      proper_bindFunction htype (hgiven hchoices) (fun e he => (hslots e he).type) hbound
    refine .of_parts htype (fun c hc => (hchosen c (List.reduceOption_mem_iff.mp hc)).proper)
      (fun c hc => (hchosen c (List.reduceOption_mem_iff.mp hc)).value) (fun hholds => ?_)
      (List.forall_mem_cons.mpr ⟨hvalue hvars, fun e he =>
        hslots e (List.reduceOption_mem_iff.mp he)⟩) (List.forall_mem_nil _)
    rw [Node.holdsReference, heq] at hholds
    exact hreference.trans hholds
  case ifThen =>
    intro vars written first second location condition thenBlock elseBlock hcondition hboolean
      hthen helse hsame hvars
    exact .of_parts (hthen hvars).last.type (List.forall_mem_nil _) (List.forall_mem_nil _)
      (by simp [Node.holdsReference]) (List.forall_mem_singleton.mpr (hcondition hvars))
      (List.forall_mem_cons.mpr ⟨hthen hvars, List.forall_mem_singleton.mpr (helse hvars)⟩)
  case closure =>
    intro site vars written result inner location args output body hnames hnew hwritten houtput
      hbody hsame hvars
    have hargs : ∀ a ∈ args, a.type.Proper (around.library.exactly setting.typeParams) 0 :=
      forall_of_related hwritten fun _ _ h' => proper_checkTy h.types h'.1
    have houtput := proper_checkTy h.types houtput
    have hcaptures : ∀ v ∈ vars.captured body.names,
        v.type.Proper (around.library.exactly setting.typeParams) 0 :=
      fun v hv => hvars v (Variables.go_captured.1.mem hv)
    refine .of_parts ?_ ?_ (List.forall_mem_nil _) id (List.forall_mem_nil _)
      (List.forall_mem_singleton.mpr (hbody ?_))
    · simpa [proper_function] using ⟨hargs, houtput⟩
    · simp only [Node.types, Closure.args, Closure.captures, Closure.output,
        List.forall_mem_append, List.forall_mem_map, List.forall_mem_singleton]
      exact ⟨hargs, hcaptures, houtput⟩
    · exact List.forall_mem_append.mpr ⟨hvars, hargs⟩
  case last =>
    intro vars written expr hexpr hactions hvars
    exact ⟨List.forall_mem_nil _, forall_partsOfBlock_last (hexpr hvars)⟩
  case statement =>
    intro vars written rest statement block hpasses hblock hvars
    have hvalue : statement.value.Proper (around.library.exactly setting.typeParams) := by
      cases hpasses with
      | assign hvalue => exact hvalue hvars
      | bare hvalue => exact hvalue hvars
    have hdeclared : ∀ v ∈ statement.declared,
        v.type.Proper (around.library.exactly setting.typeParams) 0 := by
      cases hpasses with
      | assign => exact List.forall_mem_singleton.mpr hvalue.type
      | bare => exact List.forall_mem_nil _
    exact (hblock (List.forall_mem_append.mpr ⟨hvars, hdeclared⟩)).cons hdeclared hvalue

end TypedModules
