import Mathlib.Data.List.ReduceOption
import TypedModules.Proofs.Typing.Judgement

/-!
# Induction over typed trees

Induction over expressions and blocks together, with the hypotheses that a node has for the
expressions and blocks directly inside it, and the expressions that stand in a tree at any
depth: each of them is well typed if the tree is.
-/

namespace TypedModules

/-- Induction over expressions and blocks. -/
theorem tree_induction {P : Expr → Prop} {Q : Block → Prop}
    (name : ∀ type aliasing name, P (.mk type aliasing (.variable name)))
    (literal : ∀ type aliasing text, P (.mk type aliasing (.literal text)))
    (list : ∀ type aliasing items element, (∀ item ∈ items, P item) →
      P (.mk type aliasing (.list items element)))
    (follow : ∀ type aliasing receiver member, P receiver →
      P (.mk type aliasing (.follow receiver member)))
    (call : ∀ type aliasing function entity args chosen, (∀ arg ∈ args, P arg) →
      P (.mk type aliasing (.call function entity args chosen)))
    (callValue : ∀ type aliasing function args chosen, P function → (∀ arg ∈ args, P arg) →
      P (.mk type aliasing (.callValue function args chosen)))
    (bind : ∀ type aliasing function entity slots chosen, (∀ e, some e ∈ slots → P e) →
      P (.mk type aliasing (.bind function entity slots chosen)))
    (bindValue : ∀ type aliasing function slots chosen, P function →
      (∀ e, some e ∈ slots → P e) → P (.mk type aliasing (.bindValue function slots chosen)))
    (ifThen : ∀ type aliasing condition thenBlock elseBlock, P condition → Q thenBlock →
      Q elseBlock → P (.mk type aliasing (.ifThen condition thenBlock elseBlock)))
    (closure : ∀ type aliasing site args captures output body, Q body →
      P (.mk type aliasing (.closure (.mk site args captures output body))))
    (block : ∀ statements last, (∀ s ∈ statements, P s.value) → P last →
      Q (.mk statements last)) :
  (∀ expr, P expr) ∧ ∀ block, Q block
  := by
  have key : ∀ expr, P expr :=
    @Expr.rec P (fun node => ∀ type aliasing, P (.mk type aliasing node))
      (fun closure => Q closure.body) (fun statement => P statement.value) Q
      (fun exprs => ∀ e ∈ exprs, P e) (fun slots => ∀ e, some e ∈ slots → P e)
      (fun statements => ∀ s ∈ statements, P s.value) (fun slot => ∀ e, slot = some e → P e)
      (fun type aliasing _ h => h type aliasing)
      (fun n type aliasing => name type aliasing n)
      (fun text type aliasing => literal type aliasing text)
      (fun items element h type aliasing => list type aliasing items element h)
      (fun receiver member h type aliasing => follow type aliasing receiver member h)
      (fun function entity args chosen h type aliasing =>
        call type aliasing function entity args chosen h)
      (fun function args chosen h hs type aliasing =>
        callValue type aliasing function args chosen h hs)
      (fun function entity slots chosen h type aliasing =>
        bind type aliasing function entity slots chosen h)
      (fun function slots chosen h hs type aliasing =>
        bindValue type aliasing function slots chosen h hs)
      (fun condition thenBlock elseBlock h h' h'' type aliasing =>
        ifThen type aliasing condition thenBlock elseBlock h h' h'')
      (fun | .mk site args captures output body => fun h type aliasing =>
        closure type aliasing site args captures output body h)
      (fun _ _ _ _ _ h => h) (fun _ _ _ h => h) (fun _ h => h) block
      (fun _ h => nomatch h) (fun _ _ h hs => List.forall_mem_cons.mpr ⟨h, hs⟩)
      (fun _ h => nomatch h)
      (fun _ _ h hs e he => (List.mem_cons.mp he).elim (fun e' => h e e'.symm) (hs e))
      (fun _ h => nomatch h)
      (fun _ _ h hs => List.forall_mem_cons.mpr ⟨h, hs⟩) (fun _ h => nomatch h)
      (fun _ h _ e => Option.some.inj e ▸ h)
  exact ⟨key, fun | .mk statements last => block statements last (fun s _ => key s.value) (key last)⟩

/-! ### The expressions of a tree -/

mutual

/-- An expression with all that stand in it at any depth, in the bodies of closures too. -/
def Expr.parts : Expr → List Expr
  | .mk type aliasing node => .mk type aliasing node :: node.parts

/-- The expressions in a node. -/
def Node.parts : Node → List Expr
  | .variable _ => []
  | .literal _ => []
  | .list items _ => partsOfExprs items
  | .follow receiver _ => receiver.parts
  | .call _ _ args _ => partsOfExprs args
  | .callValue function args _ => function.parts ++ partsOfExprs args
  | .bind _ _ slots _ => partsOfSlots slots
  | .bindValue function slots _ => function.parts ++ partsOfSlots slots
  | .ifThen condition thenBlock elseBlock =>
    condition.parts ++ (thenBlock.parts ++ elseBlock.parts)
  | .closure (.mk _ _ _ _ body) => body.parts

/-- The expressions in a list of expressions. -/
def partsOfExprs : List Expr → List Expr
  | [] => []
  | expr :: rest => expr.parts ++ partsOfExprs rest

/-- The expressions in slots. -/
def partsOfSlots : List (Option Expr) → List Expr
  | [] => []
  | none :: rest => partsOfSlots rest
  | some expr :: rest => expr.parts ++ partsOfSlots rest

/-- The expressions in a statement. -/
def Stmt.parts : Stmt → List Expr
  | .assign _ _ value => value.parts
  | .bare value => value.parts

/-- The expressions in statements. -/
def partsOfStmts : List Stmt → List Expr
  | [] => []
  | statement :: rest => statement.parts ++ partsOfStmts rest

/-- The expressions in a block. -/
def Block.parts : Block → List Expr
  | .mk statements last => partsOfStmts statements ++ last.parts

end

/-- The expressions in the bodies of a module. -/
def Module.parts (module : Module) : List Expr :=
  module.functions.flatMap (·.body.parts)
    ++ module.structs.flatMap fun struct => struct.requires.toList.flatMap Block.parts

theorem mem_partsOfExprs {part : Expr} {exprs : List Expr} :
  part ∈ partsOfExprs exprs ↔ ∃ expr ∈ exprs, part ∈ expr.parts
  := by
  induction exprs with
  | nil => simp [partsOfExprs]
  | cons expr rest ih => simp [partsOfExprs, ih]

theorem mem_partsOfSlots {part : Expr} {slots : List (Option Expr)} :
  part ∈ partsOfSlots slots ↔ ∃ expr, some expr ∈ slots ∧ part ∈ expr.parts
  := by
  induction slots with
  | nil => simp [partsOfSlots]
  | cons slot rest ih => cases slot <;> simp [partsOfSlots, ih, or_and_right, exists_or]

theorem mem_partsOfStmts {part : Expr} {statements : List Stmt} :
  part ∈ partsOfStmts statements ↔ ∃ s ∈ statements, part ∈ s.value.parts
  := by
  induction statements with
  | nil => simp [partsOfStmts]
  | cons statement rest ih =>
    cases statement <;> simp [partsOfStmts, Stmt.parts, Stmt.value, ih]

/-- The expressions that are evaluated for a node itself, in their order. -/
def Node.operands : Node → List Expr
  | .variable _ => []
  | .literal _ => []
  | .list items _ => items
  | .follow receiver _ => [receiver]
  | .call _ _ args _ => args
  | .callValue function args _ => function :: args
  | .bind _ _ slots _ => slots.reduceOption
  | .bindValue function slots _ => function :: slots.reduceOption
  | .ifThen condition _ _ => [condition]
  | .closure _ => []

/-- The blocks that stand in a node, outside its operands. -/
def Node.blocks : Node → List Block
  | .ifThen _ thenBlock elseBlock => [thenBlock, elseBlock]
  | .closure c => [c.body]
  | _ => []

/-- Induction over expressions and blocks, by the operands and the blocks of a node. -/
theorem operand_induction {P : Expr → Prop} {Q : Block → Prop}
    (expr : ∀ type aliasing node, (∀ operand ∈ node.operands, P operand) →
      (∀ block ∈ node.blocks, Q block) → P (.mk type aliasing node))
    (block : ∀ block, (∀ s ∈ block.statements, P s.value) → P block.last → Q block) :
  (∀ expr, P expr) ∧ ∀ block, Q block
  := by
  apply tree_induction
  case name => exact fun _ _ _ => expr _ _ _ nofun nofun
  case literal => exact fun _ _ _ => expr _ _ _ nofun nofun
  case list => exact fun _ _ _ _ ihItems => expr _ _ _ ihItems nofun
  case follow =>
    exact fun _ _ _ _ ih => expr _ _ _ (List.forall_mem_singleton.mpr ih) nofun
  case call => exact fun _ _ _ _ _ _ ihArgs => expr _ _ _ ihArgs nofun
  case callValue =>
    exact fun _ _ _ _ _ ih ihArgs => expr _ _ _ (List.forall_mem_cons.mpr ⟨ih, ihArgs⟩) nofun
  case bind =>
    exact fun _ _ _ _ _ _ ihSlots =>
      expr _ _ _ (fun e he => ihSlots e (List.reduceOption_mem_iff.mp he)) nofun
  case bindValue =>
    exact fun _ _ _ _ _ ih ihSlots => expr _ _ _ (List.forall_mem_cons.mpr
      ⟨ih, fun e he => ihSlots e (List.reduceOption_mem_iff.mp he)⟩) nofun
  case ifThen =>
    exact fun _ _ _ _ _ ih ihThen ihElse => expr _ _ _ (List.forall_mem_singleton.mpr ih)
      (List.forall_mem_cons.mpr ⟨ihThen, List.forall_mem_singleton.mpr ihElse⟩)
  case closure =>
    exact fun _ _ _ _ _ _ _ ih => expr _ _ _ nofun (List.forall_mem_singleton.mpr ih)
  case block => exact fun _ _ ihValues ihLast => block _ ihValues ihLast

/-- What stands in a node stands in its operands and its blocks. -/
theorem mem_partsOfNode {part : Expr} {node : Node} :
  part ∈ node.parts
    ↔ (∃ operand ∈ node.operands, part ∈ operand.parts)
      ∨ ∃ block ∈ node.blocks, part ∈ block.parts
  := by
  cases node with
  | closure closure =>
    cases closure
    simp [Node.parts, Node.operands, Node.blocks, Closure.body]
  | _ => simp [Node.parts, Node.operands, Node.blocks, mem_partsOfExprs, mem_partsOfSlots,
      List.reduceOption_mem_iff]

theorem mem_partsOfBlock {part : Expr} {block : Block} :
  part ∈ block.parts
    ↔ (∃ s ∈ block.statements, part ∈ s.value.parts) ∨ part ∈ block.last.parts
  := by
  cases block
  simp [Block.parts, Block.statements, Block.last, mem_partsOfStmts]

section Parts

variable {P : Expr → Prop}

/-- What holds of an expression and in its operands and blocks holds of each expression in it. -/
theorem forall_parts {type : Ty} {aliasing : Aliasing} {node : Node}
    (hhere : P (.mk type aliasing node))
    (hoperands : ∀ operand ∈ node.operands, ∀ part ∈ operand.parts, P part)
    (hblocks : ∀ block ∈ node.blocks, ∀ part ∈ block.parts, P part) :
  ∀ part ∈ (Expr.mk type aliasing node).parts, P part
  := by
  intro part hpart
  obtain rfl | hpart := List.mem_cons.mp hpart
  · exact hhere
  · obtain ⟨operand, hoperand, hpart⟩ | ⟨block, hblock, hpart⟩ := mem_partsOfNode.mp hpart
    · exact hoperands operand hoperand part hpart
    · exact hblocks block hblock part hpart

theorem forall_partsOfBlock_last {expr : Expr} (h : ∀ part ∈ expr.parts, P part) :
  ∀ part ∈ (Block.mk [] expr).parts, P part
  := by
  intro part hpart
  obtain ⟨_, hs, -⟩ | hpart := mem_partsOfBlock.mp hpart
  · cases hs
  · exact h part hpart

theorem forall_partsOfBlock_cons {statement : Stmt} {block : Block}
    (hvalue : ∀ part ∈ statement.value.parts, P part) (hblock : ∀ part ∈ block.parts, P part) :
  ∀ part ∈ (Block.mk (statement :: block.statements) block.last).parts, P part
  := by
  intro part hmem
  obtain ⟨s, hs, hpart⟩ | hpart := mem_partsOfBlock.mp hmem
  · obtain rfl | hs := List.mem_cons.mp hs
    · exact hvalue part hpart
    · exact hblock part (mem_partsOfBlock.mpr (.inl ⟨s, hs, hpart⟩))
  · exact hblock part (mem_partsOfBlock.mpr (.inr hpart))

end Parts

/-- An expression or a block. -/
inductive Tree where
  | expr (expr : Expr)
  | block (block : Block)

/-- The expressions that stand in a tree at any depth. -/
def Tree.parts : Tree → List Expr
  | expr e => e.parts
  | block b => b.parts

/-- The value of each statement is well typed in turn. -/
theorem StmtsTyped.value {around : Surroundings} {vars : Variables} {statements : List Stmt}
    (h : StmtsTyped around vars statements) {statement : Stmt} (hmem : statement ∈ statements) :
  ∃ visible, statement.value.Typed around visible
  := by
  induction statements generalizing vars with
  | nil => cases hmem
  | cons first rest ih =>
    obtain rfl | hrest := List.mem_cons.mp hmem
    · cases statement with
      | assign name type value => exact ⟨vars, h.1.2.1⟩
      | bare value => exact ⟨vars, h.1⟩
    · exact ih h.2 hrest

section Parts

variable {around : Surroundings}

/-- Whatever stands in a well typed tree is well typed where the variables are visible that
are declared around it. -/
theorem typed_parts :
  (∀ (expr : Expr) (vars : Variables), expr.Typed around vars →
      ∀ part ∈ expr.parts, ∃ visible, part.Typed around visible)
    ∧ ∀ (block : Block) (vars : Variables), block.Typed around vars →
      ∀ part ∈ block.parts, ∃ visible, part.Typed around visible
  := by
  -- an expression is a part of itself, so only its node is left to look at
  have step : ∀ {expr : Expr} {vars : Variables}, expr.Typed around vars →
      (∀ part ∈ expr.node.parts, ∃ visible, part.Typed around visible) →
      ∀ part ∈ expr.parts, ∃ visible, part.Typed around visible := by
    intro expr vars htyped hnode part hpart
    cases expr with
    | mk type aliasing node =>
      obtain rfl | hpart := List.mem_cons.mp hpart
      · exact ⟨vars, htyped⟩
      · exact hnode part hpart
  apply tree_induction
  case name => exact fun type aliasing name vars h => step h fun _ hpart => nomatch hpart
  case literal => exact fun type aliasing text vars h => step h fun _ hpart => nomatch hpart
  case list =>
    intro type aliasing items element ih vars h
    refine step h fun part hpart => ?_
    obtain ⟨item, hitem, hpart⟩ := mem_partsOfExprs.mp hpart
    exact ih item hitem vars (areTyped_iff.mp h.2.2.1 item hitem) part hpart
  case follow =>
    intro type aliasing receiver member ih vars h
    exact step h (ih vars h.2.1)
  case call =>
    intro type aliasing function entity args chosen ih vars h
    refine step h fun part hpart => ?_
    obtain ⟨arg, harg, hpart⟩ := mem_partsOfExprs.mp hpart
    exact ih arg harg vars (areTyped_iff.mp h.2.1 arg harg) part hpart
  case callValue =>
    intro type aliasing function args chosen ih ihs vars h
    refine step h fun part hpart => ?_
    obtain hpart | hpart := List.mem_append.mp hpart
    · exact ih vars h.2.1 part hpart
    · obtain ⟨arg, harg, hpart⟩ := mem_partsOfExprs.mp hpart
      exact ihs arg harg vars (areTyped_iff.mp h.2.2.1 arg harg) part hpart
  case bind =>
    intro type aliasing function entity slots chosen ih vars h
    refine step h fun part hpart => ?_
    obtain ⟨e, he, hpart⟩ := mem_partsOfSlots.mp hpart
    exact ih e he vars (slotsTyped_iff.mp h.2.1 e he) part hpart
  case bindValue =>
    intro type aliasing function slots chosen ih ihs vars h
    refine step h fun part hpart => ?_
    obtain hpart | hpart := List.mem_append.mp hpart
    · exact ih vars h.2.1 part hpart
    · obtain ⟨e, he, hpart⟩ := mem_partsOfSlots.mp hpart
      exact ihs e he vars (slotsTyped_iff.mp h.2.2.1 e he) part hpart
  case ifThen =>
    intro type aliasing condition thenBlock elseBlock ih ihThen ihElse vars h
    refine step h fun part hpart => ?_
    obtain ⟨-, hcondition, -, hthen, -, helse, -⟩ := h
    obtain hpart | hpart := List.mem_append.mp hpart
    · exact ih vars hcondition part hpart
    · obtain hpart | hpart := List.mem_append.mp hpart
      · exact ihThen vars hthen part hpart
      · exact ihElse vars helse part hpart
  case closure =>
    intro type aliasing site args captures output body ih vars h
    refine step h fun part hpart => ?_
    obtain ⟨-, -, -, -, hbody, -⟩ := h
    exact ih _ hbody part hpart
  case block =>
    rintro statements last ih ihLast vars ⟨hstatements, hlast⟩ part hpart
    obtain hpart | hpart := List.mem_append.mp hpart
    · obtain ⟨s, hs, hpart⟩ := mem_partsOfStmts.mp hpart
      obtain ⟨visible, hvalue⟩ := hstatements.value hs
      exact ih s hs visible hvalue part hpart
    · exact ihLast _ hlast part hpart

/-- Whatever stands in the bodies of a well typed module is well typed. -/
theorem Module.Typed.parts {module : Module} (h : module.Typed around) {part : Expr}
    (hpart : part ∈ module.parts) :
  ∃ visible, part.Typed around visible
  := by
  obtain hpart | hpart := List.mem_append.mp hpart
  · obtain ⟨function, hfunction, hpart⟩ := List.mem_flatMap.mp hpart
    exact typed_parts.2 _ _ (h.functions function hfunction).1 part hpart
  · obtain ⟨struct, hstruct, hpart⟩ := List.mem_flatMap.mp hpart
    obtain ⟨block, hblock, hpart⟩ := List.mem_flatMap.mp hpart
    exact typed_parts.2 _ _ (h.requires struct hstruct block (Option.mem_toList.mp hblock)).1 part
      hpart

end Parts

end TypedModules
