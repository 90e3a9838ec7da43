import TypedModules.Proofs.Typing.Induction
import TypedModules.Proofs.Typing.Module

/-!
# What a check makes sure of besides types

An expression says of itself whether its value may be shared with a variable.  In a tree that
passes, it says so by what it is made of, no variable is given a reference that may be shared,
and the types that are written at an expression are types that pass a check themselves.
-/

namespace TypedModules

open Check

/-- Whether the value of a node may be shared with a variable: it may if the node reads a
variable, or takes its value from an expression that may be shared. -/
def Node.aliasing : Node → Aliasing
  | .variable _ => .possiblyAliased
  | .follow receiver _ => receiver.aliasing
  | .bindValue function _ _ => function.aliasing
  | .ifThen _ thenBlock elseBlock => thenBlock.aliasing.join elseBlock.aliasing
  | _ => .notAliased

/-- Whether a statement gives no variable a reference that may be shared. -/
def Stmt.Unshared : Stmt → Prop
  | .assign _ _ value => value.type.isReference = true → value.aliasing = .notAliased
  | .bare _ => True

/-- The types that are written at an expression itself: that of a literal, that of the items of a
list, and those of the arguments and the output of a closure. -/
def Expr.written : Expr → List Ty
  | .mk type _ (.literal _) => [type]
  | .mk _ _ (.list _ element) => [element]
  | .mk _ _ (.closure closure) => closure.args.map (·.type) ++ [closure.output]
  | .mk _ _ _ => []

/-- What a check in a setting makes sure of at an expression itself. -/
structure Expr.VettedHere (setting : Setting) (expr : Expr) : Prop where
  aliasing : expr.aliasing = expr.node.aliasing
  unshared : ∀ block ∈ expr.node.blocks, ∀ s ∈ block.statements, s.Unshared
  written : ∀ type ∈ expr.written, ∃ source, (checkTy setting source).Passes type

/-- What a check makes sure of at each expression in an expression. -/
def Expr.Vetted (setting : Setting) (expr : Expr) : Prop :=
  ∀ part ∈ expr.parts, part.VettedHere setting

/-- What a check makes sure of in a block. -/
structure Block.Vetted (setting : Setting) (block : Block) : Prop where
  unshared : ∀ s ∈ block.statements, s.Unshared
  parts : ∀ part ∈ block.parts, part.VettedHere setting

theorem Block.Vetted.cons {setting : Setting} {block : Block} (h : block.Vetted setting) {s : Stmt}
    (hunshared : s.Unshared) (hvalue : s.value.Vetted setting) :
  (Block.mk (s :: block.statements) block.last).Vetted setting
  := ⟨List.forall_mem_cons.mpr ⟨hunshared, h.unshared⟩, forall_partsOfBlock_cons hvalue h.parts⟩

theorem Expr.Vetted.of_parts {setting : Setting} {type : Ty} {aliasing : Aliasing} {node : Node}
    (haliasing : aliasing = node.aliasing)
    (hwritten : ∀ here ∈ (Expr.mk type aliasing node).written, ∃ source,
      (checkTy setting source).Passes here)
    (hoperands : ∀ operand ∈ node.operands, operand.Vetted setting)
    (hblocks : ∀ block ∈ node.blocks, block.Vetted setting) :
  (Expr.mk type aliasing node).Vetted setting
  := forall_parts
    ⟨haliasing, fun block hblock => (hblocks block hblock).unshared, hwritten⟩
    hoperands fun block hblock => (hblocks block hblock).parts

/-! ### Trees that pass -/

/-- The rules of the checker vet what they make. -/
theorem carries_vetted (setting : Setting) :
  setting.Carries (fun _ _ expr => expr.Vetted setting) fun _ _ block => block.Vetted setting
  := by
  have hslots : ∀ {written : List (Option SourceExpr)} {slots : List (Option Expr)},
      List.Forall₂ (Option.Rel fun _ expr => expr.Vetted setting) written slots →
      ∀ expr ∈ slots.reduceOption, expr.Vetted setting := fun hrelated expr hexpr =>
    forall_some_of_related hrelated (fun _ _ => id) expr (List.reduceOption_mem_iff.mp hexpr)
  constructor
  case name =>
    exact fun _ => .of_parts rfl (List.forall_mem_nil _) (List.forall_mem_nil _)
      (List.forall_mem_nil _)
  case literal =>
    intro vars written text location type form htype hform haccepts
    exact .of_parts rfl (List.forall_mem_singleton.mpr ⟨written, htype⟩) (by simp [Node.operands])
      (by simp [Node.blocks])
  case list =>
    intro vars written element location items type htype hvalue hitems hsame
    exact .of_parts rfl (List.forall_mem_singleton.mpr ⟨element, htype⟩)
      (forall_of_related hitems fun _ _ => id) (by simp [Node.blocks])
  case follow =>
    intro vars written member location receiver type hreceiver htype
    exact .of_parts rfl (List.forall_mem_nil _) (List.forall_mem_singleton.mpr hreceiver)
      (List.forall_mem_nil _)
  case call =>
    intro vars reference written choices location entity function given args chosen ground
      hcallee hgiven hargs hground
    exact .of_parts rfl (List.forall_mem_nil _) (forall_of_related hargs fun _ _ => id)
      (List.forall_mem_nil _)
  case callValue =>
    intro vars callee written choices location value function given args chosen ground hvalue
      hfunction hgiven hargs hground
    have hoperands := List.forall_mem_cons.mpr ⟨hvalue, forall_of_related hargs fun _ _ => id⟩
    exact .of_parts rfl (List.forall_mem_nil _) hoperands (by simp [Node.blocks])
  case bind =>
    intro vars reference written choices location entity function given slots chosen bound
      hcallee hgiven hrelated hbound
    exact .of_parts rfl (List.forall_mem_nil _) (hslots hrelated) (by simp [Node.blocks])
  case bindValue =>
    intro vars callee written choices location value function given slots chosen bound hvalue
      hfunction hgiven hrelated hbound
    have hoperands := List.forall_mem_cons.mpr ⟨hvalue, hslots hrelated⟩
    exact .of_parts rfl (List.forall_mem_nil _) hoperands (by simp [Node.blocks])
  case ifThen =>
    intro vars written first second location condition thenBlock elseBlock hcondition hboolean
      hthen helse hsame
    exact .of_parts rfl (List.forall_mem_nil _) (by simpa [Node.operands] using hcondition)
      (by simpa [Node.blocks] using ⟨hthen, helse⟩)
  case closure =>
    intro site vars written result inner location args output body hnames hnew hwritten houtput
      hbody hsame
    refine .of_parts rfl ?_ (by simp [Node.operands])
      (by simpa [Node.blocks, Closure.body] using hbody)
    simp only [Expr.written, Closure.args, Closure.output]
    rw [List.forall_mem_append, List.forall_mem_map, List.forall_mem_singleton]
    refine ⟨fun arg harg => ?_, result, houtput⟩
    obtain ⟨source, -, htype, -⟩ := exists_related_left hwritten harg
    exact ⟨source.type, htype⟩
  case last =>
    exact fun hexpr _ => ⟨List.forall_mem_nil _, forall_partsOfBlock_last hexpr⟩
  case statement =>
    intro vars written rest statement block hpasses hblock
    cases hpasses with
    | assign hvalue _ _ hunshared => exact hblock.cons hunshared hvalue
    | bare hvalue => exact hblock.cons trivial hvalue

/-- A block that passes is vetted. -/
theorem vetted_checkBlock {setting : Setting} (site : Site) (vars : Variables)
    (written : SourceBlock) {block : Block}
    (hp : (checkBlock setting site vars written).Passes block) :
  block.Vetted setting
  := (carries_vetted setting).of_block site vars written hp

/-! ### Checked modules -/

section Checked

variable {number : Nat} {context : Context} {name : ModuleName} {dependencies : List Module}
  {module : Module}

/-- The bodies of a checked module are vetted where the type parameters of the declarations are
in scope. -/
theorem Checked.vetted (h : Checked number context name dependencies module) :
  (∀ function ∈ module.functions, function.body.Vetted
      ((Setting.ofBodies number context dependencies module).within function.typeParams))
    ∧ ∀ struct ∈ module.structs, ∀ block, struct.requires = some block → block.Vetted
      ((Setting.ofBodies number context dependencies module).within struct.typeParams)
  := by
  constructor
  · intro function hfunction
    obtain ⟨written, hpasses, -⟩ := h.passes_body hfunction
    exact vetted_checkBlock _ _ written hpasses
  · intro struct hstruct block hblock
    obtain ⟨written, hpasses, -⟩ := h.passes_requires hstruct hblock
    exact vetted_checkBlock _ _ written hpasses

/-- Whatever stands in the bodies of a checked module is vetted where some type parameters are in
scope. -/
theorem Checked.vetted_part (h : Checked number context name dependencies module) {part : Expr}
    (hpart : part ∈ module.parts) :
  ∃ typeParams, part.VettedHere
    ((Setting.ofBodies number context dependencies module).within typeParams)
  := by
  obtain hpart | hpart := List.mem_append.mp hpart
  · obtain ⟨function, hfunction, hpart⟩ := List.mem_flatMap.mp hpart
    exact ⟨_, (h.vetted.1 function hfunction).parts part hpart⟩
  · obtain ⟨struct, hstruct, hpart⟩ := List.mem_flatMap.mp hpart
    obtain ⟨block, hblock, hpart⟩ := List.mem_flatMap.mp hpart
    exact ⟨_, (h.vetted.2 struct hstruct block (Option.mem_toList.mp hblock)).parts part hpart⟩

end Checked

end TypedModules
