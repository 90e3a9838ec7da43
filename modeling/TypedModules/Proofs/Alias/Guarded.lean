import TypedModules.Proofs.Typing.Vetted

/-!
# References that may be shared

An expression says of itself whether its value may be shared with a variable.  In a tree that
passes, it says so by what it is made of, and no variable is given a reference that may be shared:
the tree is guarded.  So are all bodies of accepted modules, and the closures in them.
-/

namespace TypedModules

/-- Whether every expression in a tree says rightly whether its value may be shared, and no
variable is given a reference that may be. -/
inductive Expr.Guarded : Expr → Prop
  | intro {type : Ty} {aliasing : Aliasing} {node : Node} :
    aliasing = node.aliasing →
    (∀ operand ∈ node.operands, Guarded operand) →
    (∀ block ∈ node.blocks, ∀ s ∈ block.statements, s.Unshared) →
    (∀ block ∈ node.blocks, ∀ s ∈ block.statements, Guarded s.value) →
    (∀ block ∈ node.blocks, Guarded block.last) →
    Guarded (.mk type aliasing node)

/-- Whether every statement and the value of a block are guarded. -/
structure Block.Guarded (block : Block) : Prop where
  statements : ∀ s ∈ block.statements, s.Unshared ∧ s.value.Guarded
  last : block.last.Guarded

theorem Expr.Guarded.of_parts {type : Ty} {aliasing : Aliasing} {node : Node}
    (haliasing : aliasing = node.aliasing) (hoperands : ∀ operand ∈ node.operands, operand.Guarded)
    (hblocks : ∀ block ∈ node.blocks, block.Guarded) :
  (Expr.mk type aliasing node).Guarded
  := by
  constructor
  · exact haliasing
  · exact hoperands
  · exact fun block hblock s hs => ((hblocks block hblock).statements s hs).1
  · exact fun block hblock s hs => ((hblocks block hblock).statements s hs).2
  · exact fun block hblock => (hblocks block hblock).last

namespace Expr.Guarded

variable {expr : Expr}

theorem aliasing (h : expr.Guarded) :
  expr.aliasing = expr.node.aliasing
  := by
  cases h
  assumption

theorem operand (h : expr.Guarded) {operand : Expr} (hoperand : operand ∈ expr.node.operands) :
  operand.Guarded
  := by
  cases h with
  | intro _ hoperands => exact hoperands operand hoperand

theorem block (h : expr.Guarded) {block : Block} (hblock : block ∈ expr.node.blocks) :
  block.Guarded
  := by
  cases h with
  | intro _ _ hunshared hvalues hlast =>
    exact ⟨fun s hs => ⟨hunshared block hblock s hs, hvalues block hblock s hs⟩, hlast block hblock⟩

/-- Whatever stands in a guarded expression is guarded. -/
theorem part (h : expr.Guarded) {part : Expr} (hpart : part ∈ expr.parts) :
  part.Guarded
  := by
  induction h with
  | intro haliasing hoperands hunshared hvalues hlast ihOperands ihValues ihLast =>
    obtain rfl | hpart := List.mem_cons.mp hpart
    · exact .intro haliasing hoperands hunshared hvalues hlast
    obtain ⟨operand, hoperand, hpart⟩ | ⟨block, hblock, hpart⟩ := mem_partsOfNode.mp hpart
    · exact ihOperands operand hoperand hpart
    obtain ⟨s, hs, hpart⟩ | hpart := mem_partsOfBlock.mp hpart
    · exact ihValues block hblock s hs hpart
    · exact ihLast block hblock hpart

end Expr.Guarded

theorem Block.Guarded.part {block : Block} (h : block.Guarded) {part : Expr}
    (hpart : part ∈ block.parts) :
  part.Guarded
  := by
  obtain ⟨s, hs, hpart⟩ | hpart := mem_partsOfBlock.mp hpart
  · exact (h.statements s hs).2.part hpart
  · exact h.last.part hpart

/-! ### Accepted modules -/

/-- Trees that are vetted are guarded. -/
theorem guarded_of_vetted {setting : Setting} :
  (∀ expr : Expr, expr.Vetted setting → expr.Guarded)
    ∧ ∀ block : Block, block.Vetted setting → block.Guarded
  := by
  apply operand_induction
  · intro type aliasing node ihOperands ihBlocks h
    have hhere := h _ (List.mem_cons_self)
    refine .of_parts hhere.aliasing (fun operand hoperand => ?_) fun block hblock => ?_
    · refine ihOperands operand hoperand fun part hpart => h part ?_
      exact List.mem_cons_of_mem _ (mem_partsOfNode.mpr (.inl ⟨operand, hoperand, hpart⟩))
    · refine ihBlocks block hblock ⟨hhere.unshared block hblock, fun part hpart => h part ?_⟩
      exact List.mem_cons_of_mem _ (mem_partsOfNode.mpr (.inr ⟨block, hblock, hpart⟩))
  · intro block ihValues ihLast h
    refine ⟨fun s hs => ⟨h.unshared s hs, ihValues s hs fun part hpart => h.parts part ?_⟩,
      ihLast fun part hpart => h.parts part ?_⟩
    · exact mem_partsOfBlock.mpr (.inl ⟨s, hs, hpart⟩)
    · exact mem_partsOfBlock.mpr (.inr hpart)

/-- The bodies of an accepted module are guarded. -/
theorem Accepted.guarded {module : Module} (h : Accepted module) :
  (∀ function ∈ module.functions, function.body.Guarded)
    ∧ ∀ struct ∈ module.structs, ∀ block, struct.requires = some block → block.Guarded
  := by
  obtain ⟨number, context, name, dependencies, -, hchecked⟩ := h.checked
  obtain ⟨hfunctions, hstructs⟩ := hchecked.vetted
  exact ⟨fun function hfunction => guarded_of_vetted.2 _ (hfunctions function hfunction),
    fun struct hstruct block hblock => guarded_of_vetted.2 _ (hstructs struct hstruct block hblock)⟩

/-- Whatever stands in the bodies of an accepted module is guarded. -/
theorem Accepted.guarded_part {module : Module} (h : Accepted module) {part : Expr}
    (hpart : part ∈ module.parts) :
  part.Guarded
  := by
  obtain hpart | hpart := List.mem_append.mp hpart
  · obtain ⟨function, hfunction, hpart⟩ := List.mem_flatMap.mp hpart
    exact (h.guarded.1 function hfunction).part hpart
  · obtain ⟨struct, hstruct, hpart⟩ := List.mem_flatMap.mp hpart
    obtain ⟨block, hblock, hpart⟩ := List.mem_flatMap.mp hpart
    exact (h.guarded.2 struct hstruct block (Option.mem_toList.mp hblock)).part hpart

end TypedModules
