import TypedModules.Proofs.Typing.Induction
import TypedModules.Proofs.Typing.Module

/-!
# The discipline of blocks

Which variables are visible at a place in a tree, and what holds there in an accepted module:
whatever a block or a closure declares has a name that no visible variable has, and the name of a
variable is not reserved either; no reference that may be shared is put into a variable; a statement
performs at most one referential action; and a block ends with an expression.  This holds at every
depth: `disciplined_of_validate`.
-/

namespace TypedModules

open Check

/-! ### Places -/

/-- Whether a tree stands in another one, where `visible` are the variables that it sees if `vars`
are those that the whole sees.  What a statement declares is visible to those after it, and the
arguments of a closure in its body. -/
inductive Tree.Stands (tree : Tree) (visible : Variables) : Tree → Variables → Prop
  | root : Stands tree visible tree visible
  | operand {type : Ty} {aliasing : Aliasing} {node : Node} {operand : Expr} {vars : Variables} :
    operand ∈ node.operands →
    Stands tree visible (.expr operand) vars →
    Stands tree visible (.expr (.mk type aliasing node)) vars
  | thenBlock {type : Ty} {aliasing : Aliasing} {condition : Expr} {thenBlock elseBlock : Block}
      {vars : Variables} :
    Stands tree visible (.block thenBlock) vars →
    Stands tree visible (.expr (.mk type aliasing (.ifThen condition thenBlock elseBlock))) vars
  | elseBlock {type : Ty} {aliasing : Aliasing} {condition : Expr} {thenBlock elseBlock : Block}
      {vars : Variables} :
    Stands tree visible (.block elseBlock) vars →
    Stands tree visible (.expr (.mk type aliasing (.ifThen condition thenBlock elseBlock))) vars
  | closure {type : Ty} {aliasing : Aliasing} {closure : Closure} {vars : Variables} :
    Stands tree visible (.block closure.body) (vars ++ closure.args) →
    Stands tree visible (.expr (.mk type aliasing (.closure closure))) vars
  | statement {block : Block} {firsts rest : List Stmt} {statement : Stmt} {vars : Variables} :
    block.statements = firsts ++ statement :: rest →
    Stands tree visible (.expr statement.value) (vars ++ declaredBy firsts) →
    Stands tree visible (.block block) vars
  | last {block : Block} {vars : Variables} :
    Stands tree visible (.expr block.last) (vars ++ declaredBy block.statements) →
    Stands tree visible (.block block) vars

/-- What stands in a block of a node stands in the node. -/
theorem Tree.Stands.of_block {tree : Tree} {type : Ty} {aliasing : Aliasing} {node : Node}
    {block : Block} (hblock : block ∈ node.blocks) {vars : Variables}
    (h : ∀ vars, ∃ visible, tree.Stands visible (.block block) vars) :
  ∃ visible, tree.Stands visible (.expr (.mk type aliasing node)) vars
  := by
  cases node with
  | ifThen condition thenBlock elseBlock =>
    obtain ⟨visible, h⟩ := h vars
    obtain rfl | hblock := List.mem_cons.mp hblock
    · exact ⟨visible, .thenBlock h⟩
    · obtain rfl := List.mem_singleton.mp hblock
      exact ⟨visible, .elseBlock h⟩
  | closure closure =>
    obtain rfl := List.mem_singleton.mp hblock
    obtain ⟨visible, h⟩ := h (vars ++ closure.args)
    exact ⟨visible, .closure h⟩
  | _ => cases hblock

/-- Every expression in a tree stands somewhere in it. -/
theorem exists_stands {part : Expr} :
  (∀ (expr : Expr), part ∈ expr.parts → ∀ vars,
      ∃ visible, Tree.Stands (.expr part) visible (.expr expr) vars)
    ∧ ∀ (block : Block), part ∈ block.parts → ∀ vars,
      ∃ visible, Tree.Stands (.expr part) visible (.block block) vars
  := by
  apply operand_induction
  case expr =>
    intro type aliasing node ihOperands ihBlocks hpart vars
    obtain rfl | hpart := List.mem_cons.mp hpart
    · exact ⟨vars, .root⟩
    · obtain ⟨operand, hoperand, hpart⟩ | ⟨block, hblock, hpart⟩ := mem_partsOfNode.mp hpart
      · obtain ⟨visible, h⟩ := ihOperands operand hoperand hpart vars
        exact ⟨visible, .operand hoperand h⟩
      · exact Tree.Stands.of_block hblock (ihBlocks block hblock hpart)
  case block =>
    intro block ihValues ihLast hpart vars
    obtain ⟨s, hs, hpart⟩ | hpart := mem_partsOfBlock.mp hpart
    · obtain ⟨firsts, rest, hstatements⟩ := List.append_of_mem hs
      obtain ⟨visible, h⟩ := ihValues s hs hpart (vars ++ declaredBy firsts)
      exact ⟨visible, .statement hstatements h⟩
    · obtain ⟨visible, h⟩ := ihLast hpart (vars ++ declaredBy block.statements)
      exact ⟨visible, .last h⟩

/-- Whether something holds of every tree in one that sees the given variables, where it stands. -/
def Tree.Throughout (P : Tree → Variables → Prop) (whole : Tree) (vars : Variables) : Prop :=
  ∀ (tree : Tree) (visible : Variables), tree.Stands visible whole vars → P tree visible

section Throughout

variable {P : Tree → Variables → Prop} {vars : Variables}

/-- What holds of an expression without blocks and throughout its operands holds throughout it. -/
theorem Tree.Throughout.of_operands {type : Ty} {aliasing : Aliasing} {node : Node}
    (hblocks : node.blocks = []) (h : P (.expr (.mk type aliasing node)) vars)
    (hoperands : ∀ operand ∈ node.operands, Tree.Throughout P (.expr operand) vars) :
  Tree.Throughout P (.expr (.mk type aliasing node)) vars
  := by
  intro tree visible hstands
  cases hstands with
  | root => exact h
  | operand hmem hstands => exact hoperands _ hmem tree visible hstands
  | thenBlock | elseBlock | closure => cases hblocks

/-- What holds of a block with one more statement at its front, and throughout the value of the
statement and the block, holds throughout both. -/
theorem Tree.Throughout.cons {statement : Stmt} {block : Block}
    (h : P (.block (.mk (statement :: block.statements) block.last)) vars)
    (hvalue : Tree.Throughout P (.expr statement.value) vars)
    (hblock : Tree.Throughout P (.block block) (vars ++ statement.declared)) :
  Tree.Throughout P (.block (.mk (statement :: block.statements) block.last)) vars
  := by
  intro tree visible hstands
  cases hstands with
  | root => exact h
  | @statement _ firsts rest inner _ hstatements hstands =>
    cases firsts with
    | nil =>
      obtain ⟨rfl, -⟩ := List.cons_eq_cons.mp hstatements
      exact hvalue tree visible (by simpa [declaredBy] using hstands)
    | cons first firsts =>
      obtain ⟨rfl, hrest⟩ := List.cons_eq_cons.mp hstatements
      refine hblock tree visible (.statement hrest ?_)
      rwa [List.append_assoc]
  | last hstands =>
    refine hblock tree visible (.last ?_)
    rwa [List.append_assoc]

end Throughout

/-- The rules of the checker carry what holds throughout a tree, if it holds of each expression
that is no closure and whose variable, if it is one, is visible; of each closure; and of each block,
statement by statement from its end. -/
theorem carries_throughout {setting : Setting} {P : Tree → Variables → Prop}
    (hexpr : ∀ {type : Ty} {aliasing : Aliasing} {node : Node} {vars : Variables},
      (∀ name, node = .variable name → vars.has name = true) → (∀ c, node ≠ .closure c) →
      P (.expr (.mk type aliasing node)) vars)
    (hclosure : ∀ {type : Ty} {aliasing : Aliasing} {site : Site} {vars : Variables}
        {args : List Argument} {output : Ty} {body : Block},
      (args.map (·.name)).Nodup → (∀ arg ∈ args, vars.has arg.name = false) →
      P (.expr (.mk type aliasing
        (.closure (.mk site args (vars.captured body.names) output body)))) vars)
    (hlast : ∀ {expr : Expr} {vars : Variables}, expr.actions ≤ 1 → P (.block (.mk [] expr)) vars)
    (hstatement : ∀ {written : SourceStmt} {statement : Stmt} {block : Block} {vars : Variables},
      setting.PassesStmt (fun vars _ expr => Tree.Throughout P (.expr expr) vars) vars written
        statement →
      P (.block block) (vars ++ statement.declared) →
      P (.block (.mk (statement :: block.statements) block.last)) vars) :
  setting.Carries (fun vars _ expr => Tree.Throughout P (.expr expr) vars)
    fun vars _ block => Tree.Throughout P (.block block) vars
  := by
  -- an expression of most forms neither is a variable nor has blocks
  have hplain : ∀ {type : Ty} {aliasing : Aliasing} {node : Node} {vars : Variables},
      (∀ name, node ≠ .variable name) → node.blocks = [] →
      (∀ operand ∈ node.operands, Tree.Throughout P (.expr operand) vars) →
      Tree.Throughout P (.expr (.mk type aliasing node)) vars := by
    intro type aliasing node vars hname hblocks hoperands
    refine .of_operands hblocks (hexpr (fun name e => absurd e (hname name)) ?_) hoperands
    rintro c rfl
    cases hblocks
  constructor
  case name =>
    intro vars name location type htype
    refine .of_operands rfl (hexpr ?_ (fun _ => nofun)) (List.forall_mem_nil _)
    rintro _ ⟨⟩
    exact Variables.has_of_type? htype
  case literal => exact fun _ _ _ => hplain (fun _ => nofun) rfl (List.forall_mem_nil _)
  case list =>
    exact fun _ _ hitems _ => hplain (fun _ => nofun) rfl (forall_of_related hitems fun _ _ => id)
  case follow =>
    exact fun hreceiver _ => hplain (fun _ => nofun) rfl (List.forall_mem_singleton.mpr hreceiver)
  case call =>
    exact fun _ _ hargs _ => hplain (fun _ => nofun) rfl (forall_of_related hargs fun _ _ => id)
  case callValue =>
    exact fun hvalue _ _ hargs _ => hplain (fun _ => nofun) rfl
      (List.forall_mem_cons.mpr ⟨hvalue, forall_of_related hargs fun _ _ => id⟩)
  case bind =>
    exact fun _ _ hslots _ => hplain (fun _ => nofun) rfl fun e he =>
      forall_some_of_related hslots (fun _ _ => id) e (List.reduceOption_mem_iff.mp he)
  case bindValue =>
    exact fun hvalue _ _ hslots _ => hplain (fun _ => nofun) rfl
      (List.forall_mem_cons.mpr ⟨hvalue, fun e he =>
        forall_some_of_related hslots (fun _ _ => id) e (List.reduceOption_mem_iff.mp he)⟩)
  case ifThen =>
    intro vars written first second location condition thenBlock elseBlock hcondition hboolean
      hthen helse hsame tree visible hstands
    cases hstands with
    | root => exact hexpr (fun _ => nofun) (fun _ => nofun)
    | operand hmem hstands =>
      obtain rfl := List.mem_singleton.mp hmem
      exact hcondition tree visible hstands
    | thenBlock hstands => exact hthen tree visible hstands
    | elseBlock hstands => exact helse tree visible hstands
  case closure =>
    intro site vars written result inner location args output body hnames hnew hwritten houtput
      hbody hsame tree visible hstands
    cases hstands with
    | root => exact hclosure hnames hnew
    | operand hmem => cases hmem
    | closure hstands => exact hbody tree visible hstands
  case last =>
    intro vars written expr hvalue hactions tree visible hstands
    cases hstands with
    | root => exact hlast hactions
    | statement hstatements => simp [Block.statements] at hstatements
    | last hstands =>
      refine hvalue tree visible ?_
      simpa [Block.statements, Block.last, declaredBy] using hstands
  case statement =>
    intro vars written rest statement block hpasses hblock
    refine .cons (hstatement hpasses (hblock _ _ .root)) ?_ hblock
    cases hpasses with
    | assign hvalue | bare hvalue => exact hvalue

/-! ### The discipline at a place -/

section Disciplined

variable (reserved : String → Prop) (visible : Variables)

/-- Whether the arguments of a closure have names of their own. -/
structure Closure.Disciplined (closure : Closure) : Prop where
  distinct : (closure.args.map (·.name)).Nodup
  fresh : ∀ arg ∈ closure.args, arg.name ∉ visible.map (·.name)

/-- Whether a block declares variables under names of their own that are not reserved, puts no
reference that may be shared into a variable, and performs at most one referential action in each
statement and in its last expression. -/
structure Block.Disciplined (block : Block) : Prop where
  fresh : ∀ firsts name type value rest,
    block.statements = firsts ++ .assign name type value :: rest →
    name ∉ (visible ++ declaredBy firsts).map (·.name) ∧ ¬reserved name
  unshared : ∀ name type value, .assign name type value ∈ block.statements →
    type.isReference = true → value.aliasing = .notAliased
  actions : ∀ s ∈ block.statements, s.value.actions ≤ 1
  lastActions : block.last.actions ≤ 1

/-- Whether a closure or a block keeps the discipline where it stands. -/
def Tree.Disciplined : Tree → Prop
  | expr e => ∀ closure, e.node = .closure closure → closure.Disciplined visible
  | block b => b.Disciplined reserved visible

end Disciplined

/-- Whether the discipline is kept everywhere in a tree that sees the given variables. -/
def Tree.Keeps (reserved : String → Prop) (whole : Tree) (vars : Variables) : Prop :=
  ∀ (tree : Tree) (visible : Variables),
    tree.Stands visible whole vars → tree.Disciplined reserved visible

section Keeps

variable {reserved : String → Prop} {vars : Variables}

/-- A block keeps the discipline with one more statement at its front that does. -/
theorem Block.Disciplined.cons {statement : Stmt} {block : Block}
    (hfresh : ∀ v ∈ statement.declared, v.name ∉ vars.map (·.name) ∧ ¬reserved v.name)
    (hunshared : ∀ name type value, statement = .assign name type value →
      type.isReference = true → value.aliasing = .notAliased)
    (hactions : statement.value.actions ≤ 1)
    (hblock : block.Disciplined reserved (vars ++ statement.declared)) :
  (Block.mk (statement :: block.statements) block.last).Disciplined reserved vars
  := by
  constructor
  case fresh =>
    intro firsts name type value rest hstatements
    cases firsts with
    | nil =>
      obtain ⟨rfl, -⟩ := List.cons_eq_cons.mp hstatements
      simpa [declaredBy] using hfresh ⟨name, type⟩ List.mem_cons_self
    | cons first firsts =>
      obtain ⟨rfl, hrest⟩ := List.cons_eq_cons.mp hstatements
      have hinner := hblock.fresh firsts name type value rest hrest
      rwa [List.append_assoc] at hinner
  case unshared =>
    intro name type value hmem
    obtain heq | hmem := List.mem_cons.mp hmem
    · exact hunshared name type value heq.symm
    · exact hblock.unshared name type value hmem
  case actions => exact List.forall_mem_cons.mpr ⟨hactions, hblock.actions⟩
  case lastActions => exact hblock.lastActions

end Keeps

/-- The rules of the checker keep the discipline, where no other names are reserved than those that
the setting reserves. -/
theorem carries_keeps {setting : Setting} {reserved : String → Prop}
    (hreserves : ∀ name, reserved name → setting.isReserved name = true) :
  setting.Carries (fun vars _ expr => Tree.Keeps reserved (.expr expr) vars)
    fun vars _ block => Tree.Keeps reserved (.block block) vars
  := by
  refine @carries_throughout setting (fun tree visible => tree.Disciplined reserved visible)
    ?expr ?closure ?last ?statement
  case expr => exact fun _ hclosure c e => absurd e (hclosure c)
  case closure =>
    rintro _ _ _ vars args _ _ hnames hnew closure ⟨⟩
    exact ⟨hnames, fun arg harg => Variables.has_eq_false.mp (hnew arg harg)⟩
  case last =>
    intro expr vars hactions
    exact ⟨by simp [Block.statements], by simp [Block.statements], List.forall_mem_nil _, hactions⟩
  case statement =>
    intro written statement block vars hpasses hblock
    cases hpasses with
    | assign _ hnew hreserved hunshared hactions =>
      refine Block.Disciplined.cons (List.forall_mem_singleton.mpr
        ⟨Variables.has_eq_false.mp hnew, ?_⟩) ?_ hactions hblock
      · exact fun hname => Bool.false_ne_true (hreserved.symm.trans (hreserves _ hname))
      · rintro name type value ⟨⟩
        exact hunshared
    | bare _ hactions =>
      refine Block.Disciplined.cons (List.forall_mem_nil _) ?_ hactions hblock
      rintro name type value ⟨⟩

/-! ### Written blocks -/

mutual

/-- The blocks in a written expression, at any depth. -/
def SourceExpr.blocks : SourceExpr → List SourceBlock
  | .variable _ _ => []
  | .literal _ _ _ => []
  | .list items _ _ => blocksOfExprs items
  | .follow receiver _ _ => receiver.blocks
  | .call _ args _ _ => blocksOfExprs args
  | .callValue function args _ _ => function.blocks ++ blocksOfExprs args
  | .bind _ slots _ _ => blocksOfSlots slots
  | .bindValue function slots _ _ => function.blocks ++ blocksOfSlots slots
  | .ifThen condition thenBlock elseBlock _ =>
    condition.blocks ++ (thenBlock.blocks ++ elseBlock.blocks)
  | .closure _ _ body _ => body.blocks

/-- The blocks in written expressions. -/
def blocksOfExprs : List SourceExpr → List SourceBlock
  | [] => []
  | expr :: rest => expr.blocks ++ blocksOfExprs rest

/-- The blocks in the written expressions of slots. -/
def blocksOfSlots : List (Option SourceExpr) → List SourceBlock
  | [] => []
  | none :: rest => blocksOfSlots rest
  | some expr :: rest => expr.blocks ++ blocksOfSlots rest

/-- The blocks in a written statement. -/
def SourceStmt.blocks : SourceStmt → List SourceBlock
  | .assign _ _ value _ => value.blocks
  | .bare value => value.blocks

/-- The blocks in written statements. -/
def blocksOfStmts : List SourceStmt → List SourceBlock
  | [] => []
  | statement :: rest => statement.blocks ++ blocksOfStmts rest

/-- A written block with those in it. -/
def SourceBlock.blocks : SourceBlock → List SourceBlock
  | .mk statements location => .mk statements location :: blocksOfStmts statements

end

/-- The blocks that a context writes. -/
def Context.blocks (context : Context) : List SourceBlock :=
  context.functions.flatMap (·.body.blocks)
    ++ context.structs.flatMap fun declared => declared.requires.toList.flatMap SourceBlock.blocks

/-- Whether the last of some written statements is an expression. -/
def EndInExpr (statements : List SourceStmt) : Prop :=
  ∃ firsts value, statements = firsts ++ [.bare value]

/-- Whether each of some written blocks ends with an expression. -/
def BlocksEnd (blocks : List SourceBlock) : Prop :=
  ∀ block ∈ blocks, EndInExpr block.statements

theorem BlocksEnd.append {blocks others : List SourceBlock} (h : BlocksEnd blocks)
    (hothers : BlocksEnd others) :
  BlocksEnd (blocks ++ others)
  := List.forall_mem_append.mpr ⟨h, hothers⟩

theorem BlocksEnd.of_exprs {α : Type} {written : List SourceExpr} {exprs : List α}
    (h : List.Forall₂ (fun expr _ => BlocksEnd expr.blocks) written exprs) :
  BlocksEnd (blocksOfExprs written)
  := by
  induction h with
  | nil => exact List.forall_mem_nil _
  | cons hfirst _ ih => exact hfirst.append ih

theorem BlocksEnd.of_slots {α : Type} {written : List (Option SourceExpr)} {slots : List (Option α)}
    (h : List.Forall₂ (Option.Rel fun expr _ => BlocksEnd expr.blocks) written slots) :
  BlocksEnd (blocksOfSlots written)
  := by
  induction h with
  | nil => exact List.forall_mem_nil _
  | cons hslot _ ih =>
    cases hslot with
    | some hexpr => exact hexpr.append ih
    | none => exact ih

theorem BlocksEnd.of_block {written : SourceBlock}
    (h : EndInExpr written.statements ∧ BlocksEnd (blocksOfStmts written.statements)) :
  BlocksEnd written.blocks
  := by
  cases written
  exact List.forall_mem_cons.mpr h

/-- The rules of the checker pass no block that ends with an assignment. -/
theorem carries_end (setting : Setting) :
  setting.Carries (fun _ written _ => BlocksEnd written.blocks)
    fun _ written _ => EndInExpr written ∧ BlocksEnd (blocksOfStmts written)
  := by
  constructor
  case name => exact fun _ => List.forall_mem_nil _
  case literal => exact fun _ _ _ => List.forall_mem_nil _
  case list => exact fun _ _ hitems _ => .of_exprs hitems
  case follow => exact fun hreceiver _ => hreceiver
  case call => exact fun _ _ hargs _ => .of_exprs hargs
  case callValue => exact fun hvalue _ _ hargs _ => hvalue.append (.of_exprs hargs)
  case bind => exact fun _ _ hslots _ => .of_slots hslots
  case bindValue => exact fun hvalue _ _ hslots _ => hvalue.append (.of_slots hslots)
  case ifThen =>
    exact fun hcondition _ hthen helse _ =>
      hcondition.append ((BlocksEnd.of_block hthen).append (.of_block helse))
  case closure => exact fun _ _ _ _ hbody _ => .of_block hbody
  case last =>
    intro vars written expr hexpr hactions
    exact ⟨⟨[], written, rfl⟩, hexpr.append (List.forall_mem_nil _)⟩
  case statement =>
    rintro vars written rest statement block hpasses ⟨⟨firsts, value, rfl⟩, hrest⟩
    refine ⟨⟨written :: firsts, value, rfl⟩, ?_⟩
    cases hpasses with
    | assign hvalue | bare hvalue => exact hvalue.append hrest

/-! ### Modules -/

/-- Whether a name is a keyword, the id of a type or of a function that a module with a context and
direct dependencies sees, or an id that the context declares more than once. -/
def Context.Reserves (context : Context) (dependencies : List Module) (module : ModuleId)
    (name : String) : Prop :=
  name ∈ reservedNames ∨ .ofText name ∈ context.duplicateIds
    ∨ ∃ space, ∃ entry ∈ (Scope.ofModule module context context.duplicateIds dependencies).entries
      space, entry.entity.id = .ofText name

/-- Whether all bodies of a module keep the discipline.  A body sees the arguments of its function,
and a `requires` block the members of its struct. -/
structure Module.Disciplined (module : Module) (reserved : String → Prop) : Prop where
  bodies : ∀ function ∈ module.functions, Tree.Keeps reserved (.block function.body) function.args
  requires : ∀ struct ∈ module.structs, ∀ block, struct.requires = some block →
    Tree.Keeps reserved (.block block) struct.members

section Checked

variable {number : Nat} {context : Context} {name : ModuleName} {dependencies : List Module}
  {module : Module}

/-- The bodies are checked with all names reserved that should be. -/
theorem isReserved_ofBodies {typeParams : List TypeParam} {variableName : String}
    (h : context.Reserves dependencies module.id variableName) :
  ((Setting.ofBodies number context dependencies module).within typeParams).isReserved variableName
    = true
  := by
  simp only [Setting.isReserved, Scope.hasName, Bool.or_eq_true, List.contains_iff_mem,
    List.any_eq_true, beq_iff_eq]
  obtain hkeyword | hduplicate | ⟨space, hentry⟩ := h
  · exact .inl (.inl hkeyword)
  · exact .inr (.inr hduplicate)
  · cases space with
    | type => exact .inr (.inl hentry)
    | function => exact .inl (.inr (.inl hentry))

theorem Checked.disciplined (h : Checked number context name dependencies module) :
  module.Disciplined (context.Reserves dependencies module.id)
  := by
  constructor
  case bodies =>
    intro function hfunction
    obtain ⟨written, hpasses, -⟩ := h.passes_body hfunction
    exact (carries_keeps fun _ => isReserved_ofBodies).of_block _ _ written hpasses
  case requires =>
    intro struct hstruct block hblock
    obtain ⟨written, hpasses, -⟩ := h.passes_requires hstruct hblock
    exact (carries_keeps fun _ => isReserved_ofBodies).of_block _ _ written hpasses

theorem Checked.blocksEnd (h : Checked number context name dependencies module) :
  BlocksEnd context.blocks
  := by
  refine .append (List.forall_mem_flatMap.mpr ?_) (List.forall_mem_flatMap.mpr ?_)
  · intro declared hdeclared
    obtain ⟨function, -, hp⟩ := exists_related_right h.functions hdeclared
    exact BlocksEnd.of_block ((carries_end _).of_block _ _ _ (body_of_checkFunctionBody hp).1)
  · intro declared hdeclared
    obtain ⟨struct, -, hp⟩ := exists_related_right h.structs hdeclared
    have hrequires := requires_of_checkStructBody hp
    generalize declared.requires = written, struct.requires = block at hrequires
    cases hrequires with
    | none => exact List.forall_mem_nil _
    | some hpasses =>
      rw [Option.toList_some, List.flatMap_singleton]
      exact BlocksEnd.of_block ((carries_end _).of_block _ _ _ hpasses.1)

/-- In a module that is accepted the discipline is kept at every depth, and every block that is
written for it ends with an expression. -/
theorem disciplined_of_validate {config : SinkConfig} {warnings : List Diagnostic}
    (h : validate number context name dependencies config = .success module warnings) :
  module.Disciplined (context.Reserves dependencies module.id) ∧ BlocksEnd context.blocks
  := by
  have hchecked := checked_of_passes (passes_of_validate h)
  exact ⟨hchecked.disciplined, hchecked.blocksEnd⟩

end Checked

/-- A context with a function whose blocks stand in one another.  `main(): List<Integer>` puts a new
builder into `builder`; either arm of a condition appends to it, one of them what a variable of its
own holds; and it returns what `builder` builds. -/
def nestedContext : Context where
  functions := [{
      id := ⟨["main"]⟩
      typeParams := []
      args := []
      output := .list .integer
      body := .mk [
        .assign "builder" none
          (.call ⟨none, ⟨["ListBuilder", "create"]⟩⟩ [] [.integer] none) none,
        .bare (.ifThen (.literal .boolean "true" none)
          (.mk [.bare (.call ⟨none, ⟨["ListBuilder", "append"]⟩⟩
            [.variable "builder" none, .literal .integer "1" none] [] none)] none)
          (.mk [
            .assign "n" none (.literal .integer "2" none) none,
            .bare (.call ⟨none, ⟨["ListBuilder", "append"]⟩⟩
              [.variable "builder" none, .variable "n" none] [] none)] none)
          none),
        .bare (.call ⟨none, ⟨["ListBuilder", "build"]⟩⟩ [.variable "builder" none] [] none)] none
      annotations := []
      location := none }]

theorem disciplined_nested :
  ∃ module warnings, validate 0 nestedContext ⟨"example", "nested"⟩ [] {} = .success module warnings
    ∧ module.Disciplined (nestedContext.Reserves [] module.id) ∧ BlocksEnd nestedContext.blocks
  := by
  have haccepted : (validate 0 nestedContext ⟨"example", "nested"⟩ [] {}).module?.any
      (fun _ => true) = true := by
    decide +kernel
  obtain ⟨module, warnings, h, -⟩ := Verdict.exists_success haccepted
  exact ⟨module, warnings, h, disciplined_of_validate h⟩

end TypedModules
