import TypedModules.Proofs.Renamed.Declared
import TypedModules.Proofs.Typing.Induction

/-!
# Renaming modules in typed trees

A typed tree names modules in its types, in the entities that it calls and in the sites of its
closures.  Renaming them changes neither which variables the tree mentions nor how many
referential actions it performs.
-/

namespace TypedModules

/-- The site with its module renamed. -/
def Site.rename (σ : Renaming) (site : Site) : Site :=
  { site with owner := site.owner.rename σ }

mutual

/-- The expression with its modules renamed. -/
def Expr.rename (σ : Renaming) : Expr → Expr
  | .mk type aliasing node => .mk (type.rename σ) aliasing (node.rename σ)

/-- The node with its modules renamed. -/
def Node.rename (σ : Renaming) : Node → Node
  | .variable name => .variable name
  | .literal text => .literal text
  | .list items element => .list (renameExprs σ items) (element.rename σ)
  | .follow receiver member => .follow (receiver.rename σ) member
  | .call function entity args chosen =>
    .call function (entity.rename σ) (renameExprs σ args) (chosen.map (Ty.rename σ))
  | .callValue function args chosen =>
    .callValue (function.rename σ) (renameExprs σ args) (chosen.map (Ty.rename σ))
  | .bind function entity slots chosen =>
    .bind function (entity.rename σ) (renameSlots σ slots)
      (chosen.map (Option.map (Ty.rename σ)))
  | .bindValue function slots chosen =>
    .bindValue (function.rename σ) (renameSlots σ slots) (chosen.map (Option.map (Ty.rename σ)))
  | .ifThen condition thenBlock elseBlock =>
    .ifThen (condition.rename σ) (thenBlock.rename σ) (elseBlock.rename σ)
  | .closure closure => .closure (closure.rename σ)

/-- The expressions with their modules renamed. -/
def renameExprs (σ : Renaming) : List Expr → List Expr
  | [] => []
  | expr :: rest => expr.rename σ :: renameExprs σ rest

/-- The expressions in slots with their modules renamed. -/
def renameSlots (σ : Renaming) : List (Option Expr) → List (Option Expr)
  | [] => []
  | none :: rest => none :: renameSlots σ rest
  | some expr :: rest => some (expr.rename σ) :: renameSlots σ rest

/-- The closure with its modules renamed. -/
def Closure.rename (σ : Renaming) : Closure → Closure
  | .mk site args captures output body =>
    .mk (site.rename σ) (args.map (Argument.rename σ)) (captures.map (Argument.rename σ))
      (output.rename σ) (body.rename σ)

/-- The statement with its modules renamed. -/
def Stmt.rename (σ : Renaming) : Stmt → Stmt
  | .assign name type value => .assign name (type.rename σ) (value.rename σ)
  | .bare value => .bare (value.rename σ)

/-- The statements with their modules renamed. -/
def renameStmts (σ : Renaming) : List Stmt → List Stmt
  | [] => []
  | statement :: rest => statement.rename σ :: renameStmts σ rest

/-- The block with its modules renamed. -/
def Block.rename (σ : Renaming) : Block → Block
  | .mk statements last => .mk (renameStmts σ statements) (last.rename σ)

end

variable {σ : Renaming}

@[simp]
theorem renameExprs_eq_map (exprs : List Expr) :
  renameExprs σ exprs = exprs.map (Expr.rename σ)
  := by
  induction exprs with
  | nil => rfl
  | cons expr rest ih => rw [renameExprs, ih, List.map_cons]

@[simp]
theorem renameSlots_eq_map (slots : List (Option Expr)) :
  renameSlots σ slots = slots.map (Option.map (Expr.rename σ))
  := by
  induction slots with
  | nil => rfl
  | cons slot rest ih => cases slot <;> simp [renameSlots, ih]

@[simp]
theorem renameStmts_eq_map (statements : List Stmt) :
  renameStmts σ statements = statements.map (Stmt.rename σ)
  := by
  induction statements with
  | nil => rfl
  | cons statement rest ih => rw [renameStmts, ih, List.map_cons]

@[simp]
theorem Expr.type_rename (expr : Expr) :
  (expr.rename σ).type = expr.type.rename σ
  := by
  cases expr
  rfl

@[simp]
theorem Expr.aliasing_rename (expr : Expr) :
  (expr.rename σ).aliasing = expr.aliasing
  := by
  cases expr
  rfl

@[simp]
theorem Block.statements_rename (block : Block) :
  (block.rename σ).statements = block.statements.map (Stmt.rename σ)
  := by
  cases block
  exact renameStmts_eq_map _

@[simp]
theorem Block.last_rename (block : Block) :
  (block.rename σ).last = block.last.rename σ
  := by
  cases block
  rfl

@[simp]
theorem Block.type_rename (block : Block) :
  (block.rename σ).type = block.type.rename σ
  := by
  rw [type, last_rename, Expr.type_rename, type]

@[simp]
theorem Block.aliasing_rename (block : Block) :
  (block.rename σ).aliasing = block.aliasing
  := by
  rw [aliasing, last_rename, Expr.aliasing_rename, aliasing]

/-! ### Variables and actions -/

mutual

@[simp]
theorem Expr.names_rename : (expr : Expr) → (expr.rename σ).names = expr.names
  | .mk _ _ node => node.names_rename

@[simp]
theorem Node.names_rename : (node : Node) → (node.rename σ).names = node.names
  | .variable _ => rfl
  | .literal _ => rfl
  | .list items _ => exprNames_rename items
  | .follow receiver _ => receiver.names_rename
  | .call _ _ args _ => exprNames_rename args
  | .callValue function args _ => by
    rw [Node.rename, Node.names, Node.names, function.names_rename, exprNames_rename]
  | .bind _ _ slots _ => slotNames_rename slots
  | .bindValue function slots _ => by
    rw [Node.rename, Node.names, Node.names, function.names_rename, slotNames_rename]
  | .ifThen condition thenBlock elseBlock => by
    rw [Node.rename, Node.names, Node.names, condition.names_rename, thenBlock.names_rename,
      elseBlock.names_rename]
  | .closure (.mk _ _ captures _ _) => by
    simp [Node.rename, Closure.rename, Node.names, Function.comp_def]

theorem exprNames_rename : (exprs : List Expr) → exprNames (renameExprs σ exprs) = exprNames exprs
  | [] => rfl
  | expr :: rest => by
    rw [renameExprs, exprNames, exprNames, expr.names_rename, exprNames_rename]

theorem slotNames_rename :
    (slots : List (Option Expr)) → slotNames (renameSlots σ slots) = slotNames slots
  | [] => rfl
  | none :: rest => slotNames_rename rest
  | some expr :: rest => by
    rw [renameSlots, slotNames, slotNames, expr.names_rename, slotNames_rename]

@[simp]
theorem Stmt.names_rename : (statement : Stmt) → (statement.rename σ).names = statement.names
  | .assign _ _ value => value.names_rename
  | .bare value => value.names_rename

theorem stmtNames_rename :
    (statements : List Stmt) → stmtNames (renameStmts σ statements) = stmtNames statements
  | [] => rfl
  | statement :: rest => by
    rw [renameStmts, stmtNames, stmtNames, statement.names_rename, stmtNames_rename]

@[simp]
theorem Block.names_rename : (block : Block) → (block.rename σ).names = block.names
  | .mk statements last => by
    rw [Block.rename, Block.names, Block.names, stmtNames_rename, last.names_rename]

end

theorem callAction_rename (type : Ty) (args : List Expr) :
  callAction (type.rename σ) (renameExprs σ args) = callAction type args
  := by
  simp [callAction, Function.comp_def]

mutual

@[simp]
theorem Expr.actions_rename : (expr : Expr) → (expr.rename σ).actions = expr.actions
  | .mk type _ node => node.actions_rename type

theorem Node.actions_rename :
    (node : Node) → (type : Ty) → (node.rename σ).actions (type.rename σ) = node.actions type
  | .variable _, _ => rfl
  | .literal _, _ => rfl
  | .list items _, _ => exprActions_rename items
  | .follow _ _, _ => rfl
  | .call _ _ args _, _ => by
    rw [Node.rename, Node.actions, Node.actions, callAction_rename, exprActions_rename]
  | .callValue function args _, _ => by
    rw [Node.rename, Node.actions, Node.actions, function.actions_rename, callAction_rename,
      exprActions_rename]
  | .bind _ _ _ _, _ => rfl
  | .bindValue function _ _, _ => function.actions_rename
  | .ifThen condition _ _, _ => condition.actions_rename
  | .closure _, _ => rfl

theorem exprActions_rename :
    (exprs : List Expr) → exprActions (renameExprs σ exprs) = exprActions exprs
  | [] => rfl
  | expr :: rest => by
    rw [renameExprs, exprActions, exprActions, expr.actions_rename, exprActions_rename]

end

/-! ### The renaming that leaves all modules as they are -/

/-- Slots stay as they are if what stands in them does. -/
theorem map_option_eq_self {α : Type} {f : α → α} {slots : List (Option α)}
    (h : ∀ item, some item ∈ slots → f item = item) :
  slots.map (Option.map f) = slots
  := by
  apply map_eq_self
  rintro (_ | item) hmem
  · rfl
  · rw [Option.map_some, h item hmem]

theorem tree_rename_refl :
  (∀ expr : Expr, expr.rename .refl = expr) ∧ ∀ block : Block, block.rename .refl = block
  := by
  apply tree_induction
  case name | literal =>
    intros
    simp [Expr.rename, Node.rename]
  case list =>
    intro type aliasing items element ih
    simp [Expr.rename, Node.rename, map_eq_self ih]
  case follow =>
    intro type aliasing receiver member ih
    simp [Expr.rename, Node.rename, ih]
  case call =>
    intro type aliasing function entity args chosen ih
    simp [Expr.rename, Node.rename, map_eq_self ih, map_eq_self fun type _ => Ty.rename_refl type]
  case callValue =>
    intro type aliasing function args chosen ih ihs
    simp [Expr.rename, Node.rename, ih, map_eq_self ihs,
      map_eq_self fun type _ => Ty.rename_refl type]
  case bind =>
    intro type aliasing function entity slots chosen ih
    simp [Expr.rename, Node.rename, map_option_eq_self ih,
      map_option_eq_self fun type _ => Ty.rename_refl type]
  case bindValue =>
    intro type aliasing function slots chosen ih ihs
    simp [Expr.rename, Node.rename, ih, map_option_eq_self ihs,
      map_option_eq_self fun type _ => Ty.rename_refl type]
  case ifThen =>
    intro type aliasing condition thenBlock elseBlock ih ihThen ihElse
    simp [Expr.rename, Node.rename, ih, ihThen, ihElse]
  case closure =>
    intro type aliasing site args captures output body ih
    have hsite : site.rename .refl = site := rfl
    simp [Expr.rename, Node.rename, Closure.rename, ih, hsite,
      map_eq_self fun arg _ => Argument.rename_refl arg]
  case block =>
    intro statements last ih ihLast
    have hstatements : statements.map (Stmt.rename .refl) = statements := by
      apply map_eq_self
      rintro (⟨name, type, value⟩ | value) hmem
      · rw [Stmt.rename, Ty.rename_refl, show value.rename .refl = value from ih _ hmem]
      · rw [Stmt.rename, show value.rename .refl = value from ih _ hmem]
    simp [Block.rename, ihLast, hstatements]

@[simp]
theorem Expr.rename_refl (expr : Expr) :
  expr.rename .refl = expr
  := tree_rename_refl.1 expr

@[simp]
theorem Block.rename_refl (block : Block) :
  block.rename .refl = block
  := tree_rename_refl.2 block

/-! ### Structs and functions with their blocks -/

/-- The struct with its modules renamed. -/
def Struct.rename (σ : Renaming) (struct : Struct) : Struct :=
  { struct.toStructHeader.rename σ with requires := struct.requires.map (Block.rename σ) }

/-- The function with its modules renamed. -/
def Function.rename (σ : Renaming) (function : Function) : Function :=
  { function.toFunctionHeader.rename σ with
    body := function.body.rename σ
    annotations := function.annotations }

@[simp]
theorem Struct.rename_refl (struct : Struct) :
  struct.rename .refl = struct
  := by
  obtain ⟨header, _ | requires⟩ := struct <;> simp [rename]

@[simp]
theorem Function.rename_refl (function : Function) :
  function.rename .refl = function
  := by
  simp [rename]

end TypedModules
