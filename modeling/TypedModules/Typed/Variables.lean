import TypedModules.Typed.Tree

/-!
# Variables and referential actions of the typed tree

The names of variables that an expression mentions, and the number of referential actions
that a statement performs.  A call is a referential action when its result or one of its
arguments is a reference.
-/

namespace TypedModules

mutual

/-- The names of variables that an expression mentions, in order. -/
def Expr.names : Expr → List String
  | .mk _ _ node => node.names

/-- The names of variables that a node mentions; a closure mentions what it captures. -/
def Node.names : Node → List String
  | .variable name => [name]
  | .literal _ => []
  | .list items _ => exprNames items
  | .follow receiver _ => receiver.names
  | .call _ _ args _ => exprNames args
  | .callValue function args _ => function.names ++ exprNames args
  | .bind _ _ slots _ => slotNames slots
  | .bindValue function slots _ => function.names ++ slotNames slots
  | .ifThen condition thenBlock elseBlock =>
    condition.names ++ thenBlock.names ++ elseBlock.names
  | .closure (.mk _ _ captures _ _) => captures.map (·.name)

/-- The names of variables that expressions mention. -/
def exprNames : List Expr → List String
  | [] => []
  | expr :: rest => expr.names ++ exprNames rest

/-- The names of variables that the expressions in slots mention. -/
def slotNames : List (Option Expr) → List String
  | [] => []
  | none :: rest => slotNames rest
  | some expr :: rest => expr.names ++ slotNames rest

/-- The names of variables that a statement mentions. -/
def Stmt.names : Stmt → List String
  | .assign _ _ value => value.names
  | .bare value => value.names

/-- The names of variables that statements mention. -/
def stmtNames : List Stmt → List String
  | [] => []
  | statement :: rest => statement.names ++ stmtNames rest

/-- The names of variables that a block mentions. -/
def Block.names : Block → List String
  | .mk statements last => stmtNames statements ++ last.names

end

/-- One if a call with this result and these arguments is a referential action, else none. -/
def callAction (type : Ty) (args : List Expr) : Nat :=
  if type.isReference || args.any (·.type.isReference) then 1 else 0

mutual

/-- The referential actions of an expression.  The arms of a condition, what is followed,
what is bound to a named function, and the body of a closure count nothing. -/
def Expr.actions : Expr → Nat
  | .mk type _ node => node.actions type

/-- The referential actions of a node whose type is `type`. -/
def Node.actions (type : Ty) : Node → Nat
  | .variable _ => 0
  | .literal _ => 0
  | .list items _ => exprActions items
  | .follow _ _ => 0
  | .call _ _ args _ => callAction type args + exprActions args
  | .callValue function args _ => function.actions + (callAction type args + exprActions args)
  | .bind _ _ _ _ => 0
  | .bindValue function _ _ => function.actions
  | .ifThen condition _ _ => condition.actions
  | .closure _ => 0

/-- The referential actions of expressions. -/
def exprActions : List Expr → Nat
  | [] => 0
  | expr :: rest => expr.actions + exprActions rest

end

end TypedModules
