import TypedModules.Eval.Basic
import TypedModules.Value.Environment

/-!
# Evaluating expressions

The value of a checked expression or block in an environment.  Calls, applications and
literals are not evaluated here but asked for, so that the value of an expression is made
of the values of its parts.
-/

namespace TypedModules

/-- What stands under a name in a struct or an instance. -/
def Value.member? (value : Value) (name : String) : Option Value :=
  match value with
  | .struct header members => (header.memberIndex? name).bind (members[·]?)
  | .object interface methods =>
    ((interface.methodIndex? name).bind (methods[·]?)).map .function
  | _ => none

/-- What stands under a name in a value, or an error. -/
def Value.follow (value : Value) (name : String) : Eval Value :=
  match value.member? name with
  | some member => pure member
  | none => .fail (.undefinedMember name value.kindName)

/-- The binding that is called or bound, or an error. -/
def Value.callee : Value → Eval Binding
  | .function binding => pure binding
  | other => .fail (.notCallable other.kindName)

/-- The value of a variable, or an error. -/
def Environment.get (env : Environment) (name : String) : Eval Value :=
  match env.lookup? name with
  | some value => pure value
  | none => .fail (.undefinedVariable name)

/-- The binding with values in its open slots, or an error. -/
def Binding.fill (binding : Binding) (values : List (Option Value)) : Eval Binding :=
  match binding.fill? values with
  | some filled => pure filled
  | none => .fail (.arityMismatch "function binding" binding.openSlots values.length)

/-- The binding that a closure makes: its arguments are open, and the variables that it
captures are filled. -/
def Closure.bind (closure : Closure) (env : Environment) : Eval Binding := do
  let captured ← closure.captures.mapM fun v => env.get v.name
  return .mk (.closure closure) (closure.args.map (fun _ => none) ++ captured.map some) []

mutual

/-- The value of an expression. -/
def Expr.eval (ask : Request → Eval Value) (env : Environment) : Expr → Eval Value
  | .mk type _ node => node.eval ask env type

/-- The value of a node whose type is `type`. -/
def Node.eval (ask : Request → Eval Value) (env : Environment) (type : Ty) :
    Node → Eval Value
  | .variable name => env.get name
  | .literal text => ask (.literal type text)
  | .list items _ => return .list (← evalExprs ask env items)
  | .follow receiver member => do
    let value ← receiver.eval ask env
    value.follow member
  | .call _ entity args _ => do
    let args ← evalExprs ask env args
    ask (.call entity args)
  | .callValue function args _ => do
    let binding ← (← function.eval ask env).callee
    let args ← evalExprs ask env args
    ask (.apply binding args)
  | .bind _ entity slots chosen => do
    let slots ← evalSlots ask env slots
    return .function (.mk (.entity entity) slots chosen)
  | .bindValue function slots _ => do
    let binding ← (← function.eval ask env).callee
    let values ← evalSlots ask env slots
    return .function (← binding.fill values)
  | .ifThen condition thenBlock elseBlock => do
    let holds ← (← condition.eval ask env).asBoolean
    if holds then thenBlock.eval ask env else elseBlock.eval ask env
  | .closure closure => return .function (← closure.bind env)

/-- The values of expressions, in order. -/
def evalExprs (ask : Request → Eval Value) (env : Environment) :
    List Expr → Eval (List Value)
  | [] => pure []
  | expr :: rest => do
    let value ← expr.eval ask env
    return value :: (← evalExprs ask env rest)

/-- The values of the expressions in slots, in order. -/
def evalSlots (ask : Request → Eval Value) (env : Environment) :
    List (Option Expr) → Eval (List (Option Value))
  | [] => pure []
  | none :: rest => return none :: (← evalSlots ask env rest)
  | some expr :: rest => do
    let value ← expr.eval ask env
    return some value :: (← evalSlots ask env rest)

/-- The environment after a statement. -/
def Stmt.exec (ask : Request → Eval Value) (env : Environment) : Stmt → Eval Environment
  | .assign name _ value => return env.define name (← value.eval ask env)
  | .bare value => do
    let _ ← value.eval ask env
    return env

/-- The environment after statements. -/
def execStmts (ask : Request → Eval Value) (env : Environment) :
    List Stmt → Eval Environment
  | [] => pure env
  | statement :: rest => do
    let env ← statement.exec ask env
    execStmts ask env rest

/-- The value of a block, which has a scope of its own. -/
def Block.eval (ask : Request → Eval Value) (env : Environment) : Block → Eval Value
  | .mk statements last => do
    let env ← execStmts ask env.push statements
    last.eval ask env

end

end TypedModules
