import TypedModules.Check.Call
import TypedModules.Check.LiteralForm
import TypedModules.Check.Member
import TypedModules.Check.Ty
import TypedModules.Source.Tree
import TypedModules.Typed.Variables

/-!
# Checking blocks and expressions

Every expression gets a type and is told apart by whether its value may share identity with
a variable.  A variable is assigned once, and has neither the name of an entity nor that of
a keyword; a reference that may be shared is not put into a variable, and a statement
performs at most one referential action.  A closure captures the variables of the scope
around it that its body mentions.
-/

namespace TypedModules

/-- The keywords and the names of primitive types, which no variable has. -/
def reservedNames : List String :=
  ["Integer", "Natural", "Boolean", "function", "let", "if", "else", "struct", "requires",
    "interface", "union"]

/-- The variables that are visible at a place, in the order of their declarations. -/
abbrev Variables := List Argument

namespace Variables

/-- The type of the variable with a name; the later of two counts. -/
def type? (vars : Variables) (name : String) : Option Ty :=
  (vars.reverse.find? (·.name == name)).map (·.type)

/-- Whether there is a variable with a name. -/
def has (vars : Variables) (name : String) : Bool :=
  vars.any (·.name == name)

/-- The variables among the given names, each name once, in the order of declarations. -/
def captured (vars : Variables) (names : List String) : List Argument :=
  go [] vars
where
  /-- The variables among the names, without those named in `seen`. -/
  go (seen : List String) : Variables → List Argument
    | [] => []
    | v :: rest =>
      if names.contains v.name && !seen.contains v.name then v :: go (v.name :: seen) rest
      else go seen rest

end Variables

/-- Whether a name is a keyword, or that of something that the module sees. -/
def Setting.isReserved (setting : Setting) (name : String) : Bool :=
  let id := EntityId.ofText name
  reservedNames.contains name || setting.scope.hasName .function id
    || setting.scope.hasName .type id

/-- Reports a name that a new variable may not have. -/
def checkVariableName (setting : Setting) (vars : Variables) (name : String)
    (location : Option Location) : Check Unit := do
  if vars.has name then
    .report .unusableVariableName location
      ("variable '" ++ name ++ "' is already defined in this scope")
  if setting.isReserved name then
    .report .unusableVariableName location
      ("'" ++ name ++ "' is a keyword or names an entity and cannot be a variable")

/-- Reports a statement that performs more than one referential action. -/
def checkActions (value : Expr) (location : Option Location) : Check Unit := do
  if 1 < value.actions then
    .report .referentialActions location
      ("a statement may perform at most one referential action, found "
        ++ toString value.actions)

/-- Checks a value against the type that is written for its variable, and reports a
reference that may be shared. -/
def checkAssignment (setting : Setting) (name : String) (type : Option SourceTy) (value : Expr)
    (location : Option Location) : Check Unit := do
  if let some type := type then
    let declared ← checkTy setting type
    unless declared.same value.type do
      .fail .typeMismatch location
        ("variable '" ++ name ++ "' is declared as " ++ declared.text
          ++ " but its value has type " ++ value.type.text)
  if value.type.isReference && value.aliasing == .possiblyAliased then
    .report .aliasedReference location
      ("'" ++ name ++ "' would hold a reference of type " ++ value.type.text
        ++ " that may already be aliased")

/-- The expression for a literal. -/
def checkLiteral (setting : Setting) (type : SourceTy) (text : String)
    (location : Option Location) : Check Expr := do
  let type ← checkTy setting type
  match setting.literalForm type with
  | .error .noForm =>
    .fail .noLiteralForm location ("type " ++ type.text ++ " has no literal form")
  | .error (.cycle entity) =>
    .fail .literalCycle location
      ("the literal form of " ++ type.text ++ " loops back through " ++ entity.text)
  | .ok form =>
    unless form.accepts text do
      .fail .rejectedLiteral location
        ("\"" ++ text ++ "\" is not a valid " ++ form.name ++ " literal for type " ++ type.text)
    return .mk type .notAliased (.literal text)

/-- The expression for what stands under a name in a value. -/
def checkFollow (setting : Setting) (receiver : Expr) (member : String)
    (location : Option Location) : Check Expr :=
  match setting.memberType receiver.type member with
  | .found type => return .mk type receiver.aliasing (.follow receiver member)
  | .unknown =>
    .fail .unknownMember location
      ("type " ++ receiver.type.text ++ " has no member named '" ++ member ++ "'")
  | .notFollowable =>
    .fail .notFollowable location
      ("cannot follow '" ++ member ++ "' on a value of type " ++ receiver.type.text)

/-- Fails unless the arguments of a closure have distinct names that no visible variable
has. -/
def checkClosureArgs (vars : Variables) (args : List SourceArg)
    (location : Option Location) : Check Unit := do
  match repeated (args.map (·.name)) with
  | name :: _ =>
    .fail .duplicateName location
      ("duplicate argument name '" ++ name ++ "' in inline function")
  | [] =>
    let shadowing := args.filter fun arg => vars.has arg.name
    shadowing.forM fun arg =>
      .report .unusableVariableName (arg.location.or location)
        ("inline function argument '" ++ arg.name ++ "' shadows a variable")
    unless shadowing.isEmpty do .abort

/-- The expression for a closure whose body is checked. -/
def checkClosure (site : Site) (vars : Variables) (args : List Argument) (output : Ty)
    (body : Block) (location : Option Location) : Check Expr := do
  unless body.type.same output do
    .fail .typeMismatch location
      ("inline function body has type " ++ body.type.text ++ " but declares " ++ output.text)
  let captures := vars.captured body.names
  let isReference := captures.any (·.type.isReference)
  return .mk (.function isReference [] (args.map (·.type)) output) .notAliased
    (.closure (.mk site args captures output body))

mutual

/-- The typed expression for a written one at a site, where the given variables are
visible. -/
def checkExpr (setting : Setting) (site : Site) (vars : Variables) :
    SourceExpr → Check Expr
  | .variable name location =>
    match vars.type? name with
    | some type => return .mk type .possiblyAliased (.variable name)
    | none => .fail .unknownVariable location ("unknown variable '" ++ name ++ "'")
  | .literal type text location => checkLiteral setting type text location
  | .list items element location => do
    let element ← checkTy setting element
    requireValueType element location "a list element"
    let items ← checkItems setting site vars element location 0 items
    return .mk (.list element) .notAliased (.list items element)
  | .follow receiver member location => do
    let receiver ← checkExpr setting (site.child 0) vars receiver
    checkFollow setting receiver member location
  | .call function args chosen location => do
    let (entity, type) ← setting.callee function location
    let written ← checkOpenTys setting (chosen.map some)
    let args ← checkExprs setting site vars 0 args
    let (chosen, ground) ← groundCall setting type written args function.text location
    return .mk ground.output .notAliased (.call function entity args chosen)
  | .callValue function args chosen location => do
    let function ← checkExpr setting (site.child 0) vars function
    let type ← calleeType function location
    let written ← checkOpenTys setting (chosen.map some)
    let args ← checkExprs setting site vars 1 args
    let (chosen, ground) ← groundCall setting type written args "function expression" location
    return .mk ground.output .notAliased (.callValue function args chosen)
  | .bind function slots chosen location => do
    let (entity, type) ← setting.callee function location
    let written ← checkOpenTys setting chosen
    let slots ← checkSlots setting site vars 0 slots
    let (chosen, bound) ← bindFunction setting type written slots function.text location
    return .mk bound.toTy .notAliased (.bind function entity slots chosen)
  | .bindValue function slots chosen location => do
    let function ← checkExpr setting (site.child 0) vars function
    let type ← calleeType function location
    let written ← checkOpenTys setting chosen
    let slots ← checkSlots setting site vars 1 slots
    let (chosen, bound) ←
      bindFunction setting type written slots "function expression" location
    return .mk bound.toTy function.aliasing (.bindValue function slots chosen)
  | .ifThen condition thenBlock elseBlock location => do
    let condition ← checkExpr setting (site.child 0) vars condition
    unless condition.type.same .boolean do
      .fail .typeMismatch location
        ("an if condition must be Boolean, found " ++ condition.type.text)
    let thenBlock ← checkBlock setting (site.child 1) vars thenBlock
    let elseBlock ← checkBlock setting (site.child 2) vars elseBlock
    unless thenBlock.type.same elseBlock.type do
      .fail .armTypes location
        ("if arms have different types: " ++ thenBlock.type.text ++ " and "
          ++ elseBlock.type.text)
    return .mk thenBlock.type (thenBlock.aliasing.join elseBlock.aliasing)
      (.ifThen condition thenBlock elseBlock)
  | .closure args output body location => do
    checkClosureArgs vars args location
    let args ← args.mapM fun arg => return Argument.mk arg.name (← checkTy setting arg.type)
    let output ← checkTy setting output
    let body ← checkBlock setting (site.child 0) (vars ++ args) body
    checkClosure site vars args output body location

/-- The typed expressions for written ones; `index` numbers the first. -/
def checkExprs (setting : Setting) (site : Site) (vars : Variables) (index : Nat) :
    List SourceExpr → Check (List Expr)
  | [] => pure []
  | expr :: rest => do
    let expr ← checkExpr setting (site.child index) vars expr
    return expr :: (← checkExprs setting site vars (index + 1) rest)

/-- The typed expressions for the items of a list; `index` numbers the first. -/
def checkItems (setting : Setting) (site : Site) (vars : Variables) (element : Ty)
    (location : Option Location) (index : Nat) : List SourceExpr → Check (List Expr)
  | [] => pure []
  | item :: rest => do
    let typed ← checkExpr setting (site.child index) vars item
    unless typed.type.same element do
      .fail .typeMismatch (item.location?.or location)
        ("list item has type " ++ typed.type.text ++ " but the list holds " ++ element.text)
    return typed :: (← checkItems setting site vars element location (index + 1) rest)

/-- The typed expressions for those in slots; `index` numbers the first slot. -/
def checkSlots (setting : Setting) (site : Site) (vars : Variables) (index : Nat) :
    List (Option SourceExpr) → Check (List (Option Expr))
  | [] => pure []
  | none :: rest => return none :: (← checkSlots setting site vars (index + 1) rest)
  | some expr :: rest => do
    let expr ← checkExpr setting (site.child index) vars expr
    return some expr :: (← checkSlots setting site vars (index + 1) rest)

/-- The typed statement for a written one, and the variables that are visible after it. -/
def checkStmt (setting : Setting) (site : Site) (vars : Variables) :
    SourceStmt → Check (Stmt × Variables)
  | .assign name type value location => do
    checkVariableName setting vars name location
    let value ← checkExpr setting site vars value
    checkAssignment setting name type value location
    checkActions value location
    return (.assign name value.type value, vars ++ [⟨name, value.type⟩])
  | .bare value => do
    let typed ← checkExpr setting site vars value
    checkActions typed value.location?
    return (.bare typed, vars)

/-- The typed block for written statements, the last of which supplies its value; `index`
numbers the first statement, and `location` is that of the block. -/
def checkStmts (setting : Setting) (site : Site) (vars : Variables)
    (location : Option Location) (index : Nat) : List SourceStmt → Check Block
  | [] => .fail .blockEnd location "a block must end with an expression"
  | [last] => do
    match ← checkStmt setting (site.child index) vars last with
    | (.bare value, _) => return .mk [] value
    | (.assign name _ _, _) =>
      .fail .blockEnd last.location?
        ("a block cannot end with an assignment (to '" ++ name ++ "')")
  | statement :: rest => do
    let (statement, vars) ← checkStmt setting (site.child index) vars statement
    let block ← checkStmts setting site vars location (index + 1) rest
    return .mk (statement :: block.statements) block.last

/-- The typed block for a written one. -/
def checkBlock (setting : Setting) (site : Site) (vars : Variables) :
    SourceBlock → Check Block
  | .mk statements location => checkStmts setting site vars location 0 statements

end

end TypedModules
