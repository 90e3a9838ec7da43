import TypedModules.Check.Expr
import TypedModules.Proofs.Declared.Formed

/-!
# The typing judgement

What it means for a typed tree to be well typed, told without the checker that made it.  Every
expression carries a formed type, and what it is made of determines that type: a call grounds
the type of its callee with the types chosen in the tree, a binding rebinds it, what follows a
value has the type of a member or of a method at the arguments of the value's type, and a
variable has the type of its declaration.  `Expr.Typed` and `Block.Typed` put this together
for trees, however deep.
-/

namespace TypedModules

/-- What a typed tree is judged in: for what a written reference to a function may stand, and
what is declared. -/
structure Surroundings where
  resolves : Reference → Visible → Prop
  library : Library

/-- Whether surroundings hold all that others hold. -/
structure Surroundings.Extends (around other : Surroundings) : Prop where
  resolves : ∀ reference entry, other.resolves reference entry →
    around.resolves reference entry
  library : around.library.Extends other.library

/-! ### What the parts of an expression determine -/

/-- Whether a call of a function of the given type, with the given types chosen and arguments
of the given types, has a type. -/
structure FunctionType.Calls (library : Library) (function : FunctionType) (chosen args : List Ty)
    (type : Ty) : Prop where
  /-- There is one choice for each type parameter. -/
  count : chosen.length = function.typeParams.length
  formed : ∀ c ∈ chosen, c.Formed library.openScope 0
  /-- The arguments have the types of the grounded function, position by position. -/
  args : Ty.sameAll args (function.ground chosen).args = true
  output : type = (function.ground chosen).output

/-- Whether binding what is supplied to a function of the given type, with the given types
chosen, makes a function of a type. -/
structure FunctionType.Binds (library : Library) (function : FunctionType)
    (chosen supplied : List (Option Ty)) (type : Ty) : Prop where
  /-- There is one choice, or none, for each type parameter. -/
  count : chosen.length = function.typeParams.length
  formed : ∀ c, some c ∈ chosen → c.Formed library.openScope 0
  /-- What is supplied has the type of its slot, which depends on nothing that is open. -/
  slots : List.Forall₂ (fun value slot => ∀ v, value = some v →
    v.same slot = true ∧ slot.isBindable = true) supplied (function.rebindTypes chosen).args
  output : type = ((function.rebindTypes chosen).rebindArgs supplied).toTy

/-- The signature of something that is declared. -/
def Library.signature? (library : Library) (entry : Visible) : Option Signature :=
  (library entry.entity.module).bind fun definitions =>
    definitions.signature? entry.kind entry.entity.id

/-- Whether a type is that of what stands under a name in the values of another type. -/
def Library.HasMember (library : Library) (receiver : Ty) (member : String) (type : Ty) : Prop :=
  ∃ isReference entity written args definitions,
    receiver = .named isReference entity written args
      ∧ library entity.module = some definitions
      ∧ definitions.memberType entity.id args member = .found type

/-- Whether the literals of a type have a form: a struct with one member has the literals of
that member. -/
inductive Library.HasForm (library : Library) : Ty → LiteralForm → Prop
  | integer : HasForm library .integer .integer
  | natural : HasForm library .natural .natural
  | boolean : HasForm library .boolean .boolean
  | string (isReference : Bool) (written : Reference) (args : List Ty) :
    HasForm library (.named isReference stringEntity written args) .string
  | struct {isReference : Bool} {entity : Entity} {written : Reference} {args : List Ty}
      {definitions : Definitions} {header : StructHeader} {member : Argument}
      {form : LiteralForm} :
    entity ≠ stringEntity →
    library entity.module = some definitions →
    definitions.struct? entity.id = some header →
    header.members = [member] →
    HasForm library (member.type.substitute (.ofParams header.typeParams args)) form →
    HasForm library (.named isReference entity written args) form

/-- What a statement declares. -/
def Stmt.declared : Stmt → List Argument
  | .assign name type _ => [⟨name, type⟩]
  | .bare _ => []

/-- What statements declare, in order. -/
def declaredBy (statements : List Stmt) : List Argument :=
  statements.flatMap Stmt.declared

/-- Whether a closure whose body mentions the given names captures the right variables of
those that are visible: each that is mentioned, with its type, and no other. -/
structure Variables.Captures (vars : Variables) (names : List String) (captures : List Argument) :
    Prop where
  distinct : (captures.map (·.name)).Nodup
  types : ∀ c ∈ captures, vars.type? c.name = some c.type
  mentioned : ∀ c ∈ captures, c.name ∈ names
  complete : ∀ name ∈ names, vars.has name = true → name ∈ captures.map (·.name)

/-! ### Trees -/

mutual

/-- Whether an expression is well typed where the given variables are visible. -/
def Expr.Typed (around : Surroundings) (vars : Variables) : Expr → Prop
  | .mk type _ node => type.Formed around.library.openScope 0 ∧ node.Typed around vars type

/-- Whether a node is well typed with a type. -/
def Node.Typed (around : Surroundings) (vars : Variables) (type : Ty) : Node → Prop
  | .variable name => vars.type? name = some type
  | .literal text => ∃ form, around.library.HasForm type form ∧ form.accepts text = true
  | .list items element =>
    type = .list element ∧ AreTyped around vars items
      ∧ ∀ item ∈ items, item.type.same element = true
  | .follow receiver member =>
    receiver.Typed around vars ∧ around.library.HasMember receiver.type member type
  | .call reference entity args chosen =>
    AreTyped around vars args ∧ ∃ entry signature, around.resolves reference entry
      ∧ entry.entity = entity ∧ around.library.signature? entry = some signature
      ∧ signature.functionType.Calls around.library chosen (args.map (·.type)) type
  | .callValue function args chosen =>
    function.Typed around vars ∧ AreTyped around vars args
      ∧ ∃ functionType, function.type.function? = some functionType
      ∧ functionType.Calls around.library chosen (args.map (·.type)) type
  | .bind reference entity slots chosen =>
    SlotsTyped around vars slots ∧ ∃ entry signature, around.resolves reference entry
      ∧ entry.entity = entity ∧ around.library.signature? entry = some signature
      ∧ signature.functionType.Binds around.library chosen
        (slots.map fun slot => slot.map (·.type)) type
  | .bindValue function slots chosen =>
    function.Typed around vars ∧ SlotsTyped around vars slots
      ∧ ∃ functionType, function.type.function? = some functionType
      ∧ functionType.Binds around.library chosen (slots.map fun slot => slot.map (·.type)) type
  | .ifThen condition thenBlock elseBlock =>
    condition.Typed around vars ∧ condition.type.same .boolean = true
      ∧ thenBlock.Typed around vars ∧ thenBlock.type.same type = true
      ∧ elseBlock.Typed around vars ∧ elseBlock.type.same type = true
  | .closure (.mk _ args captures output body) =>
    (args.map (·.name)).Nodup ∧ (∀ a ∈ args, vars.has a.name = false)
      ∧ vars.Captures body.names captures ∧ body.Typed around (vars ++ args)
      ∧ body.type.same output = true
      ∧ type = .function (captures.any (·.type.isReference)) [] (args.map (·.type)) output

/-- Whether expressions are well typed. -/
def AreTyped (around : Surroundings) (vars : Variables) : List Expr → Prop
  | [] => True
  | expr :: rest => expr.Typed around vars ∧ AreTyped around vars rest

/-- Whether the expressions in slots are well typed. -/
def SlotsTyped (around : Surroundings) (vars : Variables) : List (Option Expr) → Prop
  | [] => True
  | none :: rest => SlotsTyped around vars rest
  | some expr :: rest => expr.Typed around vars ∧ SlotsTyped around vars rest

/-- Whether a statement is well typed: a variable is declared once, with the type of its
value. -/
def Stmt.Typed (around : Surroundings) (vars : Variables) : Stmt → Prop
  | .assign name type value =>
    vars.has name = false ∧ value.Typed around vars ∧ type = value.type
  | .bare value => value.Typed around vars

/-- Whether statements are well typed, each where the ones before it are declared. -/
def StmtsTyped (around : Surroundings) (vars : Variables) : List Stmt → Prop
  | [] => True
  | statement :: rest =>
    statement.Typed around vars ∧ StmtsTyped around (vars ++ statement.declared) rest

/-- Whether a block is well typed. -/
def Block.Typed (around : Surroundings) (vars : Variables) : Block → Prop
  | .mk statements last =>
    StmtsTyped around vars statements ∧ last.Typed around (vars ++ declaredBy statements)

end

@[simp]
theorem areTyped_iff {around : Surroundings} {vars : Variables} {exprs : List Expr} :
  AreTyped around vars exprs ↔ ∀ expr ∈ exprs, expr.Typed around vars
  := by
  induction exprs with
  | nil => simp [AreTyped]
  | cons expr rest ih => simp [AreTyped, ih]

@[simp]
theorem slotsTyped_iff {around : Surroundings} {vars : Variables} {slots : List (Option Expr)} :
  SlotsTyped around vars slots ↔ ∀ expr, some expr ∈ slots → expr.Typed around vars
  := by
  induction slots with
  | nil => simp [SlotsTyped]
  | cons slot rest ih => cases slot <;> simp [SlotsTyped, ih]

/-- Whether the bodies of a module are well typed: each function body returns what the function
declares, and each `requires` block a truth value. -/
structure Module.Typed (around : Surroundings) (module : Module) : Prop where
  functions : ∀ function ∈ module.functions,
    function.body.Typed around function.args ∧ function.body.type.same function.output = true
  requires : ∀ struct ∈ module.structs, ∀ block, struct.requires = some block →
    block.Typed around struct.members ∧ block.type.same .boolean = true

end TypedModules
