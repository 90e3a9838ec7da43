import TypedModules.Eval.Literal
import TypedModules.Native.Run

/-!
# The interpreter

The value of an entity for given arguments, by what the entity is: a native function or
struct, a function of a module, or what a struct, an interface or a union brings along.  One
step answers a request with the help of answers to other requests; `Program.answer` allows
as many steps inside one another as it has fuel.
-/

namespace TypedModules

/-- The value of a body whose arguments have the given values. -/
def callBody (ask : Request → Eval Value) (args : List Argument) (body : Block)
    (values : List Value) : Eval Value :=
  body.eval ask (.ofBindings ((args.map (·.name)).zip values))

/-- The value of a function. -/
def callFunction (ask : Request → Eval Value) (function : Function) (args : List Value) :
    Eval Value := do
  .checkArity function.id.text function.args.length args.length
  callBody ask function.args function.body args

/-- The value that the constructor of a struct builds: a `Try` if it has a `requires`
block. -/
def construct (ask : Request → Eval Value) (struct : Struct) (args : List Value) :
    Eval Value := do
  .checkArity struct.id.text struct.members.length args.length
  let value := Value.struct struct.toStructHeader args
  match struct.requires with
  | none => return value
  | some requires =>
    if ← satisfies ask struct.toStructHeader requires args then return .success value
    else return .failure

/-- The method of an instance: a member of the adapter with its first open slot filled. -/
def bindMethod (data member : Value) : Eval Binding := do
  match (← member.asBinding).bindFirst? data with
  | some binding => return binding
  | none => .fail (.arityMismatch "adapter method" 1 0)

/-- The instance of an interface for data and an adapter. -/
def constructInstance (interface : Interface) (args : List Value) : Eval Value := do
  match args with
  | [data, .struct _ members] => return .object interface (← members.mapM (bindMethod data))
  | [_, adapter] => adapter.mismatch "adapter"
  | _ => .fail (.arityMismatch interface.id.text 2 args.length)

/-- The adapter with the given implementations. -/
def constructAdapter (interface : Interface) (args : List Value) : Eval Value := do
  .checkArity interface.adapterId.text interface.methods.length args.length
  return .struct interface.adapter args

/-- The value of an option of a union. -/
def constructOption (union : Union) (name : String) (args : List Value) : Eval Value := do
  match union.optionIndex? name, union.option? name with
  | some index, some option =>
    .checkArity (union.id.child name).text option.type.toList.length args.length
    return .union union index args.head?
  | _, _ => .fail (.undefinedEntity (union.id.child name).text)

/-- What the handler of a union value's option makes of what the value holds. -/
def distinguish (ask : Request → Eval Value) (union : Union) (args : List Value) :
    Eval Value := do
  .checkArity union.whenId.text (union.options.length + 1) args.length
  match args with
  | .union _ option payload :: handlers =>
    match handlers[option]? with
    | some handler =>
      let handler ← handler.asBinding
      ask (.apply handler payload.toList)
    | none =>
      .fail (.arityMismatch union.whenId.text (union.options.length + 1) option)
  | _ => .fail (.undefinedEntity union.whenId.text)

/-- The value of a native entity. -/
def evalNative (ask : Request → Eval Value) (fuel : Nat) (entity : Entity)
    (args : List Value) : Eval Value :=
  match nativeDefinitions.struct? entity.id with
  | some header => construct ask { header with requires := none } args
  | none =>
    match NativeFunction.ofId? entity.id with
    | some native => native.run ask fuel args
    | none => .fail (.missingNative entity.text)

/-- The value of what a union brings along under an id. -/
def evalUnion (ask : Request → Eval Value) (union : Union) (name : String)
    (args : List Value) : Eval Value :=
  if name = "when" then distinguish ask union args else constructOption union name args

/-- The value of an entity of a module that is not the native one. -/
def evalDeclared (program : Program) (ask : Request → Eval Value) (fuel : Nat)
    (module : Module) (entity : Entity) (args : List Value) : Eval Value :=
  match module.function? entity.id with
  | some function =>
    match program.override? entity with
    | some native => native.run ask fuel args
    | none => callFunction ask function args
  | none =>
    match module.struct? entity.id with
    | some struct => construct ask struct args
    | none =>
      match module.interface? entity.id with
      | some interface => constructInstance interface args
      | none =>
        match module.adapterOwner? entity.id with
        | some interface => constructAdapter interface args
        | none =>
          match entity.id.parent?.bind module.union? with
          | some union => evalUnion ask union entity.id.last args
          | none => .fail (.undefinedEntity entity.text)

/-- The value of an entity. -/
def evalEntity (program : Program) (ask : Request → Eval Value) (fuel : Nat)
    (entity : Entity) (args : List Value) : Eval Value :=
  if entity.module.isNative then evalNative ask fuel entity args
  else
    match program.module.find? entity.module with
    | some module => evalDeclared program ask fuel module entity args
    | none => .fail (.undefinedEntity entity.text)

/-- The value of a closure for its arguments followed by what it captures. -/
def callClosure (ask : Request → Eval Value) (closure : Closure) (values : List Value) :
    Eval Value := do
  let args := closure.args ++ closure.captures
  .checkArity "inline function" args.length values.length
  callBody ask args closure.body values

/-- The value of a binding for the arguments in its open slots. -/
def applyBinding (ask : Request → Eval Value) (binding : Binding) (args : List Value) :
    Eval Value := do
  let filled ← binding.fill (args.map some)
  match filled.arguments? with
  | none => .fail (.arityMismatch "function binding" args.length 0)
  | some values =>
    match filled.target with
    | .entity entity => ask (.call entity values)
    | .closure closure => callClosure ask closure values

namespace Program

/-- The answer to a request, with the help of answers to others. -/
def step (program : Program) (fuel : Nat) (ask : Request → Eval Value) :
    Request → Eval Value
  | .call entity args => .inFrame entity (evalEntity program ask fuel entity args)
  | .apply binding args => applyBinding ask binding args
  | .literal type text => decode program ask type text

/-- The answer to a request, with at most `fuel` steps inside one another. -/
def answer (program : Program) : (fuel : Nat) → Request → Eval Value
  | 0, _ => throw .outOfFuel
  | fuel + 1, request => program.step fuel (program.answer fuel) request

/-- The value of an entity for given arguments. -/
def evaluate (program : Program) (fuel : Nat) (entity : Entity) (args : List Value) :
    Eval Value :=
  program.answer fuel (.call entity args)

/-- The value of an entity of the program's own module. -/
def interpret (program : Program) (fuel : Nat) (id : EntityId) (args : List Value) :
    Eval Value :=
  program.evaluate fuel ⟨program.module.id, id⟩ args

/-- The value of a binding for the arguments in its open slots. -/
def apply (program : Program) (fuel : Nat) (binding : Binding) (args : List Value) :
    Eval Value :=
  program.answer fuel (.apply binding args)

/-- The value of a type that a text denotes. -/
def decode (program : Program) (fuel : Nat) (type : Ty) (text : String) : Eval Value :=
  program.answer fuel (.literal type text)

/-- The value of a native function, called directly. -/
def runNative (program : Program) (fuel : Nat) (function : NativeFunction)
    (args : List Value) : Eval Value :=
  function.run (program.answer fuel) fuel args

end Program
end TypedModules
