import TypedModules.Eval.Basic
import TypedModules.Native.Function

/-!
# What native functions do

The value of each native function for given arguments.  A native function that takes a
function calls it by asking for the value of a binding.  Numbers have any size, and what lies
outside a list or cannot be divided is a failure and no error.
-/

namespace TypedModules
namespace NativeFunction

/-- Ends with an error about the number of arguments. -/
def wrongArity {α : Type} (function : NativeFunction) (expected : Nat) (args : List Value) :
    Eval α :=
  .fail (.arityMismatch function.name expected args.length)

/-- Goes on if there is no argument. -/
def noArgument (function : NativeFunction) (args : List Value) : Eval Unit :=
  match args with
  | [] => pure ()
  | _ => function.wrongArity 0 args

/-- The only argument. -/
def oneArgument (function : NativeFunction) (args : List Value) : Eval Value :=
  match args with
  | [a] => pure a
  | _ => function.wrongArity 1 args

/-- The two arguments. -/
def twoArguments (function : NativeFunction) (args : List Value) : Eval (Value × Value) :=
  match args with
  | [a, b] => pure (a, b)
  | _ => function.wrongArity 2 args

/-- The three arguments. -/
def threeArguments (function : NativeFunction) (args : List Value) :
    Eval (Value × Value × Value) :=
  match args with
  | [a, b, c] => pure (a, b, c)
  | _ => function.wrongArity 3 args

/-- The two truth values that are the arguments. -/
def booleans (function : NativeFunction) (args : List Value) : Eval (Bool × Bool) := do
  let (a, b) ← function.twoArguments args
  return (← a.asBoolean, ← b.asBoolean)

/-- The two integers that are the arguments. -/
def integers (function : NativeFunction) (args : List Value) : Eval (Int × Int) := do
  let (a, b) ← function.twoArguments args
  return (← a.asInteger, ← b.asInteger)

/-- The two natural numbers that are the arguments. -/
def naturals (function : NativeFunction) (args : List Value) : Eval (Nat × Nat) := do
  let (a, b) ← function.twoArguments args
  return (← a.asNatural, ← b.asNatural)

/-- The list and the function that are the arguments. -/
def listAndFunction (function : NativeFunction) (args : List Value) :
    Eval (List Value × Binding) := do
  let (list, f) ← function.twoArguments args
  return (← list.asList, ← f.asBinding)

/-- The `Try` and the function that are the arguments. -/
def tryAndFunction (function : NativeFunction) (args : List Value) :
    Eval (Option Value × Binding) := do
  let (value, f) ← function.twoArguments args
  let f ← f.asBinding
  return (← value.asTry, f)

/-- The quotient rounded towards zero, unless the divisor is zero. -/
def quotient (a b : Int) : Option Int :=
  if b = 0 then none else some (a.tdiv b)

/-- The remainder that is not negative, if the divisor is positive. -/
def remainder (a b : Int) : Option Int :=
  if b ≤ 0 then none else some (a % b)

/-- The items from position `start` up to, but not including, `stop`, if the list has
them. -/
def subList? (items : List Value) (start stop : Nat) : Option (List Value) :=
  if start ≤ stop ∧ stop ≤ items.length then some ((items.take stop).drop start) else none

/-- The greatest of natural numbers, or nothing if there is none. -/
def greatest : List Nat → Option Nat
  | [] => none
  | n :: rest => some (rest.foldl max n)

/-- The items of the list that the function returns for each item, one after another. -/
def flatten : List Value → Eval (List Value)
  | [] => pure []
  | list :: rest => do
    let items ← list.asList
    return items ++ (← flatten rest)

/-- The items that a function returns for the items of a list, in order. -/
def mapItems (apply : List Value → Eval Value) : List Value → Eval (List Value)
  | [] => pure []
  | item :: rest => do
    let mapped ← apply [item]
    return mapped :: (← mapItems apply rest)

/-- The items of the lists that a function returns for the items of a list, in order. -/
def flatMapItems (apply : List Value → Eval Value) : List Value → Eval (List Value)
  | [] => pure []
  | item :: rest => do
    let mapped ← (← apply [item]).asList
    return mapped ++ (← flatMapItems apply rest)

/-- The items of a list for which a function returns `true`, in order. -/
def filterItems (apply : List Value → Eval Value) : List Value → Eval (List Value)
  | [] => pure []
  | item :: rest => do
    let keep ← (← apply [item]).asBoolean
    let kept ← filterItems apply rest
    return if keep then item :: kept else kept

/-- What a function makes of a start value and the items of a list, from the first on. -/
def reduceItems (apply : List Value → Eval Value) : Value → List Value → Eval Value
  | value, [] => pure value
  | value, item :: rest => do
    let value ← apply [value, item]
    reduceItems apply value rest

/-- The first element of a sequence, and the function from each element to the next. -/
def sequenceParts : Value → Eval (Value × Binding)
  | .struct _ [base, successor] => return (base, ← successor.asBinding)
  | .struct _ _ => .fail (.undefinedMember "successor" "struct")
  | other => other.mismatch "Sequence"

/-- What `n` applications of a function make of a value. -/
def iterate (apply : List Value → Eval Value) : (n : Nat) → Value → Eval Value
  | 0, value => pure value
  | n + 1, value => do
    let value ← apply [value]
    iterate apply n value

/-- The first of a value and what applications of `next` make of it for which `holds` returns
`true`; `fuel` bounds the number of values that are tried. -/
def search (next holds : List Value → Eval Value) : (fuel : Nat) → Value → Eval Value
  | 0, _ => throw .outOfFuel
  | fuel + 1, value => do
    if ← (← holds [value]).asBoolean then return value
    let value ← next [value]
    search next holds fuel value

/-- The value of a native function for given arguments.  `ask` answers what is asked for in
between, and `fuel` bounds a search without end. -/
def run (ask : Request → Eval Value) (fuel : Nat) (function : NativeFunction)
    (args : List Value) : Eval Value := do
  match function with
  | booleanNot => return .boolean !(← (← function.oneArgument args).asBoolean)
  | booleanAnd =>
    let (a, b) ← function.booleans args
    return .boolean (a && b)
  | booleanOr =>
    let (a, b) ← function.booleans args
    return .boolean (a || b)
  | dataEquals =>
    let (a, b) ← function.twoArguments args
    return .boolean (a.same b)
  | integerPlus =>
    let (a, b) ← function.integers args
    return .integer (a + b)
  | integerMinus =>
    let (a, b) ← function.integers args
    return .integer (a - b)
  | integerTimes =>
    let (a, b) ← function.integers args
    return .integer (a * b)
  | integerDividedBy =>
    let (a, b) ← function.integers args
    return .ofOption ((quotient a b).map .integer)
  | integerModulo =>
    let (a, b) ← function.integers args
    return .ofOption ((remainder a b).map .integer)
  | integerEquals =>
    let (a, b) ← function.integers args
    return .boolean (a == b)
  | integerLessThan =>
    let (a, b) ← function.integers args
    return .boolean (a < b)
  | integerGreaterThan =>
    let (a, b) ← function.integers args
    return .boolean (b < a)
  | natural =>
    let n ← (← function.oneArgument args).asInteger
    return .ofOption (if n < 0 then none else some (.natural n.toNat))
  | naturalToInteger =>
    let n ← (← function.oneArgument args).asNatural
    return .integer n
  | naturalPlus =>
    let (a, b) ← function.naturals args
    return .natural (a + b)
  | naturalTimes =>
    let (a, b) ← function.naturals args
    return .natural (a * b)
  | naturalDividedBy =>
    let (a, b) ← function.naturals args
    return .ofOption (if b = 0 then none else some (.natural (a / b)))
  | naturalEquals =>
    let (a, b) ← function.naturals args
    return .boolean (a == b)
  | naturalLessThan =>
    let (a, b) ← function.naturals args
    return .boolean (a < b)
  | naturalMax =>
    let items ← (← function.oneArgument args).asList
    let numbers ← items.mapM Value.asNatural
    return .ofOption ((greatest numbers).map .natural)
  | listAppend =>
    let (list, item) ← function.twoArguments args
    return .list ((← list.asList) ++ [item])
  | listAppendFront =>
    let (list, item) ← function.twoArguments args
    return .list (item :: (← list.asList))
  | listConcatenate =>
    let lists ← (← function.oneArgument args).asList
    return .list (← flatten lists)
  | listSubList =>
    let (list, start, stop) ← function.threeArguments args
    let items ← list.asList
    let start ← start.asNatural
    let stop ← stop.asNatural
    return .ofOption ((subList? items start stop).map .list)
  | listMap =>
    let (items, f) ← function.listAndFunction args
    return .list (← mapItems (ask <| .apply f ·) items)
  | listFlatMap =>
    let (items, f) ← function.listAndFunction args
    return .list (← flatMapItems (ask <| .apply f ·) items)
  | listFilter =>
    let (items, f) ← function.listAndFunction args
    return .list (← filterItems (ask <| .apply f ·) items)
  | listReduce =>
    let (list, start, f) ← function.threeArguments args
    let f ← f.asBinding
    reduceItems (ask <| .apply f ·) start (← list.asList)
  | listSize =>
    let items ← (← function.oneArgument args).asList
    return .natural items.length
  | listGet =>
    let (list, position) ← function.twoArguments args
    let items ← list.asList
    return .ofOption items[← position.asNatural]?
  | listLast =>
    let items ← (← function.oneArgument args).asList
    return .ofOption items.getLast?
  | trySuccess => return .success (← function.oneArgument args)
  | tryFailure =>
    function.noArgument args
    return .failure
  | tryAssume =>
    match ← (← function.oneArgument args).asTry with
    | some value => return value
    | none => .fail .assumedFailure
  | tryIsSuccess => return .boolean (← (← function.oneArgument args).asTry).isSome
  | tryMap =>
    match ← function.tryAndFunction args with
    | (some value, f) => return .success (← ask (.apply f [value]))
    | (none, _) => return .failure
  | tryFlatMap =>
    match ← function.tryAndFunction args with
    | (some value, f) => ask (.apply f [value])
    | (none, _) => return .failure
  | tryOrElse =>
    let (value, other) ← function.twoArguments args
    return (← value.asTry).getD other
  | sequenceGet =>
    let (sequence, n) ← function.twoArguments args
    let (base, next) ← sequenceParts sequence
    iterate (ask <| .apply next ·) (← n.asNatural) base
  | sequenceFirst =>
    let (sequence, holds) ← function.twoArguments args
    let (base, next) ← sequenceParts sequence
    let holds ← holds.asBinding
    search (ask <| .apply next ·) (ask <| .apply holds ·) fuel base
  | builderCreate =>
    function.noArgument args
    let store ← get
    set store.create
    return .builder store.next
  | builderAppend =>
    let (builder, item) ← function.twoArguments args
    let number ← builder.asBuilder
    modify (·.append number [item])
    return builder
  | builderAppendAll =>
    let (builder, list) ← function.twoArguments args
    let items ← list.asList
    let number ← builder.asBuilder
    modify (·.append number items)
    return builder
  | builderBuild =>
    let number ← (← function.oneArgument args).asBuilder
    return .list ((← get).items number)
  | stringLength =>
    match ← function.oneArgument args with
    | .string text => return .natural text.length
    | other => other.mismatch "Unicode.String"

end NativeFunction
end TypedModules
