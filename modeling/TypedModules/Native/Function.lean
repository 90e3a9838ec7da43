import TypedModules.Name.Reference

/-!
# Native functions

The functions that the native module offers, and their ids.
-/

namespace TypedModules

/-- The functions of the native module. -/
inductive NativeFunction where
  | booleanAnd
  | booleanNot
  | booleanOr
  | dataEquals
  | integerDividedBy
  | integerEquals
  | integerGreaterThan
  | integerLessThan
  | integerMinus
  | integerModulo
  | integerPlus
  | integerTimes
  | listAppend
  | listAppendFront
  | listConcatenate
  | listFilter
  | listFlatMap
  | listGet
  | listLast
  | listMap
  | listReduce
  | listSize
  | listSubList
  | builderAppend
  | builderAppendAll
  | builderBuild
  | builderCreate
  | natural
  | naturalDividedBy
  | naturalEquals
  | naturalLessThan
  | naturalMax
  | naturalPlus
  | naturalTimes
  | naturalToInteger
  | sequenceFirst
  | sequenceGet
  | tryAssume
  | tryFailure
  | tryFlatMap
  | tryIsSuccess
  | tryMap
  | tryOrElse
  | trySuccess
  | stringLength
deriving DecidableEq, Inhabited

namespace NativeFunction

/-- The segments of the name of a native function. -/
def segments : NativeFunction → List String
  | booleanAnd => ["Boolean", "and"]
  | booleanNot => ["Boolean", "not"]
  | booleanOr => ["Boolean", "or"]
  | dataEquals => ["Data", "equals"]
  | integerDividedBy => ["Integer", "dividedBy"]
  | integerEquals => ["Integer", "equals"]
  | integerGreaterThan => ["Integer", "greaterThan"]
  | integerLessThan => ["Integer", "lessThan"]
  | integerMinus => ["Integer", "minus"]
  | integerModulo => ["Integer", "modulo"]
  | integerPlus => ["Integer", "plus"]
  | integerTimes => ["Integer", "times"]
  | listAppend => ["List", "append"]
  | listAppendFront => ["List", "appendFront"]
  | listConcatenate => ["List", "concatenate"]
  | listFilter => ["List", "filter"]
  | listFlatMap => ["List", "flatMap"]
  | listGet => ["List", "get"]
  | listLast => ["List", "last"]
  | listMap => ["List", "map"]
  | listReduce => ["List", "reduce"]
  | listSize => ["List", "size"]
  | listSubList => ["List", "subList"]
  | builderAppend => ["ListBuilder", "append"]
  | builderAppendAll => ["ListBuilder", "appendAll"]
  | builderBuild => ["ListBuilder", "build"]
  | builderCreate => ["ListBuilder", "create"]
  | natural => ["Natural"]
  | naturalDividedBy => ["Natural", "dividedBy"]
  | naturalEquals => ["Natural", "equals"]
  | naturalLessThan => ["Natural", "lessThan"]
  | naturalMax => ["Natural", "max"]
  | naturalPlus => ["Natural", "plus"]
  | naturalTimes => ["Natural", "times"]
  | naturalToInteger => ["Natural", "toInteger"]
  | sequenceFirst => ["Sequence", "first"]
  | sequenceGet => ["Sequence", "get"]
  | tryAssume => ["Try", "assume"]
  | tryFailure => ["Try", "failure"]
  | tryFlatMap => ["Try", "flatMap"]
  | tryIsSuccess => ["Try", "isSuccess"]
  | tryMap => ["Try", "map"]
  | tryOrElse => ["Try", "orElse"]
  | trySuccess => ["Try", "success"]
  | stringLength => ["Unicode", "String", "length"]

/-- The native functions, in the order of their names. -/
def all : List NativeFunction :=
  [booleanAnd, booleanNot, booleanOr, dataEquals, integerDividedBy, integerEquals,
    integerGreaterThan, integerLessThan, integerMinus, integerModulo, integerPlus,
    integerTimes, listAppend, listAppendFront, listConcatenate, listFilter, listFlatMap,
    listGet, listLast, listMap, listReduce, listSize, listSubList, builderAppend,
    builderAppendAll, builderBuild, builderCreate, natural, naturalDividedBy, naturalEquals,
    naturalLessThan, naturalMax, naturalPlus, naturalTimes, naturalToInteger, sequenceFirst,
    sequenceGet, tryAssume, tryFailure, tryFlatMap, tryIsSuccess, tryMap, tryOrElse,
    trySuccess, stringLength]

/-- The id of a native function. -/
def id (function : NativeFunction) : EntityId :=
  ⟨function.segments⟩

/-- The name of a native function. -/
def name (function : NativeFunction) : String :=
  function.id.text

/-- The native functions with their ids. -/
def table : List (EntityId × NativeFunction) :=
  all.map fun function => (function.id, function)

/-- The native function with an id. -/
def ofId? (id : EntityId) : Option NativeFunction :=
  (table.find? (·.1 == id)).map (·.2)

theorem mem_all (function : NativeFunction) :
  function ∈ all
  := by
  cases function <;> decide

end NativeFunction
end TypedModules
