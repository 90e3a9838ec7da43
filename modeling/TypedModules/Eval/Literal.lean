import TypedModules.Eval.Expr
import TypedModules.Eval.Program
import TypedModules.Literal.ListText
import TypedModules.Literal.Number
import TypedModules.Ty.Display

/-!
# Decoding literals

The value of a type that a text denotes.  Blanks around a number, a truth value, a `Try` or
a list do not count; a string is its text as it is; and a struct with one member takes over
the literals of the member's type, as far as its `requires` block allows.
-/

namespace TypedModules

/-- Ends with an error about a literal. -/
def failLiteral {α : Type} (literal : String) (type : Ty) (reason : String) : Eval α :=
  .fail (.invalidLiteral literal type.text reason)

/-- The value that a primitive type's literal denotes, or an error. -/
def primitiveLiteral (type : Ty) (literal : String) (value : Option Value) : Eval Value :=
  match value with
  | some value => pure value
  | none => failLiteral literal type "not accepted by the type's literal validator"

/-- Ends with an error about a type without literals. -/
def failNoForm {α : Type} (type : Ty) (literal : String) : Eval α :=
  failLiteral literal type "type has no literal form"

/-- The truth value that a text writes. -/
def parseBoolean? (text : List Char) : Option Bool :=
  if text = "true".toList then some true
  else if text = "false".toList then some false
  else none

/-- The text between the parentheses of a success. -/
def insideSuccess? (text : List Char) : Option (List Char) :=
  let opening := "success(".toList
  if opening.isPrefixOf text then
    let rest := text.drop opening.length
    if rest.getLast? = some ')' then some rest.dropLast else none
  else
    none

/-- The value of a `Try` that a text denotes. -/
def decodeTry (ask : Request → Eval Value) (inner : Ty) (literal : String) : Eval Value :=
  let text := Text.trim literal.toList
  if text = "failure".toList then pure .failure
  else
    match insideSuccess? text with
    | some value => return .success (← ask (.literal inner (String.ofList value)))
    | none =>
      failLiteral literal (.tryOf inner) "expected 'failure' or 'success(...)'"

/-- Whether the members of a struct satisfy its `requires` block. -/
def satisfies (ask : Request → Eval Value) (header : StructHeader) (requires : Block)
    (members : List Value) : Eval Bool := do
  let env := Environment.ofBindings ((header.members.map (·.name)).zip members)
  (← requires.eval ask env).asBoolean

/-- The value of a struct with one member that a text denotes. -/
def decodeStruct (ask : Request → Eval Value) (struct : Struct) (member : Argument)
    (args : List Ty) (literal : String) : Eval Value := do
  let type := member.type.substitute (.ofParams struct.typeParams args)
  let members := [← ask (.literal type literal)]
  if let some requires := struct.requires then
    unless ← satisfies ask struct.toStructHeader requires members do
      .fail (.requiresFailed struct.id.text literal)
  return .struct struct.toStructHeader members

/-- The value of a type that a text denotes. -/
def decode (program : Program) (ask : Request → Eval Value) (type : Ty) (literal : String) :
    Eval Value :=
  let text := Text.trim literal.toList
  match type with
  | .integer => primitiveLiteral type literal ((parseInteger? text).map .integer)
  | .natural => primitiveLiteral type literal ((parseNatural? text).map .natural)
  | .boolean => primitiveLiteral type literal ((parseBoolean? text).map .boolean)
  | .tryOf inner => decodeTry ask inner literal
  | .list element =>
    match ListText.parse literal with
    | .error fault => failLiteral literal type fault.message
    | .ok items => return .list (← items.mapM fun item => ask (.literal element item))
  | .named _ entity _ args =>
    if entity = Native.string.entity then pure (.string literal)
    else
      match program.struct? entity with
      | none => failNoForm type literal
      | some struct =>
        match struct.members with
        | [member] => decodeStruct ask struct member args literal
        | _ => failNoForm type literal
  | .function _ _ _ _ | .param _ | .internal _ => failNoForm type literal

end TypedModules
