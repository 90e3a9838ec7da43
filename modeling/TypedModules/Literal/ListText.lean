import TypedModules.Text.Blank

/-!
# List literals

A list literal is written between square brackets, with commas between its items.  An item
is bare text up to the next comma, text between single or double quotes in which a backslash
stands before a character that is meant as it is, or a nested list, which is kept as it is
written.
-/

namespace TypedModules
namespace ListText

/-- What is wrong with a list literal. -/
inductive Fault where
  | notBracketed
  | missingItem
  | missingComma
  | unterminatedQuote
  | unterminatedEscape
  | unbalanced
deriving DecidableEq

/-- The wording of each fault. -/
def Fault.message : Fault → String
  | notBracketed => "expected a list literal in square brackets"
  | missingItem => "expected an item after ','"
  | missingComma => "expected ',' between list items"
  | unterminatedQuote => "unterminated quoted item"
  | unterminatedEscape => "unterminated escape"
  | unbalanced => "unbalanced '[' in list literal"

/-- The text before the next comma and the rest from the comma on. -/
def bare (cs : List Char) : List Char × List Char :=
  (Text.trimEnd (cs.takeWhile (· != ',')), cs.dropWhile (· != ','))

/-- The text up to the closing quote with its escapes resolved, and the rest after it. -/
def quoted (quote : Char) : List Char → Except Fault (List Char × List Char)
  | [] => .error .unterminatedQuote
  | '\\' :: [] => .error .unterminatedEscape
  | '\\' :: c :: rest => (quoted quote rest).map fun (text, after) => (c :: text, after)
  | c :: rest =>
    if c = quote then .ok ([], rest)
    else (quoted quote rest).map fun (text, after) => (c :: text, after)

/-- The text up to the bracket that closes `depth` open ones, and the rest after it; `open?`
is the quote inside which the text stands. -/
def nested (depth : Nat) (open? : Option Char) :
    List Char → Except Fault (List Char × List Char)
  | [] => .error .unbalanced
  | c :: rest =>
    let more := fun depth open? => (nested depth open? rest).map fun (text, after) =>
      (c :: text, after)
    match open? with
    | some quote =>
      if c = '\\' then
        match rest with
        | [] => .error .unterminatedEscape
        | e :: rest =>
          (nested depth open? rest).map fun (text, after) => (c :: e :: text, after)
      else if c = quote then more depth none
      else more depth open?
    | none =>
      if c = '"' || c = '\'' then more depth (some c)
      else if c = '[' then more (depth + 1) none
      else if c = ']' then
        if depth ≤ 1 then .ok ([c], rest) else more (depth - 1) none
      else more depth none

/-- The item with which the characters start, and the rest after it. -/
def item : List Char → Except Fault (List Char × List Char)
  | [] => .error .missingItem
  | '[' :: rest => nested 0 none ('[' :: rest)
  | '"' :: rest => quoted '"' rest
  | '\'' :: rest => quoted '\'' rest
  | cs => .ok (bare cs)

/-- The items with commas between them that the characters hold; `fuel` bounds their
number. -/
def items : (fuel : Nat) → List Char → Except Fault (List (List Char))
  | 0, _ => .error .missingItem
  | fuel + 1, cs =>
    match item (Text.skipBlanks cs) with
    | .error fault => .error fault
    | .ok (text, after) =>
      match Text.skipBlanks after with
      | [] => .ok [text]
      | c :: rest =>
        if c = ',' then (items fuel rest).map (text :: ·) else .error .missingComma

/-- The characters between the brackets of a list literal. -/
def inside (cs : List Char) : Except Fault (List Char) :=
  match Text.trim cs with
  | '[' :: rest =>
    if rest.getLast? = some ']' then .ok rest.dropLast else .error .notBracketed
  | _ => .error .notBracketed

/-- The texts of the items of a list literal.  Each item but the last takes a comma, so
there are no more items than characters and one. -/
def parse (literal : String) : Except Fault (List String) :=
  match inside literal.toList with
  | .error fault => .error fault
  | .ok cs =>
    if (Text.skipBlanks cs).isEmpty then .ok []
    else (items (cs.length + 1) cs).map fun texts => texts.map String.ofList

end ListText
end TypedModules
