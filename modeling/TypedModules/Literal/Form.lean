/-!
# Literal forms

Which texts are literals.  A natural number is written with decimal digits and without a
leading zero, an integer in the same way with a minus sign before it if it is negative, and
any text is a literal of a string.
-/

namespace TypedModules

/-- The kinds of literal. -/
inductive LiteralForm where
  | integer
  | natural
  | boolean
  | string
deriving DecidableEq, Inhabited

/-- Whether the characters are the decimal digits of a number, without a leading zero. -/
def isDecimal : List Char → Bool
  | [] => false
  | ['0'] => true
  | c :: rest => c != '0' && c.isDigit && rest.all Char.isDigit

/-- Whether the characters are the digits of a number, with a minus sign before those of a
negative one. -/
def isSignedDecimal : List Char → Bool
  | '-' :: digits => isDecimal digits && digits != ['0']
  | digits => isDecimal digits

namespace LiteralForm

/-- Whether a text is a literal of the form. -/
def accepts (form : LiteralForm) (text : String) : Bool :=
  match form with
  | integer => isSignedDecimal text.toList
  | natural => isDecimal text.toList
  | boolean => text == "true" || text == "false"
  | string => true

/-- The name of a form. -/
def name : LiteralForm → String
  | integer => "Integer"
  | natural => "Natural"
  | boolean => "Boolean"
  | string => "String"

end LiteralForm
end TypedModules
