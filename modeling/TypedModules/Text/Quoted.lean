import TypedModules.Text.Unprintable

/-!
# Quoted text

Text between double quotes, with the quote, the backslash and the characters that have no
visible form written as escapes.
-/

namespace TypedModules.Text

/-- The least hexadecimal digits of `n`, in small letters. -/
def hex (n : Nat) : String :=
  String.ofList (Nat.toDigits 16 n)

/-- Whether `c` is a control character: below the space, the delete character, or one of
the second block of controls. -/
def isControl (c : Char) : Bool :=
  c.toNat < 0x20 || (0x7f ≤ c.toNat && c.toNat < 0xa0)

/-- Whether `c` is written as it is between quotes. -/
def isPrintable (c : Char) : Bool :=
  !isControl c && unprintable.all fun (low, high) => c.toNat < low || high < c.toNat

/-- The written form of one character between double quotes. -/
def quoteChar (c : Char) : String :=
  match c with
  | '\x00' => "\\0"
  | '\t' => "\\t"
  | '\n' => "\\n"
  | '\r' => "\\r"
  | '"' => "\\\""
  | '\\' => "\\\\"
  | c => if isPrintable c then c.toString else "\\u\x7b" ++ hex c.toNat ++ "\x7d"

/-- The text between double quotes, with escapes. -/
def quote (text : String) : String :=
  "\"" ++ String.join (text.toList.map quoteChar) ++ "\""

end TypedModules.Text
