import Relift.Text.Printable

/-!
# Quoted texts

A text quoted for a message stands between double quotes.  Four controls, the
quote and the backslash have short escapes; every other character that does not
show as itself is written as its code point in braces.  An apostrophe is not
escaped.
-/

namespace Relift.Text

/-- The hexadecimal digits of a number, lower case, without padding. -/
def lowerHex (n : Nat) : List Char :=
  Nat.toDigits 16 n

/-- The hexadecimal digits of a number, upper case, without padding. -/
def upperHex (n : Nat) : List Char :=
  (Nat.toDigits 16 n).map Char.toUpper

/-- How one character is written inside quotes. -/
def quoteChar (c : Char) : List Char :=
  match c with
  | '\x00' => ['\\', '0']
  | '\t' => ['\\', 't']
  | '\n' => ['\\', 'n']
  | '\r' => ['\\', 'r']
  | '"' => ['\\', '"']
  | '\\' => ['\\', '\\']
  | _ =>
    if isPrintable c && !isExtending c then [c]
    else ['\\', 'u', '\x7b'] ++ lowerHex c.toNat ++ ['\x7d']

/-- A text between double quotes, with what does not show escaped. -/
def quote (text : String) : String :=
  String.ofList ('"' :: (text.toList.flatMap quoteChar ++ ['"']))

end Relift.Text
