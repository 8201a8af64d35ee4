/-!
# Decimal numbers

Addresses are written with the fewest decimal digits and read with an optional
plus sign and any number of leading zeros, as long as the value fits 64 bits.
-/

namespace Relift.Text

/-- The decimal digits of a number, without padding. -/
def decimal (n : Nat) : List Char :=
  Nat.toDigits 10 n

/-- The value of one decimal digit. -/
def digitValue (c : Char) : Nat :=
  c.toNat - '0'.toNat

/-- The value of a row of decimal digits, the most significant first. -/
def digitsValue (digits : List Char) : Nat :=
  digits.foldl (fun value c => 10 * value + digitValue c) 0

/-- The number that a non-empty row of decimal digits spells. -/
def natOfDigits? (digits : List Char) : Option Nat :=
  if digits.isEmpty || !digits.all Char.isDigit then none else some (digitsValue digits)

/-- The number that a text spells: decimal digits after an optional plus
sign. -/
def natOfDecimal? : List Char → Option Nat
  | '+' :: digits => natOfDigits? digits
  | digits => natOfDigits? digits

/-- The 64-bit number that a text spells, if its value fits. -/
def wordOfDecimal? (text : List Char) : Option UInt64 :=
  match natOfDecimal? text with
  | some n => if n < UInt64.size then some (UInt64.ofNat n) else none
  | none => none

end Relift.Text
