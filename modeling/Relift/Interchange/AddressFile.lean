import Relift.Interchange.LineFile
import Relift.Text.Blank

/-!
# Address files

One address a line, in decimal digits.  Reading allows blanks around a number,
a plus sign before it and blank lines; writing uses none of them.
-/

namespace Relift

/-- One line of an address file. -/
def AddressFile.readLine (line : List Char) : LineReading Address :=
  let trimmed := Text.trim line
  if trimmed.isEmpty then .blank
  else
    match Text.wordOfDecimal? trimmed with
    | some address => .entry address
    | none => .malformed

/-- The addresses of an address file. -/
def AddressFile.parse (path body : String) : Except Error (List Address) :=
  readText AddressFile.readLine path body

/-- The address file of a list of addresses. -/
def AddressFile.render (addresses : List Address) : String :=
  String.ofList (addresses.flatMap fun address => Text.decimal address.toNat ++ ['\n'])

end Relift
