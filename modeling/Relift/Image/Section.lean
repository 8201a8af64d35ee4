import Relift.Image.Words
import Relift.Text.Decimal

/-!
# Sections

An entry of the section table takes 40 bytes.  Its name is the text in its
first eight bytes, or, when those begin with a slash, the text in the string
table at the index that follows the slash: in decimal digits, or after a second
slash in digits of base 64.
-/

namespace Relift.Image

/-- One section of an executable. -/
structure Section where
  /-- The name, unless it is not a text. -/
  name : Option String
  virtualSize : UInt32
  virtualAddress : UInt32
  rawSize : UInt32
  rawPointer : UInt32
  characteristics : UInt32

/-- The value of a digit of base 64. -/
def base64Digit? (b : UInt8) : Option Nat :=
  let n := b.toNat
  if 65 ≤ n && n ≤ 90 then some (n - 65)
  else if 97 ≤ n && n ≤ 122 then some (n - 97 + 26)
  else if 48 ≤ n && n ≤ 57 then some (n - 48 + 52)
  else if n = 43 then some 62
  else if n = 47 then some 63
  else none

/-- The value of digits of base 64, the most significant first. -/
def base64Value? (digits : Bytes) : Option Nat :=
  digits.foldlM (fun value b => (base64Digit? b).map fun digit => 64 * value + digit) 0

/-- The index into the string table that a name of eight bytes gives after its
slash. -/
def stringIndex? : Bytes → Option Nat
  | 47 :: rest => base64Value? (rest.takeWhile (· ≠ 0))
  | rest => do
    Text.natOfDecimal? (← terminatedText? rest).toList

/-- The name of a section: `none` when the table is broken, `some none` when
the bytes are no text. -/
def sectionName? (bytes : Bytes) (stringTable : Nat) : Bytes → Option (Option String)
  | 47 :: rest => do
    let index ← stringIndex? rest
    (textAt? bytes (stringTable + index)).map some
  | field => some (terminatedText? field)

/-- The section at an offset of the section table. -/
def section? (bytes : Bytes) (stringTable offset : Nat) : Option Section := do
  let field ← slice? bytes offset 8
  let virtualSize ← word32? bytes (offset + 8)
  let virtualAddress ← word32? bytes (offset + 12)
  let rawSize ← word32? bytes (offset + 16)
  let rawPointer ← word32? bytes (offset + 20)
  let characteristics ← word32? bytes (offset + 36)
  let name ← sectionName? bytes stringTable field
  some { name, virtualSize, virtualAddress, rawSize, rawPointer, characteristics }

/-- The sections of a table with a given number of entries. -/
def sections? (bytes : Bytes) (stringTable : Nat) : Nat → Nat → Option (List Section)
  | _, 0 => some []
  | offset, count + 1 => do
    let first ← section? bytes stringTable offset
    let rest ← sections? bytes stringTable (offset + 40) count
    some (first :: rest)

/-- A number rounded up to a multiple. -/
def roundUp (n multiple : Nat) : Nat :=
  (n + multiple - 1) / multiple * multiple

/-- A number rounded down to a multiple of 512. -/
def sectorStart (n : Nat) : Nat :=
  n / 512 * 512

/-- How many bytes of a section are mapped from the file. -/
def Section.mappedSize (s : Section) (fileAlignment : Nat) : Nat :=
  let raw := s.rawSize.toNat
  let pointer := s.rawPointer.toNat
  let virtual := s.virtualSize.toNat
  let fromFile :=
    min (roundUp (pointer + raw) fileAlignment - sectorStart pointer) (roundUp raw 4096)
  if virtual = 0 then fromFile else min fromFile (roundUp virtual 4096)

/-- Whether a section maps a relative address. -/
def Section.maps (s : Section) (fileAlignment rva : Nat) : Bool :=
  s.virtualAddress.toNat ≤ rva && rva < s.virtualAddress.toNat + s.mappedSize fileAlignment

/-- Whether a number is a power of two. -/
def isPowerOfTwo (n : Nat) : Bool :=
  n ≠ 0 && Nat.pow 2 n.log2 == n

/-- The place in the file of a relative address: that of the first section
which maps it. -/
def fileOffset? (sections : List Section) (fileAlignment rva : Nat) : Option Nat := do
  if !isPowerOfTwo fileAlignment then none
  let s ← sections.find? fun s => s.maps fileAlignment rva
  some (rva - s.virtualAddress.toNat + sectorStart s.rawPointer.toNat)

end Relift.Image
