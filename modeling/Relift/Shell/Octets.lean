import Relift.Text.Utf8

/-!
# Octets

Scripts work on bytes.  Here a byte is written as the character of its number,
so that scripts can be read and matched as texts are.
-/

namespace Relift.Shell

/-- A row of characters below 256, one for each byte. -/
abbrev Octets := List Char

namespace Octets

/-- The octets of bytes. -/
def ofBytes (bytes : Bytes) : Octets :=
  bytes.map fun b => Char.ofNat b.toNat

/-- The bytes of octets. -/
def toBytes (octets : Octets) : Bytes :=
  octets.map fun c => UInt8.ofNat c.toNat

/-- The octets of a text. -/
def ofText (text : String) : Octets :=
  ofBytes (Text.utf8 text)

/-- The text of octets. -/
def toText (octets : Octets) : String :=
  Text.ofUtf8Lossy (toBytes octets)

end Octets

end Relift.Shell
