import Relift.Text.Utf8

/-!
# Words in byte strings

Numbers in executables are little endian.  A read that does not lie within the
bytes gives nothing.
-/

namespace Relift.Image

/-- The bytes of a range, if all of it is there. -/
def slice? (bytes : Bytes) (offset length : Nat) : Option Bytes :=
  if offset + length ≤ bytes.length then some ((bytes.drop offset).take length) else none

/-- The value of bytes, the least significant first. -/
def littleEndian : Bytes → Nat
  | [] => 0
  | b :: rest => b.toNat + 256 * littleEndian rest

/-- The 16-bit word at an offset. -/
def word16? (bytes : Bytes) (offset : Nat) : Option UInt16 :=
  (slice? bytes offset 2).map fun part => UInt16.ofNat (littleEndian part)

/-- The 32-bit word at an offset. -/
def word32? (bytes : Bytes) (offset : Nat) : Option UInt32 :=
  (slice? bytes offset 4).map fun part => UInt32.ofNat (littleEndian part)

/-- The 64-bit word at an offset. -/
def word64? (bytes : Bytes) (offset : Nat) : Option UInt64 :=
  (slice? bytes offset 8).map fun part => UInt64.ofNat (littleEndian part)

/-- As many words as there are, up to a count, from an offset on. -/
def wordsFrom {α : Type} (word? : Bytes → Nat → Option α) (size : Nat) (bytes : Bytes) :
    Nat → Nat → List α
  | _, 0 => []
  | offset, count + 1 =>
    match word? bytes offset with
    | some word => word :: wordsFrom word? size bytes (offset + size) count
    | none => []

/-- The text from the beginning of bytes up to their first zero byte, or to
their end. -/
def terminatedText? (bytes : Bytes) : Option String :=
  Text.ofUtf8? (bytes.takeWhile (· ≠ 0))

/-- The zero-terminated text at an offset that lies within the bytes. -/
def textAt? (bytes : Bytes) (offset : Nat) : Option String :=
  if offset < bytes.length then terminatedText? (bytes.drop offset) else none

end Relift.Image
