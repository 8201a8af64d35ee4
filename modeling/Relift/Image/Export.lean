import Relift.Image.Section

/-!
# Exports

The export directory has three tables: name pointers, ordinals and addresses.
Name `i` belongs to the address at ordinal `i`.  An address inside the
directory itself is a forwarder to another library.  A table at an address that
no section maps is empty, and one that runs over the end of the file stops
there.
-/

namespace Relift.Image

/-- One exported name. -/
structure Export where
  name : Option String
  rva : UInt32
  /-- Whether the export only points to another library. -/
  forwarded : Bool

/-- A directory entry: the relative address and the size of a table. -/
structure Directory where
  rva : UInt32
  size : UInt32

/-- Where to look things up: the file, its sections and their alignment. -/
structure Mapping where
  bytes : Bytes
  sections : List Section
  fileAlignment : Nat

namespace Mapping

/-- The place in the file of a relative address. -/
def offset? (m : Mapping) (rva : UInt32) : Option Nat :=
  fileOffset? m.sections m.fileAlignment rva.toNat

/-- The words of a table at a relative address. -/
def table {α : Type} (m : Mapping) (word? : Bytes → Nat → Option α) (size : Nat) (rva : UInt32)
    (count : Nat) : List α :=
  match m.offset? rva with
  | some offset => wordsFrom word? size m.bytes offset count
  | none => []

end Mapping

/-- Whether an address lies inside a directory. -/
def Directory.covers (d : Directory) (rva : UInt32) : Bool :=
  d.rva.toNat ≤ rva.toNat && rva.toNat < d.rva.toNat + d.size.toNat

/-- The export with a given name pointer and ordinal, unless the ordinal is out
of range. -/
def export? (m : Mapping) (directory : Directory) (addresses : List UInt32)
    (pointer : UInt32) (ordinal : UInt16) : Option Export := do
  let rva ← addresses[ordinal.toNat]?
  let name := do textAt? m.bytes (← m.offset? pointer)
  some ⟨name, rva, directory.covers rva⟩

/-- The exports that a directory lists, or nothing when it cannot be read. -/
def exports? (m : Mapping) (directory : Directory) : Option (List Export) := do
  let offset ← m.offset? directory.rva
  let _ ← slice? m.bytes offset 40
  let addressCount ← word32? m.bytes (offset + 20)
  let nameCount ← word32? m.bytes (offset + 24)
  let addressTable ← word32? m.bytes (offset + 28)
  let namePointers ← word32? m.bytes (offset + 32)
  let ordinalTable ← word32? m.bytes (offset + 36)
  if m.bytes.length < nameCount.toNat || m.bytes.length < addressCount.toNat then none
  let pointers := m.table word32? 4 namePointers nameCount.toNat
  let ordinals := m.table word16? 2 ordinalTable nameCount.toNat
  let addresses := m.table word32? 4 addressTable addressCount.toNat
  some ((pointers.zip ordinals).filterMap fun (pointer, ordinal) =>
    export? m directory addresses pointer ordinal)

end Relift.Image
