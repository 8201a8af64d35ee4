import Relift.Image.Export

/-!
# Portable executables

The parts of an executable that matter here: where it wants to be loaded, its
sections and its exports.
-/

namespace Relift.Image

/-- An executable, as far as it is read. -/
structure Portable where
  imageBase : UInt64
  sections : List Section
  exports : List Export

/-- What the optional header says. -/
structure OptionalHeader where
  imageBase : UInt64
  fileAlignment : UInt32
  /-- The export directory, if there is one. -/
  exports : Option Directory

/-- The directory entry at an offset; one that is all zeros is absent. -/
def directory? (bytes : Bytes) (offset : Nat) : Option (Option Directory) := do
  let rva ← word32? bytes offset
  let size ← word32? bytes (offset + 4)
  some (if rva = 0 && size = 0 then none else some ⟨rva, size⟩)

/-- The export directory of an optional header whose directories begin at an
offset; all of them must be within the file, and there are at most 16. -/
def exportDirectory? (bytes : Bytes) (offset count : Nat) : Option (Option Directory) := do
  if 16 < count then none
  let _ ← slice? bytes offset (8 * count)
  if count = 0 then some none else directory? bytes offset

/-- The optional header at an offset: the 32-bit or the 64-bit form, by its
magic number. -/
def optionalHeader? (bytes : Bytes) (offset : Nat) : Option OptionalHeader := do
  let magic ← word16? bytes offset
  if magic = 0x10B then
    let _ ← slice? bytes offset 96
    let imageBase ← word32? bytes (offset + 28)
    let fileAlignment ← word32? bytes (offset + 36)
    let count ← word32? bytes (offset + 92)
    let exports ← exportDirectory? bytes (offset + 96) count.toNat
    some ⟨imageBase.toUInt64, fileAlignment, exports⟩
  else if magic = 0x20B then
    let _ ← slice? bytes offset 112
    let imageBase ← word64? bytes (offset + 24)
    let fileAlignment ← word32? bytes (offset + 36)
    let count ← word32? bytes (offset + 108)
    let exports ← exportDirectory? bytes (offset + 112) count.toNat
    some ⟨imageBase, fileAlignment, exports⟩
  else none

/-- The optional header of an executable; without one nothing is known. -/
def headerOrDefault? (bytes : Bytes) (offset size : Nat) : Option OptionalHeader :=
  if size = 0 then some ⟨0, 0, none⟩ else optionalHeader? bytes offset

/-- The executable that bytes hold. -/
def Portable.parse? (bytes : Bytes) : Option Portable := do
  let mark ← slice? bytes 0 2
  if mark ≠ [0x4D, 0x5A] then none
  let start ← word32? bytes 0x3C
  let start := start.toNat
  let _ ← slice? bytes 0x40 0x40
  let signature ← slice? bytes start 4
  if signature ≠ [0x50, 0x45, 0, 0] then none
  let _ ← slice? bytes (start + 4) 20
  let sectionCount ← word16? bytes (start + 6)
  let symbolTable ← word32? bytes (start + 12)
  let symbolCount ← word32? bytes (start + 16)
  let headerSize ← word16? bytes (start + 20)
  let header ← headerOrDefault? bytes (start + 24) headerSize.toNat
  if bytes.length / 40 < sectionCount.toNat then none
  let stringTable := symbolTable.toNat + 18 * symbolCount.toNat
  let sections ←
    sections? bytes stringTable (start + 24 + headerSize.toNat) sectionCount.toNat
  let mapping : Mapping := ⟨bytes, sections, header.fileAlignment.toNat⟩
  let exports := (header.exports.bind (exports? mapping)).getD []
  some ⟨header.imageBase, sections, exports⟩

end Relift.Image
