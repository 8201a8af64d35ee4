import Relift.Error
import Relift.Image.Portable
import Relift.Symbol.Table

/-!
# Code images

The code of an executable is the content of its one code section: the section
named `.text` or marked as executable.  None or several such sections refuse
the executable.
-/

namespace Relift

/-- The bytes of a program's code and the address of the first of them. -/
structure CodeImage where
  loadAddress : Address
  code : Bytes

namespace CodeImage

/-- The address after the last byte, or the largest address. -/
def endAddress (image : CodeImage) : Address :=
  Address.addSaturating image.loadAddress (UInt64.ofNat image.code.length)

/-- Whether an address is that of a byte of the code. -/
def covers (image : CodeImage) (address : Address) : Bool :=
  image.loadAddress ≤ address && address < image.endAddress

end CodeImage

namespace Image

/-- The name of a code section. -/
def textSectionName : String :=
  ".text"

/-- The mark of a section that may be executed. -/
def executableMark : UInt32 :=
  0x20000000

/-- Whether a section counts as the code section: by its name or by its
mark. -/
def Section.isCode (s : Section) : Bool :=
  s.name == some textSectionName || s.characteristics &&& executableMark != 0

/-- The only code section of an executable. -/
def codeSection (pe : Portable) : Except Error Section :=
  match pe.sections.filter Section.isCode with
  | [only] => .ok only
  | candidates => .error (.sectionResolution candidates.length)

/-- A number in upper-case hexadecimal digits after `0x`. -/
def hexadecimal (n : Nat) : String :=
  "0x" ++ String.ofList (Text.upperHex n)

/-- What is said of a code section that claims the bytes from `start` up to
`stop` of a shorter file. -/
def outsideText (start stop length : Nat) : String :=
  "code section raw data " ++ hexadecimal start ++ ".." ++ hexadecimal stop ++
    " lies outside the " ++ toString length ++ "-byte file"

/-- The code image of an executable, given the bytes of its file. -/
def Portable.codeImage (pe : Portable) (bytes : Bytes) : Except Error CodeImage := do
  let code ← codeSection pe
  let start := code.rawPointer.toNat
  let length := code.rawSize.toNat
  match slice? bytes start length with
  | some content =>
    .ok ⟨Address.addSaturating pe.imageBase code.virtualAddress.toUInt64, content⟩
  | none => .error (.image (outsideText start (start + length) bytes.length))

/-- The symbol that an export gives: its name must not be empty, and it must
lie at an address of the executable itself. -/
def Export.symbol? (imageBase : UInt64) (e : Export) : Option (String × Descriptor) :=
  match e.name with
  | some name =>
    if name.isEmpty || e.rva = 0 || e.forwarded then none
    else some (name, ⟨Address.addSaturating imageBase e.rva.toUInt64, 0⟩)
  | none => none

/-- The symbols that an executable exports; a later export of a name replaces
an earlier one. -/
def exportSymbols (pe : Portable) : SymbolTable :=
  Ordered.Map.ofList (pe.exports.filterMap (Export.symbol? pe.imageBase))

end Image

end Relift
