import Relift.Text.Decimal
import Relift.Text.Quoted

/-!
# Addresses and descriptors

Addresses are 64-bit words.  A descriptor names a place in the code by two
words: the primary one is the address, the secondary one tells apart several
things at the same address.
-/

namespace Relift

/-- An address of the loaded program. -/
abbrev Address := UInt64

namespace Address

/-- The largest address. -/
def last : Address :=
  UInt64.ofNat (UInt64.size - 1)

/-- The sum of two words, or the largest word when the sum does not fit. -/
def addSaturating (a b : UInt64) : Address :=
  if a.toNat + b.toNat < UInt64.size then a + b else last

/-- An address in decimal digits. -/
def decimal (a : Address) : String :=
  String.ofList (Text.decimal a.toNat)

/-- An address in upper-case hexadecimal digits after `0x`. -/
def hexadecimal (a : Address) : String :=
  "0x" ++ String.ofList (Text.upperHex a.toNat)

end Address

/-- The place that a symbol names. -/
structure Descriptor where
  primary : Address
  secondary : UInt64
deriving DecidableEq

namespace Descriptor

/-- Descriptors ascend by primary word, then by secondary word. -/
instance : Ord Descriptor where
  compare := compareLex (compareOn primary) (compareOn secondary)

instance : Std.TransOrd Descriptor :=
  inferInstanceAs (Std.TransCmp (compareLex (compareOn primary) (compareOn secondary)))

instance : Std.LawfulEqOrd Descriptor where
  eq_of_compare {a b} h := by
    have h' : (compare a.primary b.primary).then (compare a.secondary b.secondary) = .eq := h
    rw [Ordering.then_eq_eq] at h'
    have hp := Std.LawfulEqOrd.eq_of_compare h'.1
    have hs := Std.LawfulEqOrd.eq_of_compare h'.2
    cases a
    cases b
    simp_all

/-- A descriptor as messages show it. -/
def display (d : Descriptor) : String :=
  "(" ++ d.primary.hexadecimal ++ ", " ++ Address.decimal d.secondary ++ ")"

end Descriptor

end Relift
