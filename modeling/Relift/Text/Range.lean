/-!
# Tables of code point ranges

Properties of characters are given by tables of closed ranges of code points,
in ascending order.
-/

namespace Relift.Text

/-- A closed range of code points. -/
abbrev Range := Nat × Nat

/-- Whether a character lies in one of the ranges of a table. -/
def inRanges (table : List Range) (c : Char) : Bool :=
  table.any fun range => range.1 ≤ c.toNat && c.toNat ≤ range.2

end Relift.Text
