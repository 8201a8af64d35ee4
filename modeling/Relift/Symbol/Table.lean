import Relift.Address
import Relift.Ordered.Map

/-!
# Symbol tables, name maps and seed sets

A symbol table gives each name its descriptor, a name map gives each descriptor
its name, and a seed set holds the addresses from which control flow is
recovered.  All three iterate in ascending order; names ascend by code point.
-/

namespace Relift

/-- Symbol names with their descriptors. -/
abbrev SymbolTable :=
  Ordered.Map String Descriptor

/-- Descriptors with their names. -/
abbrev NameMap :=
  Ordered.Map Descriptor String

/-- The addresses from which control flow is recovered. -/
abbrev SeedSet :=
  Ordered.Set Address

end Relift
