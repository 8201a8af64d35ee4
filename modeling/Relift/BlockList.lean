import Relift.Json.Decode
import Relift.Ordered.Map
import Relift.Symbol.Correlation

/-!
# Block lists

The addresses at which basic blocks begin.  A list made from what a tool emits
is ascending without repetitions; one that is read back is kept as it is.
-/

namespace Relift

/-- The addresses of basic blocks. -/
structure BlockList where
  addresses : List Address
deriving DecidableEq

namespace BlockList

/-- The list that nobody filled has no address. -/
instance : Inhabited BlockList :=
  ⟨⟨[]⟩⟩

/-- The ascending list of the given addresses, each once. -/
def ofList (addresses : List Address) : BlockList :=
  ⟨(Ordered.Set.ofList addresses).members⟩

/-- The number of addresses. -/
def size (blocks : BlockList) : Nat :=
  blocks.addresses.length

/-- Whether there is no address. -/
def isEmpty (blocks : BlockList) : Bool :=
  blocks.addresses.isEmpty

/-- A list as JSON. -/
def toJson (blocks : BlockList) : Json :=
  .record [("addresses", .array (blocks.addresses.map fun a => .nat a.toNat))]

/-- The list that a JSON value gives. -/
def ofJson? (value : Json) : Option BlockList := do
  match ← Json.asRecord? ["addresses"] value with
  | [addresses] => (Json.required? (Json.asList? Json.asWord?) addresses).map BlockList.mk
  | _ => none

end BlockList

namespace Descriptor

/-- A descriptor as JSON. -/
def toJson (d : Descriptor) : Json :=
  .record [("primary", .nat d.primary.toNat), ("secondary", .nat d.secondary.toNat)]

/-- The descriptor that a JSON value gives. -/
def ofJson? (value : Json) : Option Descriptor := do
  match ← Json.asRecord? ["primary", "secondary"] value with
  | [primary, secondary] =>
    some ⟨← Json.required? Json.asWord? primary, ← Json.required? Json.asWord? secondary⟩
  | _ => none

end Descriptor

namespace CollisionPolicy

/-- A policy as JSON. -/
def toJson (policy : CollisionPolicy) : Json :=
  .text policy.name

/-- The policy that a JSON value gives. -/
def ofJson? (value : Json) : Option CollisionPolicy := do
  ofName? (← Json.asChoice? value)

end CollisionPolicy

end Relift
