import Relift.Error
import Relift.Note
import Relift.Symbol.Table

/-!
# Correlating symbols

From a symbol table follow the seed addresses and the name map.  The seeds are
the primary words of all symbols together with any extra addresses.  The name
map inverts the table; where several names share a descriptor, the collision
policy decides, names being visited in ascending order.
-/

namespace Relift

/-- What to do when several symbols share a descriptor. -/
inductive CollisionPolicy where
  | reject
  | keepFirst
  | keepLast
deriving DecidableEq

namespace CollisionPolicy

/-- The policies, in the order in which they are listed. -/
def all : List CollisionPolicy :=
  [reject, keepFirst, keepLast]

/-- The name of a policy. -/
def name : CollisionPolicy → String
  | reject => "reject"
  | keepFirst => "keep-first"
  | keepLast => "keep-last"

/-- The policy of a name. -/
def ofName? (text : String) : Option CollisionPolicy :=
  all.find? fun policy => policy.name == text

/-- A policy that nobody chose: the first name stays. -/
instance : Inhabited CollisionPolicy :=
  ⟨keepFirst⟩

end CollisionPolicy

/-- The primary words of all symbols, and the extra addresses. -/
def SeedSet.ofSymbols (symbols : SymbolTable) (extra : List Address) : SeedSet :=
  Ordered.Set.ofList (symbols.values.map Descriptor.primary ++ extra)

/-- The record of a symbol that gives way to an earlier one. -/
def droppingNote (name existing : String) (descriptor : Descriptor) : Note :=
  .debug ("dropping '" ++ name ++ "': " ++ descriptor.display ++ " already named '" ++
    existing ++ "'")

/-- The record of a symbol that gives way to a later one. -/
def renamingNote (name existing : String) (descriptor : Descriptor) : Note :=
  .debug ("renaming " ++ descriptor.display ++ " from '" ++ existing ++ "' to '" ++ name ++ "'")

/-- Enters symbols into a name map one after the other, under a policy, with
the records of the names that give way. -/
def NameMap.enterSymbols (policy : CollisionPolicy) :
    List (String × Descriptor) → NameMap → Except Error (NameMap × List Note)
  | [], names => .ok (names, [])
  | (name, descriptor) :: rest, names =>
    match names.get? descriptor with
    | none => NameMap.enterSymbols policy rest (names.insert descriptor name)
    | some existing =>
      match policy with
      | .reject => .error (.nameCollision descriptor existing name)
      | .keepFirst =>
        (NameMap.enterSymbols policy rest names).map fun (result, notes) =>
          (result, droppingNote name existing descriptor :: notes)
      | .keepLast =>
        (NameMap.enterSymbols policy rest (names.insert descriptor name)).map fun (result, notes) =>
          (result, renamingNote name existing descriptor :: notes)

/-- The name map of a symbol table under a policy. -/
def NameMap.ofSymbols (symbols : SymbolTable) (policy : CollisionPolicy) :
    Except Error (NameMap × List Note) :=
  NameMap.enterSymbols policy symbols.toList ∅

/-- Seeds and names that belong together. -/
structure Correlation where
  seeds : SeedSet
  names : NameMap

/-- The seeds and the name map of a symbol table. -/
def Correlation.ofSymbols (symbols : SymbolTable) (extra : List Address) (policy : CollisionPolicy) :
    Except Error (Correlation × List Note) :=
  (NameMap.ofSymbols symbols policy).map fun (names, notes) =>
    (⟨SeedSet.ofSymbols symbols extra, names⟩, notes)

end Relift
