import Relift.Address
import Relift.Json.Basic

/-!
# Typed contents of JSON values

Readers for the shapes that settings and reports are made of.  A record is an
object, or an array of its fields in order.  In an object, members with unknown
keys are skipped whatever they hold, and no known key may occur twice.  A plain
choice is its name, or an object that gives the name null.
-/

namespace Relift.Json

/-- The text of a string. -/
def asText? : Json → Option String
  | .string text => text
  | _ => none

/-- The 64-bit number of a plain whole literal. -/
def asWord? : Json → Option UInt64
  | .number literal => if literal.all Char.isDigit then Text.wordOfDecimal? literal else none
  | _ => none

/-- An array whose elements are all of one shape. -/
def asList? {α : Type} (element? : Json → Option α) : Json → Option (List α)
  | .array elements => elements.mapM element?
  | _ => none

/-- What stands at each of the given keys; no key of the object may be without
text, and none of the given keys may occur twice. -/
def membersAt? (fields : List String) (members : List (Option String × Json)) :
    Option (List (Option Json)) := do
  let named ← members.mapM fun (key, value) => key.map fun key => (key, value)
  fields.mapM fun field =>
    match named.filter fun member => member.1 == field with
    | [] => some none
    | [member] => some (some member.2)
    | _ => none

/-- What a record holds at each of its fields. -/
def asRecord? (fields : List String) : Json → Option (List (Option Json))
  | .object members => membersAt? fields members
  | .array elements =>
    if elements.length ≤ fields.length then
      some (elements.map some ++ List.replicate (fields.length - elements.length) none)
    else none
  | _ => none

/-- A field that must be there. -/
def required? {α : Type} (content? : Json → Option α) : Option Json → Option α
  | some value => content? value
  | none => none

/-- A field that may be missing or null. -/
def optional? {α : Type} (content? : Json → Option α) : Option Json → Option (Option α)
  | none => some none
  | some .null => some none
  | some value => (content? value).map some

/-- The name of a plain choice. -/
def asChoice? : Json → Option String
  | .string name => name
  | .object [(name, .null)] => name
  | _ => none

end Relift.Json
