/-!
# JSON values and tokens

A JSON text is a row of tokens, and a value is what a row of tokens spells.
Numbers keep their literal, because what is read are whole numbers of 64 bits
and nothing is computed with the others.  A string keeps the text it spells; it
spells none when an escape gives one half of a surrogate pair without the
other.
-/

namespace Relift

/-- A JSON value, members of objects in the order of the text. -/
inductive Json where
  | null
  | boolean (value : Bool)
  /-- A number, as it is written. -/
  | number (literal : List Char)
  /-- A string, with the text that it spells, if it spells one. -/
  | string (text : Option String)
  | array (elements : List Json)
  | object (members : List (Option String × Json))

namespace Json

/-- The string that spells a text. -/
def text (s : String) : Json :=
  string (some s)

/-- A whole number. -/
def nat (n : Nat) : Json :=
  number (Nat.toDigits 10 n)

/-- An object whose keys are texts. -/
def record (members : List (String × Json)) : Json :=
  object (members.map fun (key, value) => (some key, value))

/-- The smallest parts of a JSON text that mean something. -/
inductive Token where
  | openBrace
  | closeBrace
  | openBracket
  | closeBracket
  | comma
  | colon
  | null
  | boolean (value : Bool)
  | number (literal : List Char)
  | string (text : Option String)

end Json

end Relift
