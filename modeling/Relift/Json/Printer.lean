import Relift.Json.Basic

/-!
# Writing JSON values

The compact form has no space between tokens.  The pretty form gives every
element and member a line of its own, indented by two spaces for each level,
and writes what is empty in one piece.  Inside strings only the quote, the
backslash and the controls below the space are escaped.
-/

namespace Relift.Json

/-- One lower-case hexadecimal digit. -/
def hexDigit (n : Nat) : Char :=
  Nat.digitChar n

/-- How a character is written inside a string. -/
def escapeChar (c : Char) : List Char :=
  match c with
  | '"' => ['\\', '"']
  | '\\' => ['\\', '\\']
  | '\x08' => ['\\', 'b']
  | '\x0c' => ['\\', 'f']
  | '\n' => ['\\', 'n']
  | '\r' => ['\\', 'r']
  | '\t' => ['\\', 't']
  | _ =>
    if c.toNat < 0x20 then
      ['\\', 'u', '0', '0', hexDigit (c.toNat / 16), hexDigit (c.toNat % 16)]
    else [c]

/-- A string with its quotes; half a surrogate pair stands for a string that
spells no text. -/
def spellString : Option String → List Char
  | some text => '"' :: text.toList.flatMap escapeChar ++ ['"']
  | none => ['"', '\\', 'u', 'd', '8', '0', '0', '"']

/-- A text of several parts with a separator between any two. -/
def joinWith (separator : List Char) : List (List Char) → List Char
  | [] => []
  | [part] => part
  | part :: rest => part ++ separator ++ joinWith separator rest

mutual

/-- A value without spaces. -/
def spellCompact : Json → List Char
  | .null => ['n', 'u', 'l', 'l']
  | .boolean true => ['t', 'r', 'u', 'e']
  | .boolean false => ['f', 'a', 'l', 's', 'e']
  | .number literal => literal
  | .string text => spellString text
  | .array elements => '[' :: joinWith [','] (compactElements elements) ++ [']']
  | .object members => '\x7b' :: joinWith [','] (compactMembers members) ++ ['\x7d']

/-- The elements of an array without spaces. -/
def compactElements : List Json → List (List Char)
  | [] => []
  | element :: rest => spellCompact element :: compactElements rest

/-- The members of an object without spaces. -/
def compactMembers : List (Option String × Json) → List (List Char)
  | [] => []
  | (key, value) :: rest => (spellString key ++ ':' :: spellCompact value) :: compactMembers rest

end

/-- A line break and the indentation of a level. -/
def lineBreak (level : Nat) : List Char :=
  '\n' :: List.replicate (2 * level) ' '

/-- Parts in brackets, each on a line of its own one level further in. -/
def indented (opening closing : Char) (level : Nat) (parts : List (List Char)) : List Char :=
  if parts.isEmpty then [opening, closing]
  else
    opening :: lineBreak (level + 1) ++ joinWith (',' :: lineBreak (level + 1)) parts ++
      lineBreak level ++ [closing]

mutual

/-- A value with line breaks, at a level of indentation. -/
def spellPretty (level : Nat) : Json → List Char
  | .null => ['n', 'u', 'l', 'l']
  | .boolean true => ['t', 'r', 'u', 'e']
  | .boolean false => ['f', 'a', 'l', 's', 'e']
  | .number literal => literal
  | .string text => spellString text
  | .array elements => indented '[' ']' level (prettyElements (level + 1) elements)
  | .object members => indented '\x7b' '\x7d' level (prettyMembers (level + 1) members)

/-- The elements of an array with line breaks. -/
def prettyElements (level : Nat) : List Json → List (List Char)
  | [] => []
  | element :: rest => spellPretty level element :: prettyElements level rest

/-- The members of an object with line breaks. -/
def prettyMembers (level : Nat) : List (Option String × Json) → List (List Char)
  | [] => []
  | (key, value) :: rest =>
    (spellString key ++ ':' :: ' ' :: spellPretty level value) :: prettyMembers level rest

end

/-- The compact text of a value. -/
def compact (value : Json) : String :=
  String.ofList (spellCompact value)

/-- The pretty text of a value. -/
def pretty (value : Json) : String :=
  String.ofList (spellPretty 0 value)

end Relift.Json
