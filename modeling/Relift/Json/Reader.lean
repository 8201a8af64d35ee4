import Relift.Json.Token

/-!
# Reading JSON values

The tokens of a text drive a machine that keeps the arrays and objects it is
inside of as a stack, so values may nest to any depth.
-/

namespace Relift.Json

/-- An array or object that is being read, with what it already holds, last
first. -/
inductive Frame where
  | array (before : List Json)
  | object (before : List (Option String × Json)) (key : Option String)

/-- What the machine expects next. -/
inductive Expectation where
  | value
  /-- The first element of an array, or its end. -/
  | firstElement
  /-- The first key of an object, or its end. -/
  | firstKey
  | key (before : List (Option String × Json))
  | colon (before : List (Option String × Json)) (key : Option String)
  /-- A value is complete, and what holds it goes on. -/
  | after (value : Json)

/-- Where the machine stands: what it expects, inside of what. -/
structure Position where
  expected : Expectation
  frames : List Frame

/-- The step of a token that begins a value. -/
def beginValue? (frames : List Frame) : Token → Option Position
  | .null => some ⟨.after .null, frames⟩
  | .boolean b => some ⟨.after (.boolean b), frames⟩
  | .number literal => some ⟨.after (.number literal), frames⟩
  | .string text => some ⟨.after (.string text), frames⟩
  | .openBracket => some ⟨.firstElement, .array [] :: frames⟩
  | .openBrace => some ⟨.firstKey, frames⟩
  | _ => none

/-- The step of a token that follows a complete value. -/
def continueAfter? (value : Json) : List Frame → Token → Option Position
  | .array before :: frames, .comma => some ⟨.value, .array (value :: before) :: frames⟩
  | .array before :: frames, .closeBracket =>
    some ⟨.after (.array (value :: before).reverse), frames⟩
  | .object before key :: frames, .comma => some ⟨.key ((key, value) :: before), frames⟩
  | .object before key :: frames, .closeBrace =>
    some ⟨.after (.object ((key, value) :: before).reverse), frames⟩
  | _, _ => none

/-- One step of the machine. -/
def step? (position : Position) (token : Token) : Option Position :=
  match position.expected, position.frames, token with
  | .firstElement, .array [] :: frames, .closeBracket => some ⟨.after (.array []), frames⟩
  | .firstElement, frames, token => beginValue? frames token
  | .value, frames, token => beginValue? frames token
  | .firstKey, frames, .closeBrace => some ⟨.after (.object []), frames⟩
  | .firstKey, frames, .string key => some ⟨.colon [] key, frames⟩
  | .key before, frames, .string key => some ⟨.colon before key, frames⟩
  | .colon before key, frames, .colon => some ⟨.value, .object before key :: frames⟩
  | .after value, frames, token => continueAfter? value frames token
  | _, _, _ => none

/-- The machine after a row of tokens. -/
def steps? : Position → List Token → Option Position
  | position, [] => some position
  | position, token :: rest =>
    match step? position token with
    | some next => steps? next rest
    | none => none

/-- The one value that a row of tokens spells. -/
def assemble? (tokens : List Token) : Option Json :=
  match steps? ⟨.value, []⟩ tokens with
  | some ⟨.after value, []⟩ => some value
  | _ => none

/-- The value that a text spells. -/
def parse? (text : String) : Option Json := do
  assemble? (← tokens? text.toList)

end Relift.Json
