import Relift.Shell.Setting

/-!
# Expressions and edits

Simple expressions for texts: characters, sets of them, and repetitions, bound
to the beginning or the end of a line if asked for.  Edits replace what an
expression finds, or remove the lines in which it occurs.
-/

namespace Relift.Shell

/-- One element of a simple expression for texts. -/
inductive Element where
  | char (c : Char)
  | any
  | set (negated : Bool) (members : Octets)
deriving DecidableEq

/-- Whether an element stands for a character. -/
def Element.accepts (e : Element) (c : Char) : Bool :=
  match e with
  | .char d => c == d
  | .any => true
  | .set negated members => setContains c members != negated

/-- Elements, each with whether it may repeat, and whether the expression is
bound to the beginning or to the end of the line. -/
structure Expression where
  elements : List (Element × Bool)
  atStart : Bool
  atEnd : Bool

/-- The elements of an expression. -/
def expressionElements : Nat → Octets → List (Element × Bool)
  | 0, _ => []
  | fuel + 1, text =>
    let item : Option (Element × Octets) :=
      match text with
      | [] => none
      | '\\' :: c :: rest => some (.char (if c = 'n' then '\n' else c), rest)
      | '.' :: rest => some (.any, rest)
      | '[' :: rest =>
        let (negated, body) := match rest with
          | '^' :: body => (true, body)
          | body => (false, body)
        let members := body.take 1 ++ (body.drop 1).takeWhile (· != ']')
        some (.set negated members, body.drop (members.length + 1))
      | c :: rest => some (.char c, rest)
    match item with
    | none => []
    | some (element, '*' :: rest) => (element, true) :: expressionElements fuel rest
    | some (element, rest) => (element, false) :: expressionElements fuel rest

/-- The expression that a text spells. -/
def Expression.ofText (text : Octets) : Expression :=
  let (atStart, body) := match text with
    | '^' :: body => (true, body)
    | body => (false, body)
  let atEnd := body.getLast? == some '$' && body.dropLast.getLast? != some '\\'
  let body := if atEnd then body.dropLast else body
  ⟨expressionElements (body.length + 1) body, atStart, atEnd⟩

/-- How many characters at the beginning of a line elements take, as many as
possible. -/
def takenBy (atEnd : Bool) : Nat → List (Element × Bool) → Octets → Option Nat
  | 0, _, _ => none
  | _, [], text => if atEnd && !text.isEmpty then none else some 0
  | fuel + 1, (element, true) :: rest, text =>
    let longer := match text with
      | c :: after =>
        if element.accepts c then (takenBy atEnd fuel ((element, true) :: rest) after).map (· + 1)
        else none
      | [] => none
    longer <|> takenBy atEnd fuel rest text
  | fuel + 1, (element, false) :: rest, text =>
    match text with
    | c :: after => if element.accepts c then (takenBy atEnd fuel rest after).map (· + 1) else none
    | [] => none

/-- Where an expression first occurs in a line, and over how many
characters. -/
def Expression.find? (e : Expression) (line : Octets) : Option (Nat × Nat) :=
  let starts := if e.atStart then [0] else List.range (line.length + 1)
  starts.findSome? fun start =>
    (takenBy e.atEnd (e.elements.length + line.length + 1) e.elements (line.drop start)).map
      fun length => (start, length)

/-- The text put in place of an occurrence. -/
def substitute : Octets → Octets → Octets
  | [], _ => []
  | '\\' :: c :: rest, found => (if c = 'n' then '\n' else c) :: substitute rest found
  | '&' :: rest, found => found ++ substitute rest found
  | c :: rest, found => c :: substitute rest found

/-- Replaces the first occurrence in a line, or all of them. -/
def replaceIn (e : Expression) (replacement : Octets) (everywhere : Bool) : Nat → Octets → Octets
  | 0, line => line
  | fuel + 1, line =>
    match e.find? line with
    | none => line
    | some (start, length) =>
      let before := line.take start
      let found := (line.drop start).take length
      let rest := line.drop (start + length)
      let inserted := before ++ substitute replacement found
      if !everywhere || e.atStart then inserted ++ rest
      else if length = 0 then
        match rest with
        | [] => inserted
        | c :: after => inserted ++ c :: replaceIn e replacement true fuel after
      else inserted ++ replaceIn e replacement true fuel rest

/-- The parts of a command between separators that are not escaped. -/
def splitCommand (separator : Char) : Octets → List Octets
  | [] => [[]]
  | '\\' :: c :: rest =>
    let escaped := if c = separator then [c] else ['\\', c]
    match splitCommand separator rest with
    | [] => [escaped]
    | part :: parts => (escaped ++ part) :: parts
  | c :: rest =>
    if c = separator then [] :: splitCommand separator rest
    else
      match splitCommand separator rest with
      | [] => [[c]]
      | part :: parts => (c :: part) :: parts

/-- A change of lines. -/
inductive Edit where
  | replace (expression replacement : Octets) (everywhere : Bool)
  /-- Removes the lines in which an expression occurs. -/
  | delete (expression : Octets)
deriving DecidableEq

/-- The text before the end of an edit, and what follows: an edit with parts
between separators ends after the last of them. -/
def takeEdit : Octets → Option (Edit × Octets)
  | 's' :: separator :: command =>
    match splitCommand separator command with
    | expression :: replacement :: rest =>
      let rest := List.intercalate [separator] rest
      let flags := rest.takeWhile fun c => c != ';' && c != '\n'
      some (.replace expression replacement (flags.contains 'g'), rest.drop flags.length)
    | _ => none
  | '/' :: command =>
    match splitCommand '/' command with
    | expression :: ('d' :: flags) :: rest =>
      some (.delete expression, List.intercalate ['/'] (flags :: rest))
    | _ => none
  | _ => none

/-- The edits of a script, with semicolons or line breaks between them. -/
def editsWithin : Nat → Octets → Option (List Edit)
  | 0, _ => none
  | fuel + 1, text =>
    match text.dropWhile fun c => [';', '\n', ' '].contains c with
    | [] => some []
    | text => do
      let (edit, left) ← takeEdit text
      let others ← editsWithin fuel left
      some (edit :: others)

/-- A line after an edit, if it is still there. -/
def Edit.apply (line : Octets) : Edit → Option Octets
  | .replace expression replacement everywhere =>
    some (replaceIn (Expression.ofText expression) replacement everywhere (line.length + 1) line)
  | .delete expression =>
    if ((Expression.ofText expression).find? line).isSome then none else some line

end Relift.Shell
