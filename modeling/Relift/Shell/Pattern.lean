import Relift.Shell.Octets

/-!
# Patterns

A star stands for any text, a question mark for any character, and brackets for
one character of a set.  What is quoted stands for itself.
-/

namespace Relift.Shell

/-- A character of a word after expansion, and whether it was quoted. -/
abbrev Mark := Char × Bool

/-- Whether a set between brackets has a character; ranges have a dash. -/
def setContains (c : Char) : Octets → Bool
  | low :: '-' :: high :: rest => (low ≤ c && c ≤ high) || setContains c rest
  | d :: rest => c == d || setContains c rest
  | [] => false

/-- The set after an opening bracket: whether it is negated, its members and
what follows it. -/
def takeSet (pattern : List Mark) : Option (Bool × Octets × List Mark) :=
  let (negated, body) := match pattern with
    | ('!', false) :: rest => (true, rest)
    | _ => (false, pattern)
  let (first, rest) := (body.take 1, body.drop 1)
  let members := rest.takeWhile (· != (']', false))
  if members.length < rest.length && !first.isEmpty then
    some (negated, (first ++ members).map Prod.fst, rest.drop (members.length + 1))
  else none

/-- Whether a text has the form of a pattern, within a number of steps. -/
def matchesWithin : Nat → List Mark → Octets → Bool
  | 0, _, _ => false
  | _, [], text => text.isEmpty
  | fuel + 1, ('*', false) :: rest, text =>
    matchesWithin fuel rest text ||
      match text with
      | [] => false
      | _ :: after => matchesWithin fuel (('*', false) :: rest) after
  | fuel + 1, (p, quoted) :: rest, text =>
    match text with
    | [] => false
    | c :: after =>
      if p = '?' && !quoted then matchesWithin fuel rest after
      else
        match if p = '[' && !quoted then takeSet rest else none with
        | some (negated, members, left) =>
          (setContains c members != negated) && matchesWithin fuel left after
        | none => p == c && matchesWithin fuel rest after

/-- Whether a text has the form of a pattern. -/
def matchesPattern (pattern : List Mark) (text : Octets) : Bool :=
  matchesWithin (pattern.length + text.length + 1) pattern text

/-- Whether a word is to be matched with file names. -/
def isPattern (word : List Mark) : Bool :=
  word.any fun (c, quoted) => !quoted && (c == '*' || c == '?' || c == '[')

end Relift.Shell
