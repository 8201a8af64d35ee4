import Relift.Shell.Octets

/-!
# Scripts

The structure of command scripts.  A word is made of pieces that are expanded
when the command is run; what is quoted is not split any further.
-/

namespace Relift.Shell

/-- How the value of a parameter is changed. -/
inductive Modifier where
  /-- The word in place of a missing value, or also of an empty one. -/
  | fallback (alsoEmpty : Bool)
  /-- The word in place of a value, unless that is missing, or also if it is
  empty. -/
  | replacement (alsoEmpty : Bool)
  /-- Without the shortest or longest beginning that has the form of the
  word. -/
  | withoutStart (longest : Bool)
  /-- Without the shortest or longest end that has the form of the word. -/
  | withoutEnd (longest : Bool)
deriving DecidableEq

/-- A part of a word. -/
inductive Piece where
  | plain (text : Octets) (quoted : Bool)
  /-- The value of a parameter. -/
  | parameter (name : Octets) (quoted : Bool)
  /-- The length of the value of a parameter. -/
  | size (name : Octets) (quoted : Bool)
  /-- The value of a parameter, changed with the help of a word. -/
  | modified (name : Octets) (modifier : Modifier) (word : Octets) (quoted : Bool)
  /-- The output of a script. -/
  | output (script : Octets) (quoted : Bool)
  /-- The value of an arithmetic expression. -/
  | arithmetic (expression : Octets) (quoted : Bool)
deriving DecidableEq

/-- A word of a command. -/
abbrev Word := List Piece

/-- Where a redirection leads. -/
inductive RedirectionKind where
  | read
  | write
  | append
  /-- To where another stream leads. -/
  | duplicate
  /-- From a text in the script itself. -/
  | text
deriving DecidableEq

/-- A redirection of a stream; stream 1 is the output and 2 the errors. -/
structure Redirection where
  stream : Nat
  kind : RedirectionKind
  target : Word
deriving DecidableEq

/-- A command, or several put together. -/
inductive Script where
  | nothing
  | simple (line : Nat) (assignments : List (Octets × Word)) (words : List Word)
      (redirections : List Redirection)
  /-- The output of the first is the input of the second. -/
  | pipe (first second : Script)
  | negate (body : Script)
  /-- The second only if the first succeeds. -/
  | both (first second : Script)
  /-- The second only if the first fails. -/
  | either (first second : Script)
  | sequence (first second : Script)
  /-- The body as long as the condition succeeds, or fails. -/
  | loop (whileTrue : Bool) (condition body : Script)
  /-- The body for each word, or for each argument. -/
  | each (name : Octets) (words : Option (List Word)) (body : Script)
  | choose (condition yes no : Script)
  /-- The body if the subject has the form of one of the patterns. -/
  | matching (subject : Word) (patterns : List Word) (body otherwise : Script)
  /-- On a copy of the state. -/
  | apart (body : Script)
  | redirected (body : Script) (redirections : List Redirection)
  /-- Gives a body a name under which it can be called. -/
  | define (name : Octets) (body : Script)

end Relift.Shell
