import Relift.Shell.Syntax
import Relift.Shell.Utility

/-!
# Sessions

The state in which a script runs: the files, the variables, what has been put
out so far and the status of the last command.
-/

namespace Relift.Shell

/-- Where a stream leads. -/
inductive Target where
  | output
  | errors
  /-- To the command that reads it. -/
  | captured
  | file (place : Place)
  | nowhere
deriving DecidableEq

/-- Where the output and the errors of a command lead. -/
structure Streams where
  output : Target := .output
  errors : Target := .errors

/-- The state of a running script.  What was put out is kept in parts, the
latest first. -/
structure Session where
  tree : FileTree
  place : Place
  /-- The name under which the script runs. -/
  name : Octets
  arguments : List Octets
  bindings : List (Octets × Octets)
  input : Octets
  status : Nat := 0
  output : List Octets := []
  errors : List Octets := []
  captured : List Octets := []
  /-- Whether a failing command ends the script. -/
  strict : Bool := false
  /-- The bodies that have names. -/
  functions : List (Octets × Script) := []

/-- How a script goes on after a command. -/
inductive Control where
  | next
  | exit
  | killed (signal : Nat)
  /-- Out of a number of loops. -/
  | leave (depth : Nat)
  /-- To the next round of a loop, after leaving some inside it. -/
  | again (depth : Nat)
  /-- Out of a body that was called by its name. -/
  | back
deriving DecidableEq

namespace Session

/-- The parts of an output in order. -/
def joined (parts : List Octets) : Octets :=
  parts.reverse.flatten

/-- Puts a text out to a target. -/
def put (s : Session) (target : Target) (text : Octets) : Session :=
  if text.isEmpty then s
  else
    match target with
    | .output => { s with output := text :: s.output }
    | .errors => { s with errors := text :: s.errors }
    | .captured => { s with captured := text :: s.captured }
    | .nowhere => s
    | .file place =>
      match s.tree.node? place with
      | some (.file content _) =>
        { s with tree := s.tree.setContent place (content ++ Octets.toBytes text) }
      | _ => s

/-- The session with another status. -/
def withStatus (s : Session) (status : Nat) : Session :=
  { s with status }

/-- Complains about a command of a line. -/
def complain (s : Session) (streams : Streams) (line : Nat) (message : Octets) (status : Nat) :
    Session :=
  (s.put streams.errors (s.name ++ [':', ' '] ++ (toString line).toList ++ [':', ' '] ++ message ++
    ['\n'])).withStatus status

/-- Gives a variable a value. -/
def assign (s : Session) (name value : Octets) : Session :=
  { s with bindings := (name, value) :: s.bindings.filter (·.1 != name) }

/-- The number under which the script runs. -/
def processNumber : Octets :=
  ['4', '2', '4', '2']

/-- The value of a parameter, if it has one. -/
def parameter? (s : Session) (name : Octets) : Option Octets :=
  match name with
  | ['#'] => some (toString s.arguments.length).toList
  | ['?'] => some (toString s.status).toList
  | ['$'] => some processNumber
  | ['@'] | ['*'] => some (joinBlanks s.arguments)
  | ['!'] | ['-'] => some []
  | ['0'] => some s.name
  | name =>
    if name.all Char.isDigit && !name.isEmpty then s.arguments[Text.digitsValue name - 1]?
    else s.bindings.lookup name

/-- The number that a variable spells. -/
def numberOf (s : Session) (name : Octets) : Int :=
  ((s.bindings.lookup name).bind Arithmetic.number?).getD 0

/-- The effect of a utility on the session. -/
def absorb (s : Session) (streams : Streams) (effect : Effect) : Session :=
  (({ s with tree := effect.tree }.put streams.output effect.output).put streams.errors
    effect.errors).withStatus effect.status

/-- The session after a command that ran on a copy of it: only files and
outputs stay. -/
def keepOutside (s after : Session) : Session :=
  { s with
    tree := after.tree
    output := after.output
    errors := after.errors
    captured := after.captured
    status := after.status }

end Session

/-- What an expansion gives: characters, borders between words, and quotes that
hold nothing. -/
inductive Item where
  | mark (mark : Mark)
  | gap
  | hold
deriving DecidableEq

namespace Item

/-- A quoted text. -/
def quoted (text : Octets) : List Item :=
  .hold :: text.map fun c => .mark (c, true)

/-- A text without quotes that is not split. -/
def literal (text : Octets) : List Item :=
  text.map fun c => .mark (c, false)

/-- A value that is split at its blanks. -/
def splitting (text : Octets) : List Item :=
  text.map fun c => if c = ' ' || c = '\t' || c = '\n' then .gap else .mark (c, false)

/-- A value, split unless it is quoted. -/
def ofValue (isQuoted : Bool) (text : Octets) : List Item :=
  if isQuoted then quoted text else splitting text

/-- Several values as words of their own. -/
def ofValues (isQuoted : Bool) (values : List Octets) : List Item :=
  ((values.map (ofValue isQuoted)).intersperse [.gap]).flatten

/-- The words between the borders.  A word without characters counts only if
it was quoted. -/
def fieldsFrom : Option (List Mark) → List Item → List (List Mark)
  | current, [] => current.toList.map List.reverse
  | current, .gap :: rest => current.toList.map List.reverse ++ fieldsFrom none rest
  | current, .hold :: rest => fieldsFrom (some (current.getD [])) rest
  | current, .mark m :: rest => fieldsFrom (some (m :: current.getD [])) rest

/-- The words of an expansion. -/
def fields (items : List Item) : List (List Mark) :=
  fieldsFrom none items

/-- An expansion as one word. -/
def single (items : List Item) : List Mark :=
  items.filterMap fun
    | .mark m => some m
    | .gap => some (' ', false)
    | .hold => none

end Item

/-- The file names that a pattern stands for: those of one directory.  A
pattern that fits none stands for itself. -/
def fileNames (s : Session) (word : List Mark) : List Octets :=
  let plain := word.map Prod.fst
  if !isPattern word then [plain]
  else
    let last := (word.reverse.takeWhile fun m => m.1 != '/').reverse
    let directory := plain.take (plain.length - last.length)
    let path := if directory.isEmpty then "." else Octets.toText directory
    match s.tree.lookup s.place path with
    | .ok (place, .directory) =>
      let names := (s.tree.children place).map Octets.ofText
      let found := names.filter fun name =>
        matchesPattern last name && (name.head? != some '.' || last.head?.map Prod.fst == some '.')
      if found.isEmpty then [plain] else found.map (directory ++ ·)
    | _ => [plain]

end Relift.Shell
