import Relift.Shell.Session

/-!
# Conditions

The tests of files, texts and numbers.
-/

namespace Relift.Shell

/-- A test with one operand. -/
def unaryTest (s : Session) (operator : String) (operand : Octets) : Option Bool :=
  let path := Octets.toText operand
  let node := (s.tree.lookup s.place path).toOption.map Prod.snd
  match operator with
  | "-n" => some !operand.isEmpty
  | "-z" => some operand.isEmpty
  | "-e" | "-r" | "-w" => some node.isSome
  | "-f" => some (s.tree.isFileAt s.place path)
  | "-d" => some (s.tree.isDirectoryAt s.place path)
  | "-s" =>
    some <| match node with
      | some (.file content _) => !content.isEmpty
      | some (.device _) => false
      | node => node.isSome
  | "-x" =>
    some <| match node with
      | some (.file _ executable) => executable
      | some (.device _) => false
      | node => node.isSome
  | _ => none

/-- A test with two operands. -/
def binaryTest (operator : String) (a b : Octets) : Option Bool :=
  let numbers (holds : Int → Int → Bool) := do
    some (holds (← Arithmetic.number? a) (← Arithmetic.number? b))
  match operator with
  | "=" | "==" => some (a == b)
  | "!=" => some (a != b)
  | "-eq" => numbers (· == ·)
  | "-ne" => numbers (· != ·)
  | "-lt" => numbers (· < ·)
  | "-le" => numbers (· ≤ ·)
  | "-gt" => numbers (· > ·)
  | "-ge" => numbers (· ≥ ·)
  | _ => none

/-- The operands before and after a connective. -/
def splitAtWord (word : Octets) (operands : List Octets) : Option (List Octets × List Octets) :=
  let before := operands.takeWhile (· != word)
  if before.length < operands.length && !before.isEmpty then
    some (before, operands.drop (before.length + 1))
  else none

mutual

/-- Whether the operands of a test hold; nothing if they are no test. -/
def testWithin (s : Session) : Nat → List Octets → Option Bool
  | 0, _ => none
  | fuel + 1, operands =>
    match operands with
    | [] => some false
    | [a] => some !a.isEmpty
    | [['!'], a] => some a.isEmpty
    | [operator, a] => unaryTest s (String.ofList operator) a
    | [a, operator, b] =>
      match binaryTest (String.ofList operator) a b with
      | some holds => some holds
      | none => connectedTest s fuel [a, operator, b]
    | operands => connectedTest s fuel operands

/-- Whether operands hold that connectives join. -/
def connectedTest (s : Session) : Nat → List Octets → Option Bool
  | 0, _ => none
  | fuel + 1, operands =>
    match splitAtWord ['-', 'o'] operands with
    | some (before, rest) => do
      let first ← testWithin s fuel before
      let second ← testWithin s fuel rest
      some (first || second)
    | none =>
      match splitAtWord ['-', 'a'] operands with
      | some (before, rest) => do
        let first ← testWithin s fuel before
        let second ← testWithin s fuel rest
        some (first && second)
      | none =>
        match operands with
        | ['!'] :: rest => (testWithin s fuel rest).map (!·)
        | _ => none

end

/-- The complaint about operands that are no test. -/
def testComplaint (operands : List Octets) : Octets :=
  match operands with
  | [a, operator, b] =>
    if ["-eq", "-ne", "-lt", "-le", "-gt", "-ge"].contains (String.ofList operator) then
      Octets.ofText "Illegal number: " ++ (if (Arithmetic.number? a).isNone then a else b)
    else operator ++ Octets.ofText ": unexpected operator"
  | [_, operator] => operator ++ Octets.ofText ": argument expected"
  | _ => Octets.ofText "unexpected operator"

/-- The session after a test: the status is zero if it holds, one if not, and
two, with a complaint, if it is none. -/
def runTest (s : Session) (streams : Streams) (line : Nat) (name : String)
    (operands : List Octets) : Session :=
  match testWithin s (2 * operands.length + 2) operands with
  | some true => s.withStatus 0
  | some false => s.withStatus 1
  | none => s.complain streams line (Octets.ofText (name ++ ": ") ++ testComplaint operands) 2

end Relift.Shell
