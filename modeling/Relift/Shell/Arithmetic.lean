import Relift.Shell.Lexer

/-!
# Arithmetic in scripts

Whole numbers with the usual operators.  A name stands for the number that its
variable spells, and for zero if it spells none.
-/

namespace Relift.Shell.Arithmetic

/-- The number that octets spell. -/
def number? (text : Octets) : Option Int :=
  let (negative, digits) := match text with
    | '-' :: rest => (true, rest)
    | '+' :: rest => (false, rest)
    | rest => (false, rest)
  if digits.isEmpty || !digits.all Char.isDigit then none
  else
    let value := Int.ofNat (Text.digitsValue digits)
    some (if negative then -value else value)

/-- The operators of two operands, by rank; those of higher rank bind
closer. -/
def operators : List (Nat × String) :=
  [(1, "||"), (2, "&&"), (3, "=="), (3, "!="), (4, "<="), (4, ">="), (4, "<"), (4, ">"),
    (5, "+"), (5, "-"), (6, "*"), (6, "/"), (6, "%")]

/-- One for what holds and zero for what does not. -/
def truth (b : Bool) : Int :=
  if b then 1 else 0

/-- The value of an operator; nothing is divided by zero. -/
def apply (operator : String) (a b : Int) : Option Int :=
  match operator with
  | "||" => some (truth (a != 0 || b != 0))
  | "&&" => some (truth (a != 0 && b != 0))
  | "==" => some (truth (a == b))
  | "!=" => some (truth (a != b))
  | "<=" => some (truth (a ≤ b))
  | ">=" => some (truth (a ≥ b))
  | "<" => some (truth (a < b))
  | ">" => some (truth (a > b))
  | "+" => some (a + b)
  | "-" => some (a - b)
  | "*" => some (a * b)
  | "/" => if b = 0 then none else some (Int.tdiv a b)
  | "%" => if b = 0 then none else some (Int.tmod a b)
  | _ => none

/-- Text without the blanks at its beginning. -/
def skipBlanks (text : Octets) : Octets :=
  text.dropWhile fun c => c == ' ' || c == '\t' || c == '\n'

/-- The operator that a text begins with, if its rank is at least a given
one. -/
def operatorAt (rank : Nat) (text : Octets) : Option (Nat × String × Octets) :=
  (operators.find? fun (r, name) => rank ≤ r && name.toList.isPrefixOf text).map
    fun (r, name) => (r, name, text.drop name.length)

mutual

/-- An expression of operators of at least a given rank. -/
def expression? (value : Octets → Int) : Nat → Nat → Octets → Option (Int × Octets)
  | 0, _, _ => none
  | fuel + 1, rank, text => do
    let (first, left) ← operand? value fuel text
    continue? value fuel rank first left

/-- An expression whose first part has been read. -/
def continue? (value : Octets → Int) : Nat → Nat → Int → Octets → Option (Int × Octets)
  | 0, _, _, _ => none
  | fuel + 1, rank, first, text =>
    match operatorAt rank (skipBlanks text) with
    | none => some (first, text)
    | some (r, operator, left) => do
      let (second, left) ← expression? value fuel (r + 1) left
      continue? value fuel rank (← apply operator first second) left

/-- A number, a name, a negation or an expression in parentheses. -/
def operand? (value : Octets → Int) : Nat → Octets → Option (Int × Octets)
  | 0, _ => none
  | fuel + 1, text =>
    match skipBlanks text with
    | '(' :: rest => do
      let (inner, left) ← expression? value fuel 0 rest
      match skipBlanks left with
      | ')' :: left => some (inner, left)
      | _ => none
    | '-' :: rest => do
      let (inner, left) ← operand? value fuel rest
      some (-inner, left)
    | '+' :: rest => operand? value fuel rest
    | '!' :: rest => do
      let (inner, left) ← operand? value fuel rest
      some (truth (inner == 0), left)
    | c :: rest =>
      if c.isDigit then do
        let digits := (c :: rest).takeWhile Char.isDigit
        some (← number? digits, (c :: rest).drop digits.length)
      else if isNameStart c then
        let name := (c :: rest).takeWhile isNameChar
        some (value name, (c :: rest).drop name.length)
      else none
    | [] => none

end

/-- The value of an expression. -/
def evaluate? (value : Octets → Int) (text : Octets) : Option Int := do
  let (result, left) ← expression? value (4 * text.length + 4) 0 text
  if (skipBlanks left).isEmpty then some result else none

end Relift.Shell.Arithmetic
