import Relift.Shell.Arithmetic

/-!
# Formatted output of scripts

Backslash sequences and the directives of formats.
-/

namespace Relift.Shell

/-- The character that a letter after a backslash stands for. -/
def letterEscape? (c : Char) : Option Char :=
  match c with
  | 'a' => some '\x07'
  | 'b' => some '\x08'
  | 'f' => some '\x0c'
  | 'n' => some '\n'
  | 'r' => some '\r'
  | 't' => some '\t'
  | 'v' => some '\x0b'
  | '\\' => some '\\'
  | _ => none

/-- Whether a character is an octal digit. -/
def isOctal (c : Char) : Bool :=
  '0' ≤ c && c ≤ '7'

/-- The octet that octal digits spell. -/
def octalOctet (digits : Octets) : Char :=
  Char.ofNat (digits.foldl (fun n d => 8 * n + (d.toNat - 48)) 0 % 256)

/-- A text with its backslash sequences replaced, up to one that ends the
output, and whether there was such a one.  After a zero come up to three octal
digits. -/
def unescapeWithin : Nat → Octets → Octets × Bool
  | 0, text => (text, false)
  | _, [] => ([], false)
  | fuel + 1, '\\' :: c :: rest =>
    if c = 'c' then ([], true)
    else if c = '0' then
      let digits := (rest.take 3).takeWhile isOctal
      let (others, ended) := unescapeWithin fuel (rest.drop digits.length)
      (octalOctet digits :: others, ended)
    else
      match letterEscape? c with
      | some d =>
        let (others, ended) := unescapeWithin fuel rest
        (d :: others, ended)
      | none =>
        let (others, ended) := unescapeWithin fuel rest
        ('\\' :: c :: others, ended)
  | fuel + 1, c :: rest =>
    let (others, ended) := unescapeWithin fuel rest
    (c :: others, ended)

/-- A text with its backslash sequences replaced, and whether one ended the
output. -/
def unescape (text : Octets) : Octets × Bool :=
  unescapeWithin (text.length + 1) text

/-- Words with blanks between them. -/
def joinBlanks (words : List Octets) : Octets :=
  (words.intersperse [' ']).flatten

/-- What the command for plain output puts out. -/
def echoText (arguments : List Octets) : Octets :=
  let (bare, words) := match arguments with
    | ['-', 'n'] :: rest => (true, rest)
    | rest => (false, rest)
  let (text, ended) := unescape (joinBlanks words)
  if bare || ended then text else text ++ ['\n']

/-- A text filled up with blanks to a width; on the right if the width is
negative. -/
def padTo (width : Int) (zeros : Bool) (text : Octets) : Octets :=
  let missing := width.natAbs - text.length
  if width < 0 then text ++ List.replicate missing ' '
  else List.replicate missing (if zeros then '0' else ' ') ++ text

/-- The text of an argument under a directive. -/
def directiveText (directive : Char) (argument : Octets) : Octets :=
  match directive with
  | 'd' | 'i' | 'u' => (toString ((Arithmetic.number? argument).getD 0)).toList
  | 'x' => Nat.toDigits 16 ((Arithmetic.number? argument).getD 0).toNat
  | 'o' => Nat.toDigits 8 ((Arithmetic.number? argument).getD 0).toNat
  | 'c' => argument.take 1
  | 'b' => (unescape argument).1
  | _ => argument

/-- One pass over a format: the text and the arguments that are left. -/
def formatWithin : Nat → Octets → List Octets → Octets × List Octets
  | 0, _, arguments => ([], arguments)
  | _, [], arguments => ([], arguments)
  | fuel + 1, '\\' :: c :: rest, arguments =>
    if isOctal c then
      let digits := ((c :: rest).take 3).takeWhile isOctal
      let (others, left) := formatWithin fuel ((c :: rest).drop digits.length) arguments
      (octalOctet digits :: others, left)
    else
      let (others, left) := formatWithin fuel rest arguments
      ((letterEscape? c).elim ['\\', c] ([·]) ++ others, left)
  | fuel + 1, '%' :: '%' :: rest, arguments =>
    let (others, left) := formatWithin fuel rest arguments
    ('%' :: others, left)
  | fuel + 1, '%' :: rest, arguments =>
    let sign := rest.takeWhile (· == '-')
    let digits := (rest.drop sign.length).takeWhile Char.isDigit
    let width := (Arithmetic.number? digits).getD 0
    match rest.drop (sign.length + digits.length) with
    | directive :: after =>
      let (others, left) := formatWithin fuel after (arguments.drop 1)
      let text := directiveText directive (arguments.headD [])
      (padTo (if sign.isEmpty then width else -width) (digits.head? == some '0') text ++ others,
        left)
    | [] => ('%' :: rest, arguments)
  | fuel + 1, c :: rest, arguments =>
    let (others, left) := formatWithin fuel rest arguments
    (c :: others, left)

/-- A format applied again and again, as long as it uses up arguments. -/
def formatAll (format : Octets) : Nat → List Octets → Octets
  | 0, _ => []
  | fuel + 1, arguments =>
    let (text, left) := formatWithin (format.length + 1) format arguments
    if left.isEmpty || left.length = arguments.length then text
    else text ++ formatAll format fuel left

/-- What the command for formatted output puts out. -/
def formatText (format : Octets) (arguments : List Octets) : Octets :=
  formatAll format (arguments.length + 1) arguments

end Relift.Shell
