import Relift.Shell.Expression

/-!
# Filters

The programs that make a text from texts.
-/

namespace Relift.Shell

/-- The first bytes of the endless device, or of a text. -/
def headBytes (s : Setting) (count : Nat) (names : List Octets) : Effect :=
  match names with
  | [name] =>
    match s.tree.lookup s.place (Octets.toText name) with
    | .ok (_, .device .zeros) => s.puts (List.replicate count '\x00')
    | _ => overInputs s "head" names (·.take count)
  | _ => overInputs s "head" names (·.take count)

/-- The command that shows the beginning of texts. -/
def runHead (s : Setting) (arguments : List Octets) : Effect :=
  let lines (count : Nat) (text : Octets) := ((linesWithBreaks text).take count).flatten
  let count (digits : Octets) := ((Arithmetic.number? digits).getD 0).toNat
  match arguments with
  | ['-', 'c'] :: n :: names => headBytes s (count n) names
  | ['-', 'n'] :: n :: names => overInputs s "head" names (lines (count n))
  | ('-' :: 'c' :: n) :: names => headBytes s (count n) names
  | ('-' :: 'n' :: n) :: names => overInputs s "head" names (lines (count n))
  | ('-' :: n) :: names => overInputs s "head" names (lines (count n))
  | names => overInputs s "head" names (lines 10)

/-- The command that shows the end of texts. -/
def runTail (s : Setting) (arguments : List Octets) : Effect :=
  let lastOf {α : Type} (count : Nat) (items : List α) := items.drop (items.length - count)
  let lines (digits : Octets) (text : Octets) :=
    let all := linesWithBreaks text
    let count := ((Arithmetic.number? digits).getD 0).natAbs
    (if digits.head? == some '+' then all.drop (count - 1) else lastOf count all).flatten
  match arguments with
  | ['-', 'c'] :: n :: names =>
    overInputs s "tail" names (lastOf ((Arithmetic.number? n).getD 0).natAbs)
  | ['-', 'n'] :: n :: names => overInputs s "tail" names (lines n)
  | ('-' :: n) :: names => overInputs s "tail" names (lines n)
  | names => overInputs s "tail" names (lines ['1', '0'])

/-- The members of a set of characters, with its ranges and backslash
sequences. -/
def expandSet : Nat → Octets → Octets
  | 0, _ => []
  | _, [] => []
  | fuel + 1, '\\' :: c :: rest =>
    if isOctal c then
      let digits := ((c :: rest).take 3).takeWhile isOctal
      octalOctet digits :: expandSet fuel ((c :: rest).drop digits.length)
    else (letterEscape? c).getD c :: expandSet fuel rest
  | fuel + 1, low :: '-' :: high :: rest =>
    (List.range (high.toNat + 1 - low.toNat)).map (fun i => Char.ofNat (low.toNat + i)) ++
      expandSet fuel rest
  | fuel + 1, c :: rest => c :: expandSet fuel rest

/-- The command that replaces or removes characters. -/
def runTr (s : Setting) (arguments : List Octets) : Effect :=
  let members (set : Octets) := expandSet (set.length + 1) set
  match arguments with
  | [['-', 'd'], set] =>
    let removed := members set
    s.puts (s.input.filter fun c => !removed.contains c)
  | [source, target] =>
    let target := members target
    let pairs := (members source).zipIdx.map fun (c, i) => (c, target[i]?.getD (target.getLastD c))
    s.puts (s.input.map fun c => (pairs.lookup c).getD c)
  | _ => s.complains "tr: missing operand"

/-- The scripts and the files that the arguments of the editor name. -/
def editScripts : List Octets → List Octets × List Octets
  | ['-', 'e'] :: script :: rest =>
    let (scripts, names) := editScripts rest
    (script :: scripts, names)
  | rest => ([], rest)

/-- The command that edits lines. -/
def runSed (s : Setting) (arguments : List Octets) : Effect :=
  let (scripts, names) := match editScripts arguments with
    | ([], script :: names) => ([script], names)
    | named => named
  let script := (scripts.intersperse ['\n']).flatten
  match editsWithin (script.length + 1) script with
  | none => s.complains "sed: -e expression #1, char 0: unknown command"
  | some edits =>
    overInputs s "sed" names fun text => (linesWithBreaks text).flatMap fun line =>
      let bare := bareLine line
      match edits.foldlM (fun line edit => edit.apply line) bare with
      | some edited => edited ++ line.drop bare.length
      | none => []

/-- The command that shows the lines in which an expression occurs. -/
def runGrep (s : Setting) (arguments : List Octets) : Effect :=
  let (options, operands) := splitOptions arguments
  match operands with
  | [] => { s.complains "Usage: grep [OPTION]... PATTERNS [FILE]..." with status := 2 }
  | expression :: names =>
    let e := Expression.ofText expression
    let keep (line : Octets) := (e.find? (bareLine line)).isSome != options.contains 'v'
    let effect := overInputs s "grep" names fun text =>
      ((linesWithBreaks text).filter keep).flatMap fun line => bareLine line ++ ['\n']
    let status := if effect.status != 0 then 2 else if effect.output.isEmpty then 1 else 0
    if options.contains 'q' then { effect with output := [], status }
    else if options.contains 'c' then
      { effect with status, output := (toString (linesWithBreaks effect.output).length).toList ++ ['\n'] }
    else { effect with status }

/-- The command that counts. -/
def runWc (s : Setting) (arguments : List Octets) : Effect :=
  let (options, names) := splitOptions arguments
  let count (text : Octets) : Nat :=
    if options.contains 'l' then text.count '\n'
    else if options.contains 'w' then
      ((String.ofList text).splitToList fun c => [' ', '\n', '\t'].contains c).countP (!·.isEmpty)
    else text.length
  match names with
  | [] => s.puts ((toString (count s.input)).toList ++ ['\n'])
  | names =>
    names.foldl (fun effect name => effect.andThen fun tree =>
      let path := Octets.toText name
      match tree.read s.place path with
      | .ok content =>
        { tree, output := (toString (count (Octets.ofBytes content))).toList ++ ' ' :: name ++ ['\n'] }
      | .error e => { s.complains ("wc: " ++ path ++ ": " ++ complaint e) with tree }) (s.ends 0)

/-- Lines without those equal to the line before. -/
def dropRepeated : List Octets → List Octets
  | a :: b :: rest => if a = b then dropRepeated (b :: rest) else a :: dropRepeated (b :: rest)
  | lines => lines

/-- Whether a line comes before another, or is equal to it. -/
def lineBefore (numeric : Bool) (a b : Octets) : Bool :=
  if numeric then
    let value (line : Octets) := ((Arithmetic.number? (line.takeWhile fun c => c.isDigit || c == '-')).getD 0)
    value a ≤ value b
  else compare (a.map Char.toNat) (b.map Char.toNat) != .gt

/-- The command that sorts lines. -/
def runSort (s : Setting) (arguments : List Octets) : Effect :=
  let (options, names) := splitOptions arguments
  let effect := overInputs s "sort" names id
  let sorted := ((linesWithBreaks effect.output).map bareLine).mergeSort
    (lineBefore (options.contains 'n'))
  let sorted := if options.contains 'u' then dropRepeated sorted else sorted
  let sorted := if options.contains 'r' then sorted.reverse else sorted
  { effect with output := sorted.flatMap (· ++ ['\n']) }

/-- The command that shows parts of lines: the field of a number between
separators. -/
def runCut (s : Setting) (arguments : List Octets) : Effect :=
  let option (letter : Char) : Option Octets :=
    arguments.findSome? fun
      | '-' :: c :: rest => if c = letter && !rest.isEmpty then some rest else none
      | _ => none
  let names := arguments.filter fun a => a.head? != some '-'
  let separator := ((option 'd').bind List.head?).getD '\t'
  match (option 'f').bind Arithmetic.number? with
  | some field =>
    overInputs s "cut" names fun text => ((linesWithBreaks text).map bareLine).flatMap fun line =>
      let parts := splitCommand separator line
      (if parts.length = 1 then line else (parts[field.toNat - 1]?).getD []) ++ ['\n']
  | none => s.complains "cut: you must specify a list of bytes, characters, or fields"

/-- The command that counts up. -/
def runSeq (s : Setting) (arguments : List Octets) : Effect :=
  let value (text : Octets) := (Arithmetic.number? text).getD 0
  let count (first last : Int) : Octets :=
    (List.range (last - first + 1).toNat).flatMap fun i =>
      (toString (first + Int.ofNat i)).toList ++ ['\n']
  match arguments with
  | [last] => s.puts (count 1 (value last))
  | [first, last] => s.puts (count (value first) (value last))
  | _ => s.complains "seq: missing operand\nTry 'seq --help' for more information."

end Relift.Shell
