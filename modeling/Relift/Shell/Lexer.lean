import Relift.Shell.Syntax
import Relift.Text.Decimal

/-!
# Tokens of scripts

A script is cut into words and operators.  Each token knows its line.  The
number of steps is bounded by the length of the script.
-/

namespace Relift.Shell

/-- The operators between words. -/
inductive Operator where
  | newline
  | semicolon
  | doubleSemicolon
  | ampersand
  | andThen
  | orElse
  | bar
  | openParen
  | closeParen
deriving DecidableEq

/-- A token of a script. -/
inductive Token where
  | operator (operator : Operator)
  | word (word : Word)
  /-- The beginning of a redirection; the word that follows is its target. -/
  | redirection (stream : Nat) (kind : RedirectionKind)
deriving DecidableEq

/-- Whether a character can begin a name. -/
def isNameStart (c : Char) : Bool :=
  c.isAlpha || c == '_'

/-- Whether a character can stand in a name. -/
def isNameChar (c : Char) : Bool :=
  c.isAlphanum || c == '_'

/-- Whether a character ends a word that is not quoted. -/
def endsWord (c : Char) : Bool :=
  [' ', '\t', '\n', ';', '&', '|', '(', ')', '<', '>'].contains c

/-- The parameters with a name of one sign. -/
def isSpecialParameter (c : Char) : Bool :=
  ['@', '*', '#', '?', '$', '!', '-'].contains c || c.isDigit

/-- Text up to a quote, and what follows the quote. -/
def takeQuoted (quote : Char) : Octets → Option (Octets × Octets)
  | [] => none
  | c :: rest =>
    if c = quote then some ([], rest)
    else (takeQuoted quote rest).map fun (taken, left) => (c :: taken, left)

/-- Text up to the parenthesis that closes the open ones, and what follows it;
parentheses in quotes do not count. -/
def takeParen : Nat → Nat → Octets → Option (Octets × Octets)
  | 0, _, _ => none
  | _, _, [] => none
  | fuel + 1, depth, c :: rest =>
    if c = ')' && depth = 0 then some ([], rest)
    else if c = ')' then (takeParen fuel (depth - 1) rest).map fun (t, l) => (c :: t, l)
    else if c = '(' then (takeParen fuel (depth + 1) rest).map fun (t, l) => (c :: t, l)
    else if c = '\'' || c = '"' then do
      let (quoted, after) ← takeQuoted c rest
      let (taken, left) ← takeParen fuel depth after
      some (c :: quoted ++ c :: taken, left)
    else (takeParen fuel depth rest).map fun (t, l) => (c :: t, l)

/-- The piece that the text between braces stands for. -/
def bracedPiece (quoted : Bool) (inner : Octets) : Piece :=
  let name :=
    match inner with
    | c :: _ => if isNameStart c then inner.takeWhile isNameChar
      else if c.isDigit then inner.takeWhile Char.isDigit
      else [c]
    | [] => []
  match inner, inner.drop name.length with
  | '#' :: c :: rest, _ =>
    if isNameChar c then .size (c :: rest) quoted else .parameter name quoted
  | _, ':' :: '-' :: word => .modified name (.fallback true) word quoted
  | _, '-' :: word => .modified name (.fallback false) word quoted
  | _, ':' :: '+' :: word => .modified name (.replacement true) word quoted
  | _, '+' :: word => .modified name (.replacement false) word quoted
  | _, '#' :: '#' :: word => .modified name (.withoutStart true) word quoted
  | _, '#' :: word => .modified name (.withoutStart false) word quoted
  | _, '%' :: '%' :: word => .modified name (.withoutEnd true) word quoted
  | _, '%' :: word => .modified name (.withoutEnd false) word quoted
  | _, _ => .parameter name quoted

/-- The piece after a dollar sign, and what follows it. -/
def dollarPiece (quoted : Bool) : Octets → Option (Piece × Octets)
  | '(' :: '(' :: rest => do
    let (inner, left) ← takeParen (rest.length + 1) 0 rest
    match left with
    | ')' :: left => some (.arithmetic inner quoted, left)
    | _ => none
  | '(' :: rest => do
    let (inner, left) ← takeParen (rest.length + 1) 0 rest
    some (.output inner quoted, left)
  | '\x7b' :: rest => do
    let (inner, left) ← takeQuoted '\x7d' rest
    some (bracedPiece quoted inner, left)
  | c :: rest =>
    if isNameStart c then
      some (.parameter ((c :: rest).takeWhile isNameChar) quoted, (c :: rest).dropWhile isNameChar)
    else if isSpecialParameter c then some (.parameter [c] quoted, rest)
    else some (.plain ['$'] quoted, c :: rest)
  | [] => some (.plain ['$'] quoted, [])

/-- The pieces between double quotes, and what follows them. -/
def doubleQuoted : Nat → Octets → Option (List Piece × Octets)
  | 0, _ => none
  | _, [] => none
  | fuel + 1, c :: rest =>
    if c = '"' then some ([], rest)
    else if c = '\\' then
      match rest with
      | d :: after => do
        let (pieces, left) ← doubleQuoted fuel after
        if d = '\n' then some (pieces, left)
        else if ['$', '\x60', '"', '\\'].contains d then some (.plain [d] true :: pieces, left)
        else some (.plain ['\\', d] true :: pieces, left)
      | [] => none
    else if c = '$' then do
      let (piece, after) ← dollarPiece true rest
      let (pieces, left) ← doubleQuoted fuel after
      some (piece :: pieces, left)
    else if c = '\x60' then do
      let (inner, after) ← takeQuoted '\x60' rest
      let (pieces, left) ← doubleQuoted fuel after
      some (.output inner true :: pieces, left)
    else do
      let (pieces, left) ← doubleQuoted fuel rest
      some (.plain [c] true :: pieces, left)

/-- The pieces of a word, and what follows it. -/
def wordPieces : Nat → Octets → Option (List Piece × Octets)
  | 0, _ => none
  | _, [] => some ([], [])
  | fuel + 1, c :: rest =>
    if endsWord c then some ([], c :: rest)
    else if c = '\'' then do
      let (inner, after) ← takeQuoted '\'' rest
      let (pieces, left) ← wordPieces fuel after
      some (.plain inner true :: pieces, left)
    else if c = '"' then do
      let (inner, after) ← doubleQuoted (rest.length + 1) rest
      let (pieces, left) ← wordPieces fuel after
      some ((if inner.isEmpty then [.plain [] true] else inner) ++ pieces, left)
    else if c = '\\' then
      match rest with
      | '\n' :: after => wordPieces fuel after
      | d :: after => do
        let (pieces, left) ← wordPieces fuel after
        some (.plain [d] true :: pieces, left)
      | [] => some ([.plain ['\\'] true], [])
    else if c = '$' then do
      let (piece, after) ← dollarPiece false rest
      let (pieces, left) ← wordPieces fuel after
      some (piece :: pieces, left)
    else if c = '\x60' then do
      let (inner, after) ← takeQuoted '\x60' rest
      let (pieces, left) ← wordPieces fuel after
      some (.output inner false :: pieces, left)
    else do
      let (pieces, left) ← wordPieces fuel rest
      some (.plain [c] false :: pieces, left)

/-- Joins neighbouring pieces of plain text. -/
def joinPlain : List Piece → List Piece
  | .plain a p :: rest =>
    match joinPlain rest with
    | .plain b q :: others =>
      if p = q then .plain (a ++ b) p :: others else .plain a p :: .plain b q :: others
    | others => .plain a p :: others
  | piece :: rest => piece :: joinPlain rest
  | [] => []

/-- A redirection operator, without the number of its stream. -/
def redirectionOperator? : Octets → Option (Bool × RedirectionKind × Octets)
  | '>' :: '>' :: rest => some (true, .append, rest)
  | '>' :: '&' :: rest => some (true, .duplicate, rest)
  | '>' :: '|' :: rest => some (true, .write, rest)
  | '>' :: rest => some (true, .write, rest)
  | '<' :: '<' :: _ => none
  | '<' :: '&' :: rest => some (false, .duplicate, rest)
  | '<' :: rest => some (false, .read, rest)
  | _ => none

/-- The redirection that a text begins with. -/
def redirection? (text : Octets) : Option (Token × Octets) := do
  let digits := text.takeWhile Char.isDigit
  let (outward, kind, rest) ← redirectionOperator? (text.drop digits.length)
  let stream := match digits with
    | [] => if outward then 1 else 0
    | _ => Text.digitsValue digits
  some (.redirection stream kind, rest)

/-- The lines of a text up to one that equals an ending, and what follows that
line; the tabs at the beginning of lines are dropped if asked for. -/
def takeDocument (ending : Octets) (dropTabs : Bool) : Nat → Octets → Octets × Octets
  | 0, text => ([], text)
  | _, [] => ([], [])
  | fuel + 1, text =>
    let line := text.takeWhile (· != '\n')
    let rest := text.drop (line.length + 1)
    let bare := if dropTabs then line.dropWhile (· == '\t') else line
    if bare = ending then ([], rest)
    else
      let (body, left) := takeDocument ending dropTabs fuel rest
      (bare ++ '\n' :: body, left)

/-- The plain characters of a word. -/
def plainText (word : Word) : Octets :=
  word.flatMap fun
    | .plain text _ => text
    | _ => []

/-- Whether some of a word is quoted. -/
def hasQuotes (word : Word) : Bool :=
  word.any fun
    | .plain _ quoted => quoted
    | _ => false

/-- The word of a document in the script: expanded unless its ending is
quoted. -/
def documentWord (quoted : Bool) (body : Octets) : Word :=
  let escaped := body.flatMap fun c => if c = '"' then ['\\', '"'] else [c]
  match if quoted then none else doubleQuoted (escaped.length + 2) (escaped ++ ['"']) with
  | some (pieces, _) => pieces
  | none => [.plain body true]

/-- The document that a redirection to the script itself begins, and the text
without it: the rest of the line, and the lines after the document. -/
def document? (text : Octets) : Option (Word × Octets) := do
  let text ← match text with
    | '<' :: '<' :: rest => some rest
    | _ => none
  let (dropTabs, text) := match text with
    | '-' :: rest => (true, rest)
    | rest => (false, rest)
  let text := text.dropWhile (· == ' ')
  let (ending, text) ← wordPieces (text.length + 1) text
  let line := text.takeWhile (· != '\n')
  let after := text.drop (line.length + 1)
  let (body, left) := takeDocument (plainText ending) dropTabs (after.length + 1) after
  some (documentWord (hasQuotes ending) body, line ++ '\n' :: left)

/-- The operator that a text begins with. -/
def operator? : Octets → Option (Operator × Octets)
  | '\n' :: rest => some (.newline, rest)
  | ';' :: ';' :: rest => some (.doubleSemicolon, rest)
  | ';' :: rest => some (.semicolon, rest)
  | '&' :: '&' :: rest => some (.andThen, rest)
  | '&' :: rest => some (.ampersand, rest)
  | '|' :: '|' :: rest => some (.orElse, rest)
  | '|' :: rest => some (.bar, rest)
  | '(' :: rest => some (.openParen, rest)
  | ')' :: rest => some (.closeParen, rest)
  | _ => none

/-- The tokens of a text, each with its line. -/
def tokensFrom : Nat → Nat → Octets → Option (List (Token × Nat))
  | 0, _, _ => none
  | _, _, [] => some []
  | fuel + 1, line, c :: rest =>
    if c = ' ' || c = '\t' then tokensFrom fuel line rest
    else if c = '#' then tokensFrom fuel line (rest.dropWhile (· != '\n'))
    else if c = '\\' && rest.head? = some '\n' then tokensFrom fuel (line + 1) (rest.drop 1)
    else if let some (word, left) := document? (c :: rest) then do
      let passed := rest.length + 1 - left.length
      let tokens ← tokensFrom fuel (line + ((c :: rest).take passed).count '\n') left
      some ((.redirection 0 .text, line) :: (.word word, line) :: tokens)
    else
      match redirection? (c :: rest) with
      | some (token, left) => do
        let tokens ← tokensFrom fuel line left
        some ((token, line) :: tokens)
      | none =>
        match operator? (c :: rest) with
        | some (operator, left) => do
          let tokens ← tokensFrom fuel (if operator = .newline then line + 1 else line) left
          some ((.operator operator, line) :: tokens)
        | none => do
          let (pieces, left) ← wordPieces (rest.length + 2) (c :: rest)
          let passed := (c :: rest).take (rest.length + 1 - left.length)
          let tokens ← tokensFrom fuel (line + passed.count '\n') left
          some ((.word (joinPlain pieces), line) :: tokens)

/-- The tokens of a script. -/
def tokens? (text : Octets) : Option (List (Token × Nat)) :=
  tokensFrom (text.length + 1) 1 text

end Relift.Shell
