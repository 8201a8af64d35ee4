import Relift.Shell.Lexer

/-!
# Reading scripts

From tokens to commands.  Reserved words count only where a command can begin.
The nesting of calls is bounded by a number that the length of the script
gives.
-/

namespace Relift.Shell

/-- Tokens still to be read. -/
abbrev Tokens := List (Token × Nat)

/-- The text of a word without quotes and expansions. -/
def bareWord? : Word → Option Octets
  | [.plain text false] => some text
  | _ => none

/-- Whether the tokens begin with a given reserved word. -/
def startsWith (word : String) : Tokens → Bool
  | (.word w, _) :: _ => bareWord? w == some word.toList
  | _ => false

/-- The tokens after a given reserved word. -/
def after? (word : String) (tokens : Tokens) : Option Tokens :=
  if startsWith word tokens then some (tokens.drop 1) else none

/-- The tokens after any line breaks. -/
def skipBreaks : Tokens → Tokens
  | (.operator .newline, _) :: rest => skipBreaks rest
  | tokens => tokens

/-- The tokens after line breaks and semicolons. -/
def skipSeparators : Tokens → Tokens
  | (.operator .newline, _) :: rest => skipSeparators rest
  | (.operator .semicolon, _) :: rest => skipSeparators rest
  | (.operator .ampersand, _) :: rest => skipSeparators rest
  | tokens => tokens

/-- Whether no further command can begin here. -/
def atEnd (tokens : Tokens) : Bool :=
  match tokens with
  | [] => true
  | (.operator .closeParen, _) :: _ => true
  | (.operator .doubleSemicolon, _) :: _ => true
  | _ => ["done", "do", "then", "else", "elif", "fi", "esac", "\x7d"].any (startsWith · tokens)

/-- Whether a word with a meaning of its own begins here, which is no simple
command. -/
def startsCompound (tokens : Tokens) : Bool :=
  ["if", "while", "until", "for", "case", "\x7b"].any (startsWith · tokens)

/-- The redirections at the beginning of tokens. -/
def redirections : Tokens → List Redirection × Tokens
  | (.redirection stream kind, _) :: (.word target, _) :: rest =>
    let (others, left) := redirections rest
    (⟨stream, kind, target⟩ :: others, left)
  | tokens => ([], tokens)

/-- The assignment that a word is, if it is one. -/
def assignment? : Word → Option (Octets × Word)
  | .plain text false :: rest =>
    let name := text.takeWhile isNameChar
    match name.head?, text.drop name.length with
    | some c, '=' :: value =>
      if isNameStart c then
        some (name, if value.isEmpty then rest else .plain value false :: rest)
      else none
    | _, _ => none
  | _ => none

/-- The words and redirections of a simple command. -/
def simpleParts : Tokens → List Word × List Redirection × Tokens
  | (.word w, _) :: rest =>
    let (words, others, left) := simpleParts rest
    (w :: words, others, left)
  | (.redirection stream kind, _) :: (.word target, _) :: rest =>
    let (words, others, left) := simpleParts rest
    (words, ⟨stream, kind, target⟩ :: others, left)
  | tokens => ([], [], tokens)

/-- The assignments at the beginning of words, and the other words. -/
def splitAssignments : List Word → List (Octets × Word) × List Word
  | [] => ([], [])
  | w :: rest =>
    match assignment? w with
    | some assignment =>
      let (others, words) := splitAssignments rest
      (assignment :: others, words)
    | none => ([], w :: rest)

/-- A simple command. -/
def simpleCommand? (tokens : Tokens) : Option (Script × Tokens) :=
  match simpleParts tokens with
  | ([], [], _) => none
  | (words, others, left) =>
    let (assignments, words) := splitAssignments words
    some (.simple ((tokens.head?.map Prod.snd).getD 1) assignments words others, left)

/-- Words up to the end of a list of words. -/
def wordList : Tokens → List Word × Tokens
  | (.word w, _) :: rest =>
    let (words, left) := wordList rest
    (w :: words, left)
  | tokens => ([], tokens)

/-- The patterns of an arm, and the tokens after their parenthesis. -/
def patterns? : Tokens → Option (List Word × Tokens)
  | (.word w, _) :: (.operator .bar, _) :: rest => do
    let (others, left) ← patterns? rest
    some (w :: others, left)
  | (.word w, _) :: (.operator .closeParen, _) :: rest => some ([w], rest)
  | _ => none

mutual

/-- Commands one after the other. -/
def list? : Nat → Tokens → Option (Script × Tokens)
  | 0, _ => none
  | fuel + 1, tokens =>
    let tokens := skipSeparators tokens
    if atEnd tokens then some (.nothing, tokens)
    else do
      let (first, left) ← andOr? fuel tokens
      match left with
      | (.operator .semicolon, _) :: _ | (.operator .newline, _) :: _
      | (.operator .ampersand, _) :: _ =>
        let (rest, left) ← list? fuel left
        some (.sequence first rest, left)
      | _ => some (first, left)

/-- Commands joined by the success or failure of those before. -/
def andOr? : Nat → Tokens → Option (Script × Tokens)
  | 0, _ => none
  | fuel + 1, tokens => do
    let (first, left) ← pipeline? fuel tokens
    andOrRest? fuel first left

/-- What is joined to a command. -/
def andOrRest? : Nat → Script → Tokens → Option (Script × Tokens)
  | 0, _, _ => none
  | fuel + 1, first, tokens =>
    match tokens with
    | (.operator .andThen, _) :: rest => do
      let (second, left) ← pipeline? fuel (skipBreaks rest)
      andOrRest? fuel (.both first second) left
    | (.operator .orElse, _) :: rest => do
      let (second, left) ← pipeline? fuel (skipBreaks rest)
      andOrRest? fuel (.either first second) left
    | _ => some (first, tokens)

/-- Commands of which each feeds the next. -/
def pipeline? : Nat → Tokens → Option (Script × Tokens)
  | 0, _ => none
  | fuel + 1, tokens =>
    match after? "!" tokens with
    | some rest => do
      let (body, left) ← pipeline? fuel rest
      some (.negate body, left)
    | none => do
      let (first, left) ← command? fuel tokens
      match left with
      | (.operator .bar, _) :: rest =>
        let (second, left) ← pipeline? fuel (skipBreaks rest)
        some (.pipe first second, left)
      | _ => some (first, left)

/-- One command with its redirections. -/
def command? : Nat → Tokens → Option (Script × Tokens)
  | 0, _ => none
  | fuel + 1, tokens =>
    match compound? fuel tokens with
    | some (body, left) =>
      match redirections left with
      | ([], left) => some (body, left)
      | (others, left) => some (.redirected body others, left)
    | none => if atEnd tokens || startsCompound tokens then none else simpleCommand? tokens

/-- A command that holds others. -/
def compound? : Nat → Tokens → Option (Script × Tokens)
  | 0, _ => none
  | fuel + 1, tokens =>
    match tokens with
    | (.operator .openParen, _) :: rest => do
      let (body, left) ← list? fuel rest
      match left with
      | (.operator .closeParen, _) :: left => some (.apart body, left)
      | _ => none
    | (.word name, _) :: (.operator .openParen, _) :: (.operator .closeParen, _) :: rest => do
      let (body, left) ← command? fuel (skipBreaks rest)
      some (.define (← bareWord? name) body, left)
    | (.word w, _) :: rest =>
      match (bareWord? w).map String.ofList with
      | some "\x7b" => do
        let (body, left) ← list? fuel rest
        some (body, ← after? "\x7d" left)
      | some "if" => conditional? fuel rest
      | some "while" => do
        let (condition, left) ← list? fuel rest
        let (body, left) ← list? fuel (← after? "do" left)
        some (.loop true condition body, ← after? "done" left)
      | some "until" => do
        let (condition, left) ← list? fuel rest
        let (body, left) ← list? fuel (← after? "do" left)
        some (.loop false condition body, ← after? "done" left)
      | some "for" =>
        match rest with
        | (.word name, _) :: rest => do
          let name ← bareWord? name
          let rest := skipBreaks rest
          let (words, left) := match after? "in" rest with
            | some rest =>
              let (words, left) := wordList rest
              (some words, left)
            | none => (none, rest)
          let (body, left) ← list? fuel (← after? "do" (skipSeparators left))
          some (.each name words body, ← after? "done" left)
        | _ => none
      | some "case" =>
        match rest with
        | (.word subject, _) :: rest => do
          arms? fuel subject (skipBreaks (← after? "in" (skipBreaks rest)))
        | _ => none
      | _ => none
    | _ => none

/-- A conditional after its first word. -/
def conditional? : Nat → Tokens → Option (Script × Tokens)
  | 0, _ => none
  | fuel + 1, tokens => do
    let (condition, left) ← list? fuel tokens
    let (yes, left) ← list? fuel (← after? "then" left)
    match after? "elif" left with
    | some left =>
      let (no, left) ← conditional? fuel left
      some (.choose condition yes no, left)
    | none =>
      match after? "else" left with
      | some left =>
        let (no, left) ← list? fuel left
        some (.choose condition yes no, ← after? "fi" left)
      | none => some (.choose condition yes .nothing, ← after? "fi" left)

/-- The arms of a choice by patterns. -/
def arms? : Nat → Word → Tokens → Option (Script × Tokens)
  | 0, _, _ => none
  | fuel + 1, subject, tokens =>
    match after? "esac" tokens with
    | some left => some (.nothing, left)
    | none => do
      let tokens := match tokens with
        | (.operator .openParen, _) :: rest => rest
        | _ => tokens
      let (patterns, left) ← patterns? tokens
      let (body, left) ← list? fuel left
      let left := match left with
        | (.operator .doubleSemicolon, _) :: rest => rest
        | _ => left
      let (otherwise, left) ← arms? fuel subject (skipBreaks left)
      some (.matching subject patterns body otherwise, left)

end

/-- The script that a text spells. -/
def parse? (text : Octets) : Option Script := do
  let tokens ← tokens? text
  match ← list? (8 * tokens.length + 8) tokens with
  | (script, []) => some script
  | _ => none

end Relift.Shell
