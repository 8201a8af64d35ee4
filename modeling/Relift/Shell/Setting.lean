import Relift.Machine.FileTree
import Relift.Shell.Format
import Relift.Shell.Pattern

/-!
# Settings of utilities

What a utility starts with and what it leaves, and how most of them go through
the files they are given.
-/

namespace Relift.Shell

/-- What a utility starts with. -/
structure Setting where
  tree : FileTree
  /-- The working directory. -/
  place : Place
  input : Octets

/-- What a utility leaves. -/
structure Effect where
  tree : FileTree
  output : Octets := []
  errors : Octets := []
  status : Nat := 0

namespace Setting

/-- The effect of an output alone. -/
def puts (s : Setting) (output : Octets) : Effect :=
  { tree := s.tree, output }

/-- The effect of a complaint. -/
def complains (s : Setting) (message : String) : Effect :=
  { tree := s.tree, errors := Octets.ofText (message ++ "\n"), status := 1 }

/-- The effect of a status alone. -/
def ends (s : Setting) (status : Nat) : Effect :=
  { tree := s.tree, status }

end Setting

namespace Effect

/-- An effect followed by another on the tree it left; the first failure
counts. -/
def andThen (first : Effect) (next : FileTree → Effect) : Effect :=
  let second := next first.tree
  { tree := second.tree
    output := first.output ++ second.output
    errors := first.errors ++ second.errors
    status := if first.status = 0 then second.status else first.status }

end Effect

/-- The wording of a system error in complaints. -/
def complaint (e : SystemError) : String :=
  match e with
  | .notFound => "No such file or directory"
  | .denied => "Permission denied"
  | .alreadyExists => "File exists"
  | .notDirectory => "Not a directory"
  | .isDirectory => "Is a directory"
  | .notEmpty => "Directory not empty"
  | e => e.message

/-- The options at the beginning of arguments, and the others. -/
def splitOptions (arguments : List Octets) : Octets × List Octets :=
  let options := arguments.takeWhile fun a => a.head? == some '-' && 1 < a.length && a != ['-', '-']
  let rest := arguments.drop options.length
  (options.flatMap (·.drop 1), if rest.head? == some ['-', '-'] then rest.drop 1 else rest)

/-- The last part of a path. -/
def baseName (path : Octets) : Octets :=
  match (Path.splitSlashes path).filter (!·.isEmpty) with
  | [] => if path.isEmpty then [] else ['/']
  | parts => parts.getLastD []

/-- A path without its last part. -/
def directoryName (path : Octets) : Octets :=
  let trimmed := (path.reverse.dropWhile (· == '/')).reverse
  let parent := (trimmed.reverse.dropWhile (· != '/')).dropWhile (· == '/')
  if !parent.isEmpty then parent.reverse
  else if path.head? == some '/' then ['/']
  else ['.']

/-- The lines of a text, each with the break that ends it. -/
def linesWithBreaks : Octets → List Octets
  | [] => []
  | c :: rest =>
    if c = '\n' then [c] :: linesWithBreaks rest
    else
      match linesWithBreaks rest with
      | [] => [[c]]
      | line :: others => (c :: line) :: others

/-- A line without the break at its end. -/
def bareLine (line : Octets) : Octets :=
  if line.getLast? == some '\n' then line.dropLast else line

/-- Works on the content of each named file, or on the input if none is
named. -/
def overInputs (s : Setting) (tool : String) (names : List Octets) (work : Octets → Octets) :
    Effect :=
  if names.isEmpty then s.puts (work s.input)
  else
    names.foldl (fun effect name =>
      effect.andThen fun tree =>
        let path := Octets.toText name
        if name == ['-'] then { tree, output := work s.input }
        else
          match tree.read s.place path with
          | .ok content => { tree, output := work (Octets.ofBytes content) }
          | .error e =>
            { tree, status := 1, errors := Octets.ofText (tool ++ ": " ++ path ++ ": " ++
              complaint e ++ "\n") })
      (s.ends 0)

end Relift.Shell
