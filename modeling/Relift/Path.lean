/-!
# Paths

Paths are texts whose parts stand between slashes.  Joining and taking the
parent touch nothing else: repeated slashes and dots stay as they are.
-/

namespace Relift.Path

/-- The parts of a path between its slashes, empty ones included. -/
def splitSlashes : List Char → List (List Char)
  | [] => [[]]
  | c :: rest =>
    if c = '/' then [] :: splitSlashes rest
    else
      match splitSlashes rest with
      | [] => [[c]]
      | part :: parts => (c :: part) :: parts

/-- Parts with slashes between them. -/
def joinSlashes : List (List Char) → List Char
  | [] => []
  | [part] => part
  | part :: rest => part ++ '/' :: joinSlashes rest

/-- Whether a path starts at the root. -/
def isAbsolute (path : String) : Bool :=
  path.toList.head? == some '/'

/-- A path seen from a base: an absolute one stands for itself, any other is
put after the base. -/
def join (base path : String) : String :=
  if isAbsolute path || base.isEmpty then path
  else if base.toList.getLast? == some '/' then base ++ path
  else base ++ "/" ++ path

/-- A base followed by several parts. -/
def joinAll (base : String) (parts : List String) : String :=
  parts.foldl join base

/-- Whether a part names nothing: it is empty or a single dot. -/
def isIdle (part : List Char) : Bool :=
  part.isEmpty || part == ['.']

/-- The parts of a path, last first, without the idle ones at its end.  A dot
that begins a relative path is not idle. -/
def trimIdle (absolute : Bool) : List (List Char) → List (List Char)
  | [] => []
  | [part] => if part.isEmpty || (absolute && isIdle part) then [] else [part]
  | part :: rest => if isIdle part then trimIdle absolute rest else part :: rest

/-- The path without its last part, as an untouched beginning of it; the root
and the empty path have none. -/
def parent? (path : String) : Option String :=
  let absolute := isAbsolute path
  let body := if absolute then path.toList.drop 1 else path.toList
  match trimIdle absolute (splitSlashes body).reverse with
  | [] => none
  | _ :: before =>
    let kept := joinSlashes (trimIdle absolute before).reverse
    some (String.ofList (if absolute then '/' :: kept else kept))

end Relift.Path
