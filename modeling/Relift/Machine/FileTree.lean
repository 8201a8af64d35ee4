import Relift.Error
import Relift.Ordered.Map
import Relift.Path
import Relift.Text.Utf8

/-!
# File trees

A file system held in memory.  A place is the row of names that leads to it
from the root, and a tree gives some places a node.  The root is always a
directory.  Paths are followed part by part: what is not the last part has to
be a directory.

A file can have several names.  It is then kept apart from the tree, in which
all its places refer to it by a number.
-/

namespace Relift

/-- The names that lead from the root to a node. -/
abbrev Place := List String

/-- Files that are no stores of bytes. -/
inductive Device where
  /-- Holds nothing and forgets what is written to it. -/
  | null
  /-- Zeros without end. -/
  | zeros
  /-- The output of the process that writes to it. -/
  | output
  /-- The errors of the process that writes to it. -/
  | errors
deriving DecidableEq

/-- What can stand at a place. -/
inductive Node where
  | directory
  | file (content : Bytes) (executable : Bool)
  /-- A program of the system, known by its name. -/
  | program (name : String)
  | device (device : Device)
deriving DecidableEq

/-- What a directory has under a name. -/
inductive Entry where
  | own (node : Node)
  /-- A file that may have other names as well. -/
  | shared (number : Nat)
deriving DecidableEq

/-- Nodes at places. -/
structure FileTree where
  entries : Ordered.Map Place Entry
  /-- The files with several names, by their numbers. -/
  files : List Node

namespace FileTree

/-- The tree that holds only the root. -/
def empty : FileTree :=
  ⟨.empty, []⟩

/-- The node that an entry stands for. -/
def nodeOf (tree : FileTree) : Entry → Node
  | .own node => node
  | .shared number => tree.files.getD number (.file [] false)

/-- The node at a place. -/
def node? (tree : FileTree) (place : Place) : Option Node :=
  if place.isEmpty then some .directory else (tree.entries.get? place).map tree.nodeOf

/-- Whether a place is a directory. -/
def isDirectory (tree : FileTree) (place : Place) : Bool :=
  tree.node? place == some .directory

/-- The tree with an entry at a place. -/
def enter (tree : FileTree) (place : Place) (entry : Entry) : FileTree :=
  { tree with entries := tree.entries.insert place entry }

/-- The tree with a new node at a place. -/
def set (tree : FileTree) (place : Place) (node : Node) : FileTree :=
  tree.enter place (.own node)

/-- The tree in which the file at a place is another, under all its names. -/
def replace (tree : FileTree) (place : Place) (node : Node) : FileTree :=
  match tree.entries.get? place with
  | some (.shared number) => { tree with files := tree.files.set number node }
  | _ => tree.set place node

/-- The tree in which the file at a place has another name. -/
def link (tree : FileTree) (place name : Place) : FileTree :=
  match tree.entries.get? place with
  | none => tree
  | some (.shared number) => tree.enter name (.shared number)
  | some (.own node) =>
    let number := tree.files.length
    ({ tree with files := tree.files ++ [node] }.enter place (.shared number)).enter name
      (.shared number)

/-- Whether two places are names of one file. -/
def sameFile (tree : FileTree) (place other : Place) : Bool :=
  place = other ||
    match tree.entries.get? place, tree.entries.get? other with
    | some (.shared number), some (.shared number') => number = number'
    | _, _ => false

/-- The tree without a place and all below it. -/
def remove (tree : FileTree) (place : Place) : FileTree :=
  { tree with entries := tree.entries.filter fun other _ => !place.isPrefixOf other }

/-- The names in a directory, ascending. -/
def children (tree : FileTree) (place : Place) : List String :=
  tree.entries.keys.filterMap fun other =>
    if other.dropLast = place then other.getLast? else none

/-- Whether nothing stands at a place or below it. -/
def isVacant (tree : FileTree) (place : Place) : Bool :=
  !place.isEmpty && tree.entries.keys.all fun other => !place.isPrefixOf other

/-- That a place can be passed through. -/
def requireDirectory (tree : FileTree) (place : Place) : Except SystemError Unit :=
  match tree.node? place with
  | some .directory => .ok ()
  | some _ => .error .notDirectory
  | none => .error .notFound

/-- The place to which parts of a path lead from a place.  The place itself
need not exist, but all that is passed through must be directories. -/
def walk (tree : FileTree) : Place → List String → Except SystemError Place
  | place, [] => .ok place
  | place, part :: rest => do
    tree.requireDirectory place
    if part = "" || part = "." then walk tree place rest
    else if part = ".." then walk tree place.dropLast rest
    else walk tree (place ++ [part]) rest

/-- The parts of a path between its slashes. -/
def pathParts (path : String) : List String :=
  (Path.splitSlashes path.toList).map String.ofList

/-- The place that a path names, seen from a working directory. -/
def resolve (tree : FileTree) (base : Place) (path : String) : Except SystemError Place :=
  if path.isEmpty then .error .notFound
  else tree.walk (if Path.isAbsolute path then [] else base) (pathParts path)

/-- The place and the node that a path names. -/
def lookup (tree : FileTree) (base : Place) (path : String) :
    Except SystemError (Place × Node) := do
  let place ← tree.resolve base path
  match tree.node? place with
  | some node => .ok (place, node)
  | none => .error .notFound

/-- Whether a path names a regular file. -/
def isFileAt (tree : FileTree) (base : Place) (path : String) : Bool :=
  match tree.lookup base path with
  | .ok (_, .file _ _) => true
  | .ok (_, .program _) => true
  | _ => false

/-- Whether a path names a directory. -/
def isDirectoryAt (tree : FileTree) (base : Place) (path : String) : Bool :=
  match tree.lookup base path with
  | .ok (_, .directory) => true
  | _ => false

/-- The content of the file that a path names. -/
def read (tree : FileTree) (base : Place) (path : String) : Except SystemError Bytes := do
  match ← tree.lookup base path with
  | (_, .directory) => .error .isDirectory
  | (_, .file content _) => .ok content
  | _ => .ok []

/-- A path without the slashes at its end. -/
def trimSlashes (path : String) : String :=
  let kept := (path.toList.reverse.dropWhile (· == '/')).reverse
  if kept.isEmpty && !path.isEmpty then "/" else String.ofList kept

/-- The place of a file that is to be written.  A path that ends with a slash
names no file. -/
def writablePlace (tree : FileTree) (base : Place) (path : String) : Except SystemError Place := do
  let place ← tree.resolve base (trimSlashes path)
  match tree.node? place with
  | some .directory => .error .isDirectory
  | some _ => if trimSlashes path = path then .ok place else .error .notDirectory
  | none => if trimSlashes path = path then .ok place else .error .isDirectory

/-- The tree in which the file at a place has a content; it stays executable
if it was. -/
def setContent (tree : FileTree) (place : Place) (content : Bytes) : FileTree :=
  match tree.node? place with
  | some (.file _ executable) => tree.replace place (.file content executable)
  | some (.device _) => tree
  | _ => tree.set place (.file content false)

/-- Gives the file that a path names a content. -/
def write (tree : FileTree) (base : Place) (path : String) (content : Bytes) :
    Except SystemError FileTree := do
  return tree.setContent (← tree.writablePlace base path) content

/-- Makes a directory. -/
def makeDirectory (tree : FileTree) (base : Place) (path : String) :
    Except SystemError FileTree := do
  let place ← tree.resolve base (trimSlashes path)
  if tree.isVacant place then .ok (tree.set place .directory) else .error .alreadyExists

/-- Makes the directories that parts of a path lead through, as far as they are
missing. -/
def makeAlong (tree : FileTree) : Place → List String → Except SystemError FileTree
  | place, [] => do
    tree.requireDirectory place
    return tree
  | place, part :: rest => do
    tree.requireDirectory place
    if part = "" || part = "." then makeAlong tree place rest
    else if part = ".." then makeAlong tree place.dropLast rest
    else
      let next := place ++ [part]
      match tree.node? next with
      | none => makeAlong (tree.set next .directory) next rest
      | some .directory => makeAlong tree next rest
      | some _ => .error (if rest.isEmpty then .alreadyExists else .notDirectory)

/-- Makes a directory and those above it. -/
def makeDirectories (tree : FileTree) (base : Place) (path : String) :
    Except SystemError FileTree :=
  if path.isEmpty then .ok tree
  else tree.makeAlong (if Path.isAbsolute path then [] else base) (pathParts path)

/-- The absolute path of a place. -/
def pathOf (place : Place) : String :=
  if place.isEmpty then "/" else String.join (place.map ("/" ++ ·))

end FileTree

end Relift
