import Relift.Host
import Relift.Machine.FileTree
import Relift.Shell.Interpreter

/-!
# Machines

A host held in memory: a file tree, a working directory, variables and the
programs that scripts need.  Whatever a run does on it can be computed.
-/

namespace Relift

/-- The state of a machine. -/
structure Machine where
  tree : FileTree
  /-- The working directory, which need not exist any more. -/
  place : Place
  environment : List (String × String)
  temporaryDirectory : String
  /-- The path of the program itself. -/
  executable : Option String
  /-- The time in nanoseconds. -/
  time : Nat := 0

namespace Machine

/-- The programs that every machine has. -/
def programNames : List String :=
  ["sh", "dash"] ++ Shell.utilities.map Prod.fst

/-- The files that every machine has. -/
def systemTree : FileTree :=
  let directories : List Place := [["bin"], ["dev"], ["tmp"], ["usr"], ["usr", "bin"]]
  let withDirectories := directories.foldl (fun tree place => tree.set place .directory) FileTree.empty
  let devices : List (String × Device) :=
    [("null", .null), ("zero", .zeros), ("stdout", .output), ("stderr", .errors)]
  let withDevices := devices.foldl
    (fun tree (name, device) => tree.set ["dev", name] (.device device)) withDirectories
  programNames.foldl (fun tree name =>
    (tree.set ["bin", name] (.program name)).set ["usr", "bin", name] (.program name)) withDevices

/-- The directories in which programs are looked for. -/
def searchPath : List Place :=
  [["usr", "bin"], ["bin"]]

/-- The path of the working directory. -/
def workingDirectory (m : Machine) : Except SystemError String :=
  if m.tree.isDirectory m.place then .ok (FileTree.pathOf m.place) else .error .notFound

/-- The machine after a change of its files that may fail. -/
def change (m : Machine) (result : Except SystemError FileTree) :
    Except SystemError Unit × Machine :=
  match result with
  | .ok tree => (.ok (), { m with tree })
  | .error e => (.error e, m)

/-- The ending of the name of a scratch directory: a number with six
digits. -/
def scratchEnding (n : Nat) : String :=
  let digits := Nat.toDigits 10 n
  String.ofList (List.replicate (6 - digits.length) '0' ++ digits)

/-- The first of the possible scratch paths that is free. -/
def scratchPath (m : Machine) (directory label : String) : String :=
  let path (n : Nat) := Path.join directory (label ++ scratchEnding n)
  let isFree (n : Nat) := (m.tree.lookup m.place (path n)).toOption.isNone
  path (((List.range (m.tree.entries.size + 1)).find? isFree).getD 0)

/-- Makes a scratch directory. -/
def makeScratch (directory label : String) (m : Machine) : Except SystemError String × Machine :=
  let base :=
    if Path.isAbsolute directory then .ok directory
    else m.workingDirectory.map fun working => Path.join working directory
  match base with
  | .error e => (.error e, m)
  | .ok base =>
    let path := m.scratchPath base label
    match m.tree.makeDirectory m.place path with
    | .ok tree => (.ok path, { m with tree })
    | .error e => (.error (.atPath e path), m)

/-- Removes a directory with all that it holds. -/
def removeDirectory (path : String) (m : Machine) : Machine :=
  match m.tree.lookup m.place path with
  | .ok (place, .directory) => { m with tree := m.tree.remove place }
  | _ => m

/-- The node of a program: a name without a slash is looked for in the search
path. -/
def findNode (m : Machine) (base : Place) (program : String) : Except SystemError Node :=
  if program.contains '/' then (m.tree.lookup base program).map Prod.snd
  else if program.isEmpty then .error .notFound
  else
    match searchPath.findSome? fun directory => m.tree.node? (directory ++ [program]) with
    | some node => .ok node
    | none => .error .notFound

/-- The first line of a script, after its mark: the interpreter and its
argument. -/
def interpreterLine? (content : Bytes) : Option (List Shell.Octets) :=
  match Shell.Octets.ofBytes content with
  | '#' :: '!' :: rest =>
    let line := rest.takeWhile (· != '\n')
    some ((Shell.Item.fields (Shell.Item.splitting line)).map (·.map Prod.fst))
  | _ => none

/-- The words with which a program is really started: the interpreter of a
script comes first. -/
def startWords (m : Machine) (base : Place) (command : Command) :
    Except SystemError (List Shell.Octets) := do
  let arguments := command.arguments.map Shell.Octets.ofText
  match ← m.findNode base command.program with
  | .directory => .error .denied
  | .device _ => .error .denied
  | .program name => .ok (name.toList :: arguments)
  | .file _ false => .error .denied
  | .file content true =>
    match interpreterLine? content with
    | none => .error .badExecutable
    | some [] => .error .badExecutable
    | some (interpreter :: option) =>
      match ← m.findNode base (Shell.Octets.toText interpreter) with
      | .program name =>
        .ok (name.toList :: option ++ Shell.Octets.ofText command.program :: arguments)
      | _ => .error .denied

/-- The session in which a program starts. -/
def session (m : Machine) (place : Place) : Shell.Session where
  tree := m.tree
  place
  name := ['s', 'h']
  arguments := []
  bindings := m.environment.map fun (key, value) =>
    (Shell.Octets.ofText key, Shell.Octets.ofText value)
  input := []

/-- What a session has come to as the result of a process. -/
def processResult (control : Shell.Control) (s : Shell.Session) : ProcessResult where
  status :=
    match control with
    | .killed signal => .killed signal false
    | _ => .exited s.status
  output := Shell.Octets.toBytes (Shell.Session.joined s.output)
  errors := Shell.Octets.toBytes (Shell.Session.joined s.errors)

/-- Runs the words of a command: scripts in this process, other programs as
utilities. -/
def runWords (words : List Shell.Octets) (s : Shell.Session) : Shell.Control × Shell.Session :=
  match words with
  | [] => (.next, s)
  | name :: arguments =>
    if Shell.isInterpreter (String.ofList name) then
      match Shell.interpreterRequest s name arguments with
      | .ok (text, newName, newArguments) =>
        Shell.runText Shell.ampleFuel {} text { s with name := newName, arguments := newArguments }
      | .error message =>
        (.exit, (s.put .errors (name ++ [':', ' ', '0', ':', ' '] ++ message ++ ['\n'])).withStatus 2)
    else Shell.runCommand Shell.ampleFuel {} 0 name arguments s

/-- The directory in which a command runs. -/
def commandPlace (m : Machine) (command : Command) : Except SystemError Place :=
  match command.directory with
  | none => .ok m.place
  | some path => do
    match ← m.tree.lookup m.place path with
    | (place, .directory) => .ok place
    | _ => .error .notDirectory

/-- Runs a program to its end. -/
def spawn (command : Command) (m : Machine) : Except SystemError ProcessResult × Machine :=
  let words := do
    let place ← m.commandPlace command
    return (place, ← m.startWords place command)
  match words with
  | .error e => (.error e, m)
  | .ok (place, words) =>
    let (control, s) := runWords words (m.session place)
    (.ok (processResult control s), { m with tree := s.tree })

/-- The library of machines.  It gives no reasons for what it refuses. -/
def library : Library where
  readPortable bytes := (Image.Portable.parse? bytes).elim (.error "") .ok
  describeRefusal _ := ""
  describeCommand command :=
    (command.directory.elim "" fun path => "cd " ++ Text.quote path ++ " && ") ++
      " ".intercalate ((command.program :: command.arguments).map Text.quote)
  describeSettings settings :=
    "ToolConfig \x7b " ++ ", ".intercalate (Location.all.map fun location =>
      location.field ++ ": " ++ Text.quote (settings.get location)) ++ " \x7d"

/-- The operations of machines. -/
def host : Host Machine where
  library := library
  workingDirectory m := m.workingDirectory
  temporaryDirectory m := m.temporaryDirectory
  executable m := m.executable
  environment m key := m.environment.lookup key
  clock m := m.time
  isFile m path := m.tree.isFileAt m.place path
  isDirectory m path := m.tree.isDirectoryAt m.place path
  readBytes m path := m.tree.read m.place path
  writeBytes path content m := m.change (m.tree.write m.place path content)
  makeDirectories path m := m.change (m.tree.makeDirectories m.place path)
  makeScratch := makeScratch
  removeDirectory := removeDirectory
  spawn := spawn

end Machine

end Relift
