import Relift.CommandLine.Arguments
import Relift.Machine.Basic

/-!
# Surveys

The program runs on a machine in memory.  A survey says which files and
directories of the real system that machine needs, and afterwards which files
have changed.
-/

namespace Relift

namespace Invocation

/-- The paths that a command line names itself. -/
def namedPaths : Invocation → List String
  | .version => []
  | .lift options _ =>
    [options.imagePath] ++ options.extraSeedsFile.toList ++ options.symbolMap.toList ++
      options.settingsFile.toList

/-- The locations of the tools, as far as they can be settled. -/
def settledTools (m : Machine) (options : CommandOptions) : Option ToolSettings :=
  let file := match options.settingsFile with
    | some path => (SettingsFile.read Machine.host m path).toOption
    | none => some SettingsFile.empty
  file.bind fun file =>
    (ToolSettings.ofSources file (Machine.host.installation m) (Machine.host.environment m)).toOption

/-- The files of the tools. -/
def toolPaths (m : Machine) : Invocation → List String
  | .version => []
  | .lift options _ =>
    (settledTools m options).elim [] fun settings =>
      [settings.analyzer, settings.exportScript, settings.lifter, settings.compiler,
        settings.intrinsics]

/-- The directories that must be there. -/
def directoryPaths (m : Machine) : Invocation → List String
  | .version => []
  | .lift options _ =>
    let output := (Machine.host.absolute m options.outputPath).toOption.bind Path.parent?
    output.toList ++ ((settledTools m options).map Locations.semantics).toList

end Invocation

namespace Machine

/-- A machine without files of its own. -/
def fresh (workingDirectory temporaryDirectory : String) (executable : Option String)
    (environment : List (String × String)) : Machine :=
  let made (tree : FileTree) (path : String) : FileTree :=
    match tree.makeDirectories [] path with
    | .ok tree => tree
    | .error _ => tree
  let tree := made (made systemTree workingDirectory) temporaryDirectory
  { tree
    place := (tree.resolve [] workingDirectory).toOption.getD []
    environment
    temporaryDirectory
    executable }

/-- The machine with a directory. -/
def withDirectory (m : Machine) (path : String) : Machine :=
  (m.change (m.tree.makeDirectories m.place path)).2

/-- The machine with a file; one that begins as a script can be executed. -/
def withFile (m : Machine) (path : String) (content : Bytes) : Machine :=
  let m := m.withDirectory ((Path.parent? path).getD ".")
  match m.tree.writablePlace m.place path with
  | .ok place => { m with tree := m.tree.set place (.file content (interpreterLine? content).isSome) }
  | .error _ => m

/-- The files that one machine has and another has not, or not with the same
content. -/
def changedFiles (before after : Machine) : List (String × Bytes) :=
  after.tree.entries.toList.filterMap fun (place, entry) =>
    match after.tree.nodeOf entry with
    | .file content executable =>
      if before.tree.node? place = some (.file content executable) then none
      else some (FileTree.pathOf place, content)
    | _ => none

end Machine

end Relift
