import Relift.CommandLine.Program
import Relift.CommandLine.Survey

/-!
# Entry point

Brings the files that a command line needs into memory, runs the program there,
and brings the results back.  Nothing is decided here.
-/

namespace Relift

/-- Brings real files into a machine, as far as they can be read. -/
def bringFiles (m : Machine) (paths : List String) : IO Machine :=
  paths.foldlM (fun m (path : String) => do
    try
      let content ← IO.FS.readBinFile path
      return m.withFile path content.toList
    catch _ => return m) m

/-- Brings real directories into a machine, without what they hold. -/
def bringDirectories (m : Machine) (paths : List String) : IO Machine := do
  let working ← IO.currentDir
  paths.foldlM (fun m (path : String) => do
    if ← (working / path).isDir then return m.withDirectory path else return m) m

/-- The environment variables that count. -/
def readEnvironment : IO (List (String × String)) :=
  (Location.all.map Location.environmentKey ++ [packageVariable]).filterMapM fun key => do
    return (← IO.getEnv key).map fun value => (key, value)

/-- A machine like the real system, before any files are brought. -/
def realMachine : IO Machine := do
  let working ← IO.currentDir
  let program ← IO.appPath
  let temporary ← IO.getEnv "TMPDIR"
  return Machine.fresh working.toString (temporary.getD "/tmp")
    (some program.toString) (← readEnvironment)

end Relift

open Relift in
/-- The program. -/
def main (words : List String) : IO UInt32 := do
  let machine ← realMachine
  let machine ← match Invocation.ofArguments? words with
    | none => pure machine
    | some invocation => do
      let machine ← bringFiles machine invocation.namedPaths
      let machine ← bringFiles machine (invocation.toolPaths machine)
      bringDirectories machine (invocation.directoryPaths machine)
  let (result, after) := runProgram Machine.host words machine
  for (path, content) in machine.changedFiles after do
    IO.FS.writeBinFile path (ByteArray.mk content.toArray)
  IO.eprint result.errors
  IO.print result.output
  return UInt32.ofNat result.code
