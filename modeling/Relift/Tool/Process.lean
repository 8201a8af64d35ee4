import Relift.Host
import Relift.Settings.Basic
import Relift.Tool.Job

/-!
# External tools

The collaborators that are programs of their own.  A tool is started with a
command, its output is kept as a log, and it has done its work only if it ended
with success and left the file it was asked for.
-/

namespace Relift

variable {σ : Type}

namespace ProcessResult

/-- What a process wrote, first its output, then its errors.  Bytes that are
no text are replaced. -/
def log (result : ProcessResult) : String :=
  Text.ofUtf8Lossy result.output ++ Text.ofUtf8Lossy result.errors

end ProcessResult

/-- Runs a tool to its end and gives its log. -/
def runTool (host : Host σ) (tool : String) (command : Command) :
    Activity σ Note Error String := do
  Activity.report (.debug ("running " ++ tool ++ ": " ++ host.library.describeCommand command))
  match ← (Activity.perform (host.spawn command)).settle with
  | .error cause => Activity.fail (.externalTool tool "failed to spawn" cause.message)
  | .ok result =>
    if result.status.isSuccess then pure result.log
    else
      Activity.report (.error (tool ++ " exited with " ++ result.status.display))
      Activity.fail (.externalTool tool result.status.display result.log)

/-- That a tool has left a file. -/
def requireProduct (host : Host σ) (tool path log : String) : Activity σ Note Error Unit :=
  Activity.inspect fun s =>
    if host.isFile s path then .ok ()
    else .error (.externalTool tool ("exited successfully but produced no " ++ path) log)

/-- Runs a tool that is to leave a file. -/
def runForProduct (host : Host σ) (tool : String) (command : Command) (path : String) :
    Activity σ Note Error Unit := do
  let log ← runTool host tool command
  requireProduct host tool path log

namespace Engine

/-- The command of the analyzer. -/
def command (settings : ToolSettings) (request : RecoveryJob) : Command where
  program := settings.analyzer
  arguments :=
    [request.workDirectory, "uwin_project", "-import", request.imagePath, "-deleteProject",
      "-postScript", ToolSettings.exportScriptName, request.resultPath, request.seedsPath,
      "-scriptPath", settings.scripts]
  directory := some request.workDirectory

/-- The analyzer, run without its windows. -/
def ghidra (host : Host σ) (settings : ToolSettings) : Engine σ where
  name := "ghidra"
  recover request := runForProduct host "ghidra" (command settings request) request.resultPath

end Engine

namespace Lifter

/-- The command of the lifter. -/
def command (settings : ToolSettings) (request : LiftingJob) : Command where
  program := settings.lifter
  arguments :=
    ["--code_filename", request.codePath, "--code_address", Address.decimal request.loadAddress,
      "--basic_blocks_filename", request.blocksPath, "--name_map_filename", request.namesPath,
      "--ir_out", request.irPath, "--semantics_search_paths", settings.semantics,
      "--intrinsics_filename", settings.intrinsics]
  directory := none

/-- The lifter program. -/
def uwinLift (host : Host σ) (settings : ToolSettings) : Lifter σ where
  name := "uwin-lift"
  lift request := do
    runForProduct host "uwin-lift" (command settings request) request.irPath
    pure request.irPath

end Lifter

namespace Compiler

/-- The command of the compiler. -/
def command (settings : ToolSettings) (request : CompilationJob) : Command where
  program := settings.compiler
  arguments := [request.irPath, "-c", "-O3", "-fPIC", "-o", request.objectPath]
  directory := none

/-- The compiler program. -/
def uwinClang (host : Host σ) (settings : ToolSettings) : Compiler σ where
  name := "uwin-clang"
  recompile request := do
    runForProduct host "uwin-clang" (command settings request) request.objectPath
    pure request.objectPath

end Compiler

end Relift
