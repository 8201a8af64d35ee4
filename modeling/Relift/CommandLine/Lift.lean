import Relift.Json.Printer
import Relift.Progress
import Relift.Run.Basic
import Relift.Settings.Resolve
import Relift.Tool.Process

/-!
# Lifting an executable

What the command does: it checks that everything is in place, in a fixed order,
runs the tools and tells the outcome.
-/

namespace Relift

/-- What the command is asked for. -/
structure CommandOptions where
  imagePath : String
  outputPath : String
  extraSeedsFile : Option String
  symbolMap : Option String
  settingsFile : Option String
  policy : CollisionPolicy
  silent : Bool
  json : Bool
deriving DecidableEq

/-- Why the command fails. -/
inductive LiftError where
  | imageMissing (path : String)
  | outputDirectoryMissing (directory : String)
  | outputInvalid (path : String)
  /-- A step before the run failed. -/
  | preparation (error : Error)
  | extraSeeds (path : String) (error : Error)
  | run (imagePath : String) (failure : RunFailure)
deriving DecidableEq

namespace LiftError

/-- The message of the failure and of what caused it, outermost first. -/
def chain : LiftError → List String
  | imageMissing path => ["Executable not found at " ++ path]
  | outputDirectoryMissing directory => ["Output directory " ++ directory ++ " does not exist"]
  | outputInvalid path => ["Invalid output path " ++ path]
  | preparation error => error.chain
  | extraSeeds path error =>
    ("Failed to load extra seed addresses from " ++ path) :: error.chain
  | run imagePath failure => ("Failed to lift " ++ imagePath) :: failure.chain

end LiftError

variable {σ : Type}

/-- The absolute path of the object file; its directory must be there. -/
def objectPathOf (host : Host σ) (s : σ) (path : String) : Except LiftError String :=
  match host.absolute s path with
  | .error error => .error (.preparation error)
  | .ok path =>
    match Path.parent? path with
    | none => .error (.outputInvalid path)
    | some directory =>
      if host.isDirectory s directory then .ok path else .error (.outputDirectoryMissing directory)

/-- The extra seeds of a file. -/
def extraSeedsOf (host : Host σ) (path : String) : Activity σ Note LiftError (List Address) :=
  (AddressFile.read host path).mapError (.extraSeeds path)

/-- That the executable is there. -/
def requireImage (host : Host σ) (s : σ) (path : String) : Except LiftError Unit :=
  if host.isFile s path then .ok () else .error (.imageMissing path)

/-- What a run needs: the settings of the tools and the request. -/
def prepareLift (host : Host σ) (options : CommandOptions) :
    Activity σ Note LiftError (ToolSettings × RunRequest) := do
  Activity.inspect fun s => requireImage host s options.imagePath
  let settings ← (ToolSettings.prepare host options.settingsFile).mapError .preparation
  let outputPath ← Activity.inspect fun s => objectPathOf host s options.outputPath
  let extraSeeds ← match options.extraSeedsFile with
    | some path => extraSeedsOf host path
    | none => pure []
  pure (settings, {
    imagePath := options.imagePath
    outputPath
    extraSeeds
    policy := options.policy })

/-- The symbols of the map, if one is given, and the exports. -/
def liftSource (host : Host σ) (symbolMap : Option String) : SymbolSource σ :=
  .chained ((symbolMap.map (SymbolSource.symbolMap host)).toList ++ [.exports])

/-- The tools at their settled places. -/
def liftToolchain (host : Host σ) (settings : ToolSettings) (symbolMap : Option String) :
    Toolchain σ where
  source := liftSource host symbolMap
  engine := .ghidra host settings
  lifter := .uwinLift host settings
  compiler := .uwinClang host settings

/-- How much of the run is shown. -/
def CommandOptions.style (options : CommandOptions) : ProgressStyle :=
  if options.silent then .silent else .console

/-- The line about a successful run. -/
def successLine (imagePath : String) (report : Report) : String :=
  "✓ " ++ imagePath ++ " -> " ++ report.objectPath ++ " (" ++ toString report.blockCount.toNat ++
    " blocks, " ++ toString report.nameCount.toNat ++ " names)\n"

/-- What is answered after a successful run. -/
def liftAnswer (options : CommandOptions) (report : Report) : List Output :=
  if options.json then [.answer (Json.pretty report.toJson ++ "\n")]
  else if options.silent then []
  else [.answer (successLine options.imagePath report)]

/-- Lifts an executable into an object file. -/
def liftExecutable (host : Host σ) (options : CommandOptions) :
    Activity σ Output LiftError Report := do
  let (settings, request) ← (prepareLift host options).noted.retell options.style.render
  let report ← ((run host (liftToolchain host settings options.symbolMap) request).mapError
    (LiftError.run options.imagePath)).retell options.style.render
  Activity.reportAll (liftAnswer options report)
  pure report

end Relift
