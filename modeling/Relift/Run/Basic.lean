import Relift.Recovery
import Relift.Run.Report
import Relift.SymbolSource

/-!
# Runs

A run takes an executable through the five stages and leaves an object file.
The first stage that fails ends it, and nothing is tried again.  The workspace
of the run is a scratch directory that is removed on every way out.
-/

namespace Relift

/-- The collaborators of a run. -/
structure Toolchain (σ : Type) where
  source : SymbolSource σ
  engine : Engine σ
  lifter : Lifter σ
  compiler : Compiler σ

/-- What is to be done. -/
structure RunRequest where
  imagePath : String
  outputPath : String
  extraSeeds : List Address
  policy : CollisionPolicy

namespace Run

variable {σ α : Type}

/-- The events at the end of a stage that fails. -/
def failureEvents (failure : RunFailure) : List Event :=
  [.failed failure.stage failure.error] ++
    (failure.error.toolOutput?.elim [] fun (tool, log) => [.toolOutput tool log]) ++
    [.note (.error failure.message), .state failure.state]

/-- Runs one stage after those completed before it. -/
def runStage (host : Host σ) (completed : List Stage) (stage : Stage)
    (body : Activity σ Event Error α) : Activity σ Event RunFailure (α × List Stage) := do
  Activity.reportAll [.state (.running stage), .started stage]
  let start ← Activity.inspect fun s => .ok (host.clock s)
  match ← body.settle with
  | .ok value =>
    let stop ← Activity.inspect fun s => .ok (host.clock s)
    Activity.report (.finished stage (stop - start))
    pure (value, completed ++ [stage])
  | .error error =>
    Activity.reportAll (failureEvents ⟨stage, error⟩)
    Activity.fail ⟨stage, error⟩

/-- Reads the executable and correlates its symbols. -/
def extractBody (host : Host σ) (source : SymbolSource σ) (imagePath : String)
    (extraSeeds : List Address) (policy : CollisionPolicy) :
    Activity σ Event Error (CodeImage × Correlation) := do
  let (image, symbols) ← (Image.readExecutable host source imagePath).noted
  let (correlation, notes) ← Activity.ofExcept (Correlation.ofSymbols symbols extraSeeds policy)
  Activity.reportAll (notes.map .note)
  pure (image, correlation)

/-- Recovers the blocks in the workspace. -/
def recoverBody (host : Host σ) (engine : Engine σ) (imagePath : String) (image : CodeImage)
    (seeds : SeedSet) (workspace : Workspace) : Activity σ Event Error BlockList := do
  (Activity.perform (host.makeDirectories workspace.recovery)).mapError
    (Error.io ("Failed to create " ++ workspace.recovery))
  BlockList.recover host engine imagePath image seeds workspace.recovery

/-- Writes code, blocks and names into the workspace. -/
def writeWorkspace (host : Host σ) (workspace : Workspace) (image : CodeImage) (blocks : BlockList)
    (names : NameMap) : Activity σ Note Error Unit := do
  CodeFile.write host workspace.code image.code
  AddressFile.write host workspace.blocks blocks.addresses
  NameMapFile.write host workspace.names names

/-- Has the files of the workspace lifted. -/
def liftBody (lifter : Lifter σ) (loadAddress : Address) (workspace : Workspace) :
    Activity σ Event Error String :=
  let request : LiftingJob := {
    codePath := workspace.code
    loadAddress
    blocksPath := workspace.blocks
    namesPath := workspace.names
    irPath := workspace.ir }
  Activity.called (.lift request) (lifter.lift request)

/-- Has a lifted program compiled. -/
def recompileBody (compiler : Compiler σ) (irPath objectPath : String) :
    Activity σ Event Error String :=
  let request : CompilationJob := { irPath, objectPath }
  Activity.called (.recompile request) (compiler.recompile request)

/-- The five stages in a workspace, for absolute paths. -/
def runIn (host : Host σ) (tools : Toolchain σ) (request : RunRequest)
    (imagePath objectPath : String) (workspace : Workspace) :
    Activity σ Event RunFailure Report := do
  Activity.report (.note (.debug ("workspace at " ++ workspace.root)))
  let ((image, correlation), completed) ← runStage host [] .extract
    (extractBody host tools.source imagePath request.extraSeeds request.policy)
  let (blocks, completed) ← runStage host completed .recover
    (recoverBody host tools.engine imagePath image correlation.seeds workspace)
  let ((), completed) ← runStage host completed .serialize
    (writeWorkspace host workspace image blocks correlation.names).noted
  let (irPath, completed) ← runStage host completed .lift
    (liftBody tools.lifter image.loadAddress workspace)
  let (objectPath, completed) ← runStage host completed .recompile
    (recompileBody tools.compiler irPath objectPath)
  Activity.report (.state .done)
  pure {
    state := .done
    loadAddress := image.loadAddress
    codeSize := UInt64.ofNat image.code.length
    seedCount := UInt64.ofNat correlation.seeds.size
    blockCount := UInt64.ofNat blocks.size
    nameCount := UInt64.ofNat correlation.names.size
    objectPath
    stagesCompleted := completed }

/-- What has to be settled before the first stage: absolute paths of the
executable and of the object file, and the workspace. -/
def prepare (host : Host σ) (request : RunRequest) :
    Activity σ Event Error (String × String × Workspace) := do
  let imagePath ← Activity.inspect fun s => host.absolute s request.imagePath
  let objectPath ← Activity.inspect fun s => host.absolute s request.outputPath
  let root ← (Activity.perform fun s =>
    host.makeScratch (host.temporaryDirectory s) "uwin-lift-" s).mapError
      (Error.io "Failed to create temporary workspace")
  pure (imagePath, objectPath, ⟨root⟩)

end Run

/-- A whole run.  A failure before the first stage counts as one of that
stage. -/
def run {σ : Type} (host : Host σ) (tools : Toolchain σ) (request : RunRequest) :
    Activity σ Event RunFailure Report := do
  Activity.report (.state .init)
  match ← (Run.prepare host request).settle with
  | .error error =>
    Activity.report (.state (.failed .extract))
    Activity.fail ⟨.extract, error⟩
  | .ok (imagePath, objectPath, workspace) =>
    (Run.runIn host tools request imagePath objectPath workspace).cleanUp
      (host.removeDirectory workspace.root)

end Relift
