import Relift.Error
import Relift.Json.Decode

/-!
# Stages of a run

A run goes through five stages in a fixed order.  Its state tells where it is:
at the beginning, in a stage, done, or failed in a stage.
-/

namespace Relift

/-- The stages of a run. -/
inductive Stage where
  | extract
  | recover
  | serialize
  | lift
  | recompile
deriving DecidableEq

namespace Stage

/-- The stages, in the order in which they run. -/
def all : List Stage :=
  [extract, recover, serialize, lift, recompile]

/-- The name of a stage. -/
def name : Stage → String
  | extract => "extract"
  | recover => "recover_cfg"
  | serialize => "serialize"
  | lift => "lift"
  | recompile => "recompile"

/-- The stage of a name. -/
def ofName? (text : String) : Option Stage :=
  all.find? fun stage => stage.name == text

/-- What a stage does, as progress lines say it. -/
def description : Stage → String
  | extract => "extracting code and debug info"
  | recover => "recovering control flow"
  | serialize => "writing interchange files"
  | lift => "lifting"
  | recompile => "recompiling"

/-- The short title of a stage in log records. -/
def title : Stage → String
  | extract => "Extract"
  | recover => "RecoverCfg"
  | serialize => "Serialize"
  | lift => "Lift"
  | recompile => "Recompile"

/-- A stage as JSON. -/
def toJson (stage : Stage) : Json :=
  .text stage.name

/-- The stage that a JSON value gives. -/
def ofJson? (value : Json) : Option Stage := do
  ofName? (← Json.asChoice? value)

end Stage

/-- Where a run is. -/
inductive RunState where
  | init
  | running (stage : Stage)
  | done
  | failed (stage : Stage)
deriving DecidableEq

namespace RunState

/-- A state as log records show it. -/
def display : RunState → String
  | init => "Init"
  | running stage => "Running(" ++ stage.title ++ ")"
  | done => "Done"
  | failed stage => "Failed(" ++ stage.title ++ ")"

/-- A state as JSON. -/
def toJson : RunState → Json
  | init => .text "init"
  | running stage => .record [("running", stage.toJson)]
  | done => .text "done"
  | failed stage => .record [("failed", stage.toJson)]

/-- The state that a JSON value gives. -/
def ofJson? : Json → Option RunState
  | .object [(some "running", stage)] => (Stage.ofJson? stage).map running
  | .object [(some "failed", stage)] => (Stage.ofJson? stage).map failed
  | value =>
    match Json.asChoice? value with
    | some "init" => some init
    | some "done" => some done
    | _ => none

end RunState

/-- The failure of a stage, which is the failure of the run. -/
structure RunFailure where
  stage : Stage
  error : Error
deriving DecidableEq

namespace RunFailure

/-- The message of a failure. -/
def message (failure : RunFailure) : String :=
  failure.stage.name ++ " failed: " ++ failure.error.message

/-- The state in which a failure leaves the run. -/
def state (failure : RunFailure) : RunState :=
  .failed failure.stage

/-- The message of the failure and of what caused it, outermost first. -/
def chain (failure : RunFailure) : List String :=
  failure.message :: failure.error.chain

end RunFailure

end Relift
