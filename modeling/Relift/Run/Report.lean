import Relift.Run.Stage

/-!
# Reports

What a successful run tells about itself.
-/

namespace Relift

/-- The summary of a run. -/
structure Report where
  state : RunState
  loadAddress : Address
  codeSize : UInt64
  seedCount : UInt64
  blockCount : UInt64
  nameCount : UInt64
  objectPath : String
  stagesCompleted : List Stage
deriving DecidableEq

namespace Report

/-- The names of the fields, in order. -/
def fields : List String :=
  ["state", "load_address", "code_size", "seed_count", "block_count", "name_map_entries",
    "object_path", "stages_completed"]

/-- A report as JSON. -/
def toJson (report : Report) : Json :=
  .record (fields.zip [report.state.toJson, .nat report.loadAddress.toNat,
    .nat report.codeSize.toNat, .nat report.seedCount.toNat, .nat report.blockCount.toNat,
    .nat report.nameCount.toNat, .text report.objectPath,
    .array (report.stagesCompleted.map Stage.toJson)])

/-- The report that a JSON value gives. -/
def ofJson? (value : Json) : Option Report := do
  match ← Json.asRecord? fields value with
  | [state, load, code, seeds, blocks, names, object, stages] =>
    some {
      state := ← Json.required? RunState.ofJson? state
      loadAddress := ← Json.required? Json.asWord? load
      codeSize := ← Json.required? Json.asWord? code
      seedCount := ← Json.required? Json.asWord? seeds
      blockCount := ← Json.required? Json.asWord? blocks
      nameCount := ← Json.required? Json.asWord? names
      objectPath := ← Json.required? Json.asText? object
      stagesCompleted := ← Json.required? (Json.asList? Stage.ofJson?) stages }
  | _ => none

end Report

end Relift
