import Relift.Run.Stage
import Relift.Tool.Job

/-!
# Events

The history of a run: its states, the course of each stage, the calls of
collaborators and what was noted on the side.
-/

namespace Relift

/-- One thing that happens in a run. -/
inductive Event where
  | state (state : RunState)
  | started (stage : Stage)
  /-- A stage came to its end after some nanoseconds. -/
  | finished (stage : Stage) (elapsed : Nat)
  | failed (stage : Stage) (error : Error)
  /-- The captured output of the tool that failed. -/
  | toolOutput (tool log : String)
  /-- A collaborator was asked for something. -/
  | called (request : Job)
  | note (note : Note)
deriving DecidableEq

namespace Activity

variable {σ ε α : Type}

/-- An activity whose notes are events. -/
def noted (x : Activity σ Note ε α) : Activity σ Event ε α :=
  x.retell fun note => [.note note]

/-- The work of a collaborator on a request, with the call as an event. -/
def called (request : Job) (x : Activity σ Note ε α) : Activity σ Event ε α := do
  report (.called request)
  x.noted

end Activity

end Relift
