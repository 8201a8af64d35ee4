import Relift.Run.Event
import Relift.Text.Seconds

/-!
# Progress

How events are shown while they happen: as lines on the console, or not at
all.  The output of a failing tool is shown in either style, and so are log
records.
-/

namespace Relift

/-- One thing that a program puts out. -/
inductive Output where
  | log (level : Level) (text : String)
  | console (text : String)
  | answer (text : String)
deriving DecidableEq

/-- How much of a run is shown. -/
inductive ProgressStyle where
  | console
  | silent
deriving DecidableEq

namespace ProgressStyle

/-- The lines that accompany the course of a stage. -/
def stageLine : Event → List String
  | .started stage => [stage.description ++ "...\n"]
  | .finished stage elapsed =>
    ["✓ " ++ stage.description ++ " (" ++ Text.seconds elapsed ++ "s)\n"]
  | .failed stage error => ["✗ " ++ stage.description ++ ": " ++ error.message ++ "\n"]
  | _ => []

/-- What does not depend on the style. -/
def always : Event → List Output
  | .state state => [.log .debug ("state -> " ++ state.display)]
  | .toolOutput tool log => [.console (tool ++ " output:\n" ++ log ++ "\n")]
  | .note (.log level text) => [.log level text]
  | _ => []

/-- What is put out for an event. -/
def render (style : ProgressStyle) (event : Event) : List Output :=
  match style with
  | console => (stageLine event).map .console ++ always event
  | silent => always event

end ProgressStyle

end Relift
