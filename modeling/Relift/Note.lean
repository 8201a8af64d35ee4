import Relift.Text.Utf8

/-!
# Notes

What an activity reports on the side: log records, and what a collaborator saw
when it was asked for something.
-/

namespace Relift

/-- The weight of a log record. -/
inductive Level where
  | debug
  | info
  | warn
  | error
deriving DecidableEq

namespace Level

/-- The name of a level. -/
def name : Level → String
  | debug => "DEBUG"
  | info => "INFO"
  | warn => "WARN"
  | error => "ERROR"

end Level

/-- One thing reported on the side. -/
inductive Note where
  | log (level : Level) (text : String)
  /-- The content of a file that a collaborator looked at, if it could be
  read. -/
  | saw (label : String) (content : Option Bytes)
deriving DecidableEq

namespace Note

/-- A record that only a verbose log shows. -/
def debug (text : String) : Note :=
  log .debug text

/-- A record of the ordinary course of events. -/
def info (text : String) : Note :=
  log .info text

/-- A record of something suspicious. -/
def warn (text : String) : Note :=
  log .warn text

/-- A record of a failure. -/
def error (text : String) : Note :=
  log .error text

end Note

end Relift
