import Relift.Error
import Relift.Image.Portable
import Relift.Settings.Basic

/-!
# Hosts

What a run needs from the system it runs on: files, scratch directories,
processes, variables and a clock.  A host is any set of such operations over
any type of states, so that nothing proved of a run depends on how a
particular system behaves.  Observations leave the state as it is.

A host also has a library, for what the program leaves to others altogether:
to take executables apart, and to find words where it has none of its own.
-/

namespace Relift

/-- A program to be started, with its arguments and, unless it is the
caller's, its working directory. -/
structure Command where
  program : String
  arguments : List String
  directory : Option String
deriving DecidableEq

/-- How a process ended. -/
inductive ExitStatus where
  | exited (code : Nat)
  | killed (signal : Nat) (coreDumped : Bool)
deriving DecidableEq

namespace ExitStatus

/-- Whether a process ended as it should. -/
def isSuccess (status : ExitStatus) : Bool :=
  status == exited 0

/-- The names of the signals, the first of which has number 1. -/
def signalNames : List String :=
  ["SIGHUP", "SIGINT", "SIGQUIT", "SIGILL", "SIGTRAP", "SIGABRT", "SIGBUS", "SIGFPE", "SIGKILL",
    "SIGUSR1", "SIGSEGV", "SIGUSR2", "SIGPIPE", "SIGALRM", "SIGTERM", "SIGSTKFLT", "SIGCHLD",
    "SIGCONT", "SIGSTOP", "SIGTSTP", "SIGTTIN", "SIGTTOU", "SIGURG", "SIGXCPU", "SIGXFSZ",
    "SIGVTALRM", "SIGPROF", "SIGWINCH", "SIGIO", "SIGPWR", "SIGSYS"]

/-- A status as messages show it. -/
def display : ExitStatus → String
  | exited code => "exit status: " ++ toString code
  | killed signal coreDumped =>
    let name := if signal = 0 then none else signalNames[signal - 1]?
    "signal: " ++ toString signal ++ (name.elim "" fun name => " (" ++ name ++ ")") ++
      if coreDumped then " (core dumped)" else ""

end ExitStatus

/-- What a finished process leaves with its caller. -/
structure ProcessResult where
  status : ExitStatus
  output : Bytes
  errors : Bytes

/-- What the program does not do itself. -/
structure Library where
  /-- The executable that bytes hold, or why they hold none. -/
  readPortable : Bytes → Except String Image.Portable
  /-- Why a text is no settings file. -/
  describeRefusal : String → String
  /-- A command, for log records. -/
  describeCommand : Command → String
  /-- The locations of the tools, for log records. -/
  describeSettings : ToolSettings → String

/-- The operations of a system whose states are of type `σ`. -/
structure Host (σ : Type) where
  library : Library
  /-- The directory from which relative paths start. -/
  workingDirectory : σ → Except SystemError String
  /-- The directory for temporary files. -/
  temporaryDirectory : σ → String
  /-- The path of the program itself, if it is known. -/
  executable : σ → Option String
  /-- The value of an environment variable. -/
  environment : σ → String → Option String
  /-- Nanoseconds since some moment in the past. -/
  clock : σ → Nat
  isFile : σ → String → Bool
  isDirectory : σ → String → Bool
  readBytes : σ → String → Except SystemError Bytes
  /-- Gives a file a content, whether it exists or not. -/
  writeBytes : String → Bytes → σ → Except SystemError Unit × σ
  /-- Makes a directory and those above it, as far as they are missing. -/
  makeDirectories : String → σ → Except SystemError Unit × σ
  /-- Makes a directory of a new name, in a given directory and with a given
  beginning of the name, and tells its path. -/
  makeScratch : (directory label : String) → σ → Except SystemError String × σ
  /-- Removes a directory with all that it holds. -/
  removeDirectory : String → σ → σ
  /-- Runs a program to its end. -/
  spawn : Command → σ → Except SystemError ProcessResult × σ

namespace Host

variable {σ : Type}

/-- The directory in which the program is installed: it lies in a directory of
that one. -/
def installation (host : Host σ) (s : σ) : Option String := do
  let program ← host.executable s
  let directory ← Path.parent? program
  Path.parent? directory

/-- The text of a file. -/
def readText (host : Host σ) (s : σ) (path : String) : Except SystemError String := do
  match Text.ofUtf8? (← host.readBytes s path) with
  | some text => .ok text
  | none => .error .notText

/-- A path made absolute. -/
def absolute (host : Host σ) (s : σ) (path : String) : Except Error String :=
  if Path.isAbsolute path then .ok path
  else
    match host.workingDirectory s with
    | .ok directory => .ok (Path.join directory path)
    | .error cause => .error (.io "Failed to get current directory" cause)

end Host

end Relift
