import Relift.Activity
import Relift.Host
import Relift.Json.Reader
import Relift.Note

/-!
# Settling tool locations

Each location comes from the settings file, else from its environment variable,
else from its place below the package directory.  The package directory is the
one given, else that of an environment variable.  Settled locations are checked
before anything is run.
-/

namespace Relift

/-- The environment variable of the package directory. -/
def packageVariable : String :=
  "UWIN_PKG_DIR"

/-- The error of a location without a source. -/
def Location.missing (location : Location) : Error :=
  .configuration (location.label ++ " location is not configured; set " ++ location.environmentKey ++
    " or add it to the config file")

namespace ToolSettings

/-- The path of one location. -/
def settle (file : SettingsFile) (package : Option String) (lookup : String → Option String)
    (location : Location) : Except Error String :=
  let fallback := do
    let directory ← package
    let parts ← location.packageParts
    some (Path.joinAll directory parts)
  match Locations.get file location <|> lookup location.environmentKey <|> fallback with
  | some path => .ok path
  | none => .error location.missing

/-- The paths of all locations. -/
def ofSources (file : SettingsFile) (package : Option String) (lookup : String → Option String) :
    Except Error ToolSettings :=
  Locations.build (settle file (package <|> lookup packageVariable) lookup)

variable {σ : Type}

/-- That a path is a file. -/
def demandFile (host : Host σ) (s : σ) (path name : String) : Except Error Unit :=
  if host.isFile s path then .ok ()
  else .error (.configuration (name ++ " not found at " ++ path))

/-- That a path is a directory. -/
def demandDirectory (host : Host σ) (s : σ) (path name : String) : Except Error Unit :=
  if host.isDirectory s path then .ok ()
  else .error (.configuration (name ++ " not found at " ++ path))

/-- That every location is there. -/
def check (host : Host σ) (s : σ) (settings : ToolSettings) : Except Error Unit := do
  demandFile host s settings.analyzer "analyzeHeadless"
  demandFile host s settings.exportScript exportScriptName
  demandFile host s settings.lifter "uwin-lift"
  demandFile host s settings.compiler "compiler"
  demandDirectory host s settings.semantics "semantics directory"
  demandFile host s settings.intrinsics "intrinsics bitcode"

end ToolSettings

namespace SettingsFile

variable {σ : Type}

/-- The settings file at a path. -/
def read (host : Host σ) (s : σ) (path : String) : Except Error SettingsFile :=
  match host.readText s path with
  | .error cause =>
    .error (.configuration ("Failed to read config file " ++ path ++ ": " ++ cause.message))
  | .ok text =>
    match (Json.parse? text).bind ofJson? with
    | some file => .ok file
    | none =>
      .error (.configuration ("Failed to parse config file " ++ path ++ ": " ++
        host.library.describeRefusal text))

end SettingsFile

namespace ToolSettings

variable {σ : Type}

/-- The checked locations for a run, from an optional settings file, the
environment and the installation of the program. -/
def settled (host : Host σ) (s : σ) (settingsFile : Option String) : Except Error ToolSettings := do
  let file ← match settingsFile with
    | some path => SettingsFile.read host s path
    | none => .ok SettingsFile.empty
  let settings ← ofSources file (host.installation s) (host.environment s)
  check host s settings
  .ok settings

/-- The record of the locations of a run. -/
def note (host : Host σ) (settings : ToolSettings) : Note :=
  .debug ("tool configuration: " ++ host.library.describeSettings settings)

/-- Settles the locations for a run and puts them on record. -/
def prepare (host : Host σ) (settingsFile : Option String) :
    Activity σ Note Error ToolSettings := do
  let settings ← Activity.inspect fun s => settled host s settingsFile
  Activity.report (note host settings)
  pure settings

end ToolSettings

end Relift
