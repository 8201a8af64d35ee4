import Relift.Json.Decode
import Relift.Path

/-!
# Tool locations

A run needs six locations.  `Locations α` holds one thing for each of them: a
path once everything is settled, or an optional path in a settings file.
-/

namespace Relift

/-- A place that a run has to know. -/
inductive Location where
  /-- The root of the disassembler's installation. -/
  | ghidra
  /-- The directory of the script that exports blocks. -/
  | scripts
  | lifter
  | compiler
  /-- The directory of the instruction semantics. -/
  | semantics
  /-- The file of intrinsics linked into what is lifted. -/
  | intrinsics
deriving DecidableEq

namespace Location

/-- The locations in their order. -/
def all : List Location :=
  [ghidra, scripts, lifter, compiler, semantics, intrinsics]

/-- The key of a location in a settings file. -/
def field : Location → String
  | ghidra => "ghidra_dir"
  | scripts => "ghidra_script_dir"
  | lifter => "lift_path"
  | compiler => "clang_path"
  | semantics => "semantics_dir"
  | intrinsics => "intrinsics_path"

/-- The environment variable of a location. -/
def environmentKey : Location → String
  | ghidra => "GHIDRA"
  | scripts => "UWIN_GHIDRA_SCRIPTS"
  | lifter => "UWIN_LIFT_PATH"
  | compiler => "UWIN_CLANG_PATH"
  | semantics => "UWIN_SEMANTICS_DIR"
  | intrinsics => "UWIN_INTRINSICS_PATH"

/-- What a message calls a location that is not configured. -/
def label : Location → String
  | ghidra => "Ghidra"
  | scripts => "Ghidra script directory"
  | lifter => "uwin-lift"
  | compiler => "Compiler"
  | semantics => "Semantics directory"
  | intrinsics => "Intrinsics bitcode"

/-- Where a location is found below the package directory; the disassembler is
not part of the package. -/
def packageParts : Location → Option (List String)
  | ghidra => none
  | scripts => some ["share", "uwin", "ghidra_scripts"]
  | lifter => some ["bin", "uwin-lift"]
  | compiler => some ["bin", "remill-clang"]
  | semantics => some ["share", "remill", "semantics"]
  | intrinsics => some ["share", "uwin", "intrinsics.bc"]

end Location

/-- One thing for each location. -/
structure Locations (α : Type) where
  ghidra : α
  scripts : α
  lifter : α
  compiler : α
  semantics : α
  intrinsics : α
deriving DecidableEq

namespace Locations

variable {α : Type}

/-- What is held for a location. -/
def get (l : Locations α) : Location → α
  | .ghidra => l.ghidra
  | .scripts => l.scripts
  | .lifter => l.lifter
  | .compiler => l.compiler
  | .semantics => l.semantics
  | .intrinsics => l.intrinsics

/-- The things that a partial function finds, if it finds one for every
location; the first failure, in the order of the locations, counts. -/
def build {ε : Type} (find : Location → Except ε α) : Except ε (Locations α) := do
  let ghidra ← find .ghidra
  let scripts ← find .scripts
  let lifter ← find .lifter
  let compiler ← find .compiler
  let semantics ← find .semantics
  let intrinsics ← find .intrinsics
  .ok ⟨ghidra, scripts, lifter, compiler, semantics, intrinsics⟩

/-- The things in the order of the locations. -/
def ofList? : List α → Option (Locations α)
  | [ghidra, scripts, lifter, compiler, semantics, intrinsics] =>
    some ⟨ghidra, scripts, lifter, compiler, semantics, intrinsics⟩
  | _ => none

end Locations

/-- Paths from a settings file, as far as it gives them. -/
abbrev SettingsFile :=
  Locations (Option String)

/-- The settled paths of a run. -/
abbrev ToolSettings :=
  Locations String

namespace SettingsFile

/-- The settings file that gives nothing. -/
def empty : SettingsFile :=
  ⟨none, none, none, none, none, none⟩

/-- A settings file as a JSON value; what it does not give is left out. -/
def toJson (file : SettingsFile) : Json :=
  .record (Location.all.filterMap fun location =>
    (Locations.get file location).map fun path => (location.field, .text path))

/-- The settings file of a JSON value. -/
def ofJson? (value : Json) : Option SettingsFile := do
  let fields ← value.asRecord? (Location.all.map Location.field)
  Locations.ofList? (← fields.mapM (Json.optional? Json.asText?))

end SettingsFile

namespace ToolSettings

/-- Settled paths as a JSON value. -/
def toJson (settings : ToolSettings) : Json :=
  .record (Location.all.map fun location =>
    (location.field, .text (Locations.get settings location)))

/-- The settled paths of a JSON value, which must give all of them. -/
def ofJson? (value : Json) : Option ToolSettings := do
  let fields ← value.asRecord? (Location.all.map Location.field)
  Locations.ofList? (← fields.mapM (Json.required? Json.asText?))

/-- The program that analyses an image without a window. -/
def analyzer (settings : ToolSettings) : String :=
  Path.joinAll settings.ghidra ["support", "analyzeHeadless"]

/-- The name of the script that exports blocks. -/
def exportScriptName : String :=
  "GetBBS.java"

/-- The script that exports blocks. -/
def exportScript (settings : ToolSettings) : String :=
  Path.join settings.scripts exportScriptName

end ToolSettings

end Relift
