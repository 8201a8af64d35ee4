import Relift.Machine.Basic
import Relift.Proofs.Activity
import Relift.Settings.Resolve

/-!
# Where tool locations come from

A location is settled by the first source that knows it: its entry in the
settings file, its environment variable, its place below the package directory.
The package directory has two sources of its own.  The installation of the
program comes first; the variable counts only where the program does not know
its installation.

## Main results

* `settle_eq_ok_iff`, `settle_eq_error_iff`, `settled_eq_ok_iff` — which paths
  are settled, and when a whole row of them is accepted.
* `prepare_of_ok`, `prepare_of_error` — a row that is accepted is put on record,
  and nothing else.
* `prepare_package_directory` — the directory below which the places of the
  package are looked for, and that the variable is not read where the
  installation is known.
* `package_variable_passed_over` — a complete package that the variable names
  and that is not used.
-/

namespace Relift

variable {σ : Type}

/-! ## One location -/

/-- A path is the one by which a location is settled. -/
inductive Location.Sourced (file : SettingsFile) (package : Option String)
    (lookup : String → Option String) (location : Location) : String → Prop where
  | entry {path : String} (hentry : Locations.get file location = some path) :
      Sourced file package lookup location path
  | environment {path : String}
      (hentry : Locations.get file location = none)
      (hvariable : lookup location.environmentKey = some path) :
      Sourced file package lookup location path
  | package {directory : String} {parts : List String}
      (hentry : Locations.get file location = none)
      (hvariable : lookup location.environmentKey = none)
      (hdirectory : package = some directory)
      (hparts : location.packageParts = some parts) :
      Sourced file package lookup location (Path.joinAll directory parts)

namespace ToolSettings

variable {file : SettingsFile} {package : Option String}
  {lookup : String → Option String} {location : Location} {path : String}

theorem settle_of_sourced
    (h : location.Sourced file package lookup path) :
    settle file package lookup location = .ok path := by
  cases h with
  | entry hentry => simp [settle, hentry]
  | environment hentry hvariable => simp [settle, hentry, hvariable]
  | package hentry hvariable hdirectory hparts =>
      simp [settle, hentry, hvariable, hdirectory, hparts]

theorem sourced_of_settle
    (h : settle file package lookup location = .ok path) :
    location.Sourced file package lookup path := by
  cases hentry : Locations.get file location with
  | some entry =>
      have hpath : entry = path := by simpa [settle, hentry] using h
      exact hpath ▸ .entry hentry
  | none =>
    cases hvariable : lookup location.environmentKey with
    | some value =>
        have hpath : value = path := by
          simpa [settle, hentry, hvariable] using h
        exact hpath ▸ .environment hentry hvariable
    | none =>
      cases hdirectory : package with
      | none => simp [settle, hentry, hvariable, hdirectory] at h
      | some directory =>
        cases hparts : location.packageParts with
        | none => simp [settle, hentry, hvariable, hdirectory, hparts] at h
        | some parts =>
            have hpath : Path.joinAll directory parts = path := by
              simpa [settle, hentry, hvariable, hdirectory, hparts] using h
            subst hpath
            exact .package hentry hvariable rfl hparts

/-- A location is settled by exactly the path of its first source. -/
theorem settle_eq_ok_iff :
    settle file package lookup location = .ok path ↔
      location.Sourced file package lookup path :=
  ⟨sourced_of_settle, settle_of_sourced⟩

/-- A location that no source knows is reported as missing. -/
theorem settle_eq_error_iff {e : Error} :
    settle file package lookup location = .error e ↔
      (∀ path, ¬ location.Sourced file package lookup path) ∧
        e = location.missing := by
  have hmissing : ∀ {e}, settle file package lookup location = .error e →
      e = location.missing := by
    intro e he
    rw [settle] at he
    split at he
    · cases he
    · exact (Except.error.inj he).symm
  constructor
  · intro h
    refine ⟨fun path hsourced => ?_, hmissing h⟩
    rw [settle_of_sourced hsourced] at h
    cases h
  · rintro ⟨hnone, rfl⟩
    cases hsettled : settle file package lookup location with
    | ok path => exact absurd (sourced_of_settle hsettled) (hnone path)
    | error e => rw [hmissing hsettled]

end ToolSettings

/-! ## All locations -/

/-- A chain succeeds just if each of its steps does. -/
theorem except_bind_eq_ok {ε α β : Type} {x : Except ε α} {f : α → Except ε β}
    {b : β} : (x >>= f) = .ok b ↔ ∃ a, x = .ok a ∧ f a = .ok b := by
  cases x with
  | error e => exact ⟨nofun, nofun⟩
  | ok a => exact ⟨fun h => ⟨a, rfl, h⟩, fun ⟨_, ha, h⟩ => by cases ha; exact h⟩

/-- Everything is found just if it is found for each location. -/
theorem Locations.build_eq_ok_iff {α ε : Type} {find : Location → Except ε α}
    {l : Locations α} :
    Locations.build find = .ok l ↔
      ∀ location, find location = .ok (l.get location) := by
  constructor
  · intro h
    simp only [build, except_bind_eq_ok] at h
    obtain ⟨_, hghidra, _, hscripts, _, hlifter, _, hcompiler, _, hsemantics,
      _, hintrinsics, hl⟩ := h
    cases hl
    intro location
    cases location <;> assumption
  · intro h
    simp only [build, h, Locations.get]
    rfl

/-- The settings file of a run, if it can be read; without a path it is
empty. -/
def SettingsFile.given (host : Host σ) (s : σ) :
    Option String → Except Error SettingsFile
  | some path => SettingsFile.read host s path
  | none => .ok SettingsFile.empty

namespace ToolSettings

theorem settled_eq (host : Host σ) (s : σ) (settingsFile : Option String) :
    settled host s settingsFile = (do
      let file ← SettingsFile.given host s settingsFile
      let settings ← ofSources file (host.installation s) (host.environment s)
      check host s settings
      .ok settings) := by
  cases settingsFile <;> rfl

/-- Locations are accepted just if each is the one of its first source and all
of them pass the check. -/
theorem settled_eq_ok_iff {host : Host σ} {s : σ} {settingsFile : Option String}
    {settings : ToolSettings} :
    settled host s settingsFile = .ok settings ↔
      ∃ file, SettingsFile.given host s settingsFile = .ok file ∧
        check host s settings = .ok () ∧
        ∀ location, Location.Sourced file
          (host.installation s <|> host.environment s packageVariable)
          (host.environment s) location (settings.get location) := by
  simp only [settled_eq, except_bind_eq_ok, ofSources, Locations.build_eq_ok_iff,
    settle_eq_ok_iff]
  constructor
  · rintro ⟨file, hfile, found, hsourced, _, hcheck, hfound⟩
    cases hfound
    exact ⟨file, hfile, hcheck, hsourced⟩
  · rintro ⟨file, hfile, hcheck, hsourced⟩
    exact ⟨file, hfile, settings, hsourced, (), hcheck, rfl⟩

theorem prepare_of_ok {host : Host σ} {s : σ} {settingsFile : Option String}
    {settings : ToolSettings} (h : settled host s settingsFile = .ok settings) :
    prepare host settingsFile s = ⟨.ok settings, s, [note host settings]⟩ := by
  have hinspect : (Activity.inspect fun s => settled host s settingsFile :
      Activity σ Note Error ToolSettings) s = ⟨.ok settings, s, []⟩ := by
    rw [Activity.inspect_apply, h]
  rw [prepare, Activity.bind_of_ok hinspect, Activity.report_bind]
  rfl

theorem prepare_of_error {host : Host σ} {s : σ} {settingsFile : Option String}
    {e : Error} (h : settled host s settingsFile = .error e) :
    prepare host settingsFile s = ⟨.error e, s, []⟩ := by
  have hinspect : (Activity.inspect fun s => settled host s settingsFile :
      Activity σ Note Error ToolSettings) s = ⟨.error e, s, []⟩ := by
    rw [Activity.inspect_apply, h]
  rw [prepare, Activity.bind_of_error hinspect]

/-- To settle the locations changes nothing. -/
theorem wp_prepare (host : Host σ) (settingsFile : Option String) (s : σ) :
    (prepare host settingsFile).wp
      (fun settings s' => s' = s ∧
        (prepare host settingsFile s).value = .ok settings)
      (fun _ s' => s' = s) s := by
  rw [Activity.wp]
  cases h : settled host s settingsFile with
  | error e => rw [prepare_of_error h]
  | ok settings =>
      rw [prepare_of_ok h]
      exact ⟨rfl, rfl⟩

theorem value_prepare (host : Host σ) (settingsFile : Option String) (s : σ) :
    (prepare host settingsFile s).value = settled host s settingsFile := by
  cases h : settled host s settingsFile with
  | error e => rw [prepare_of_error h]
  | ok settings => rw [prepare_of_ok h]

end ToolSettings

/-! ## The package directory -/

/-- The host on which a variable has a given value, or none. -/
def Host.withVariable (host : Host σ) (key : String) (value : Option String) :
    Host σ :=
  { host with
    environment := fun s other =>
      if other = key then value else host.environment s other }

namespace ToolSettings

/-- No location has the variable of the package directory for its own. -/
theorem environmentKey_ne_packageVariable (location : Location) :
    location.environmentKey ≠ packageVariable := by
  cases location <;> decide

/-- What is settled below a known package directory does not depend on the
variable. -/
theorem ofSources_withVariable (host : Host σ) (s : σ) (file : SettingsFile)
    (installed : String) (value : Option String) :
    ofSources file (some installed)
        ((host.withVariable packageVariable value).environment s) =
      ofSources file (some installed) (host.environment s) := by
  have hsettle : ∀ location, settle file (some installed)
      ((host.withVariable packageVariable value).environment s) location =
        settle file (some installed) (host.environment s) location := by
    intro location
    simp only [settle, Host.withVariable,
      if_neg (environmentKey_ne_packageVariable location)]
  unfold ofSources
  exact congrArg Locations.build (funext hsettle)

/-- The places of the package are looked for below the installation of the
program, and below the directory that the variable names only where the
installation is not known.  Where it is known, the value of the variable makes
no difference at all, to the record neither. -/
theorem prepare_package_directory (host : Host σ) (s : σ)
    (settingsFile : Option String) :
    (∀ settings,
      prepare host settingsFile s =
          ⟨.ok settings, s, [note host settings]⟩ ↔
      ∃ file, SettingsFile.given host s settingsFile = .ok file ∧
        check host s settings = .ok () ∧
        ∀ location, Location.Sourced file
          (host.installation s <|> host.environment s packageVariable)
          (host.environment s) location (settings.get location)) ∧
    (∀ settings file location parts,
      (prepare host settingsFile s).value = .ok settings →
      SettingsFile.given host s settingsFile = .ok file →
      Locations.get file location = none →
      host.environment s location.environmentKey = none →
      location.packageParts = some parts →
      (∀ installed, host.installation s = some installed →
        settings.get location = Path.joinAll installed parts) ∧
      (host.installation s = none →
        ∃ directory, host.environment s packageVariable = some directory ∧
          settings.get location = Path.joinAll directory parts)) ∧
    (∀ installed value, host.installation s = some installed →
      prepare (host.withVariable packageVariable value) settingsFile s =
        prepare host settingsFile s) := by
  refine ⟨fun settings => ?_, ?_, ?_⟩
  · rw [← settled_eq_ok_iff, ← value_prepare]
    constructor
    · intro h
      rw [h]
    · intro h
      exact prepare_of_ok ((value_prepare host settingsFile s).symm.trans h)
  · intro settings file location parts hprepared hfile hentry hvariable hparts
    rw [value_prepare] at hprepared
    obtain ⟨file', hfile', -, hsourced⟩ := settled_eq_ok_iff.mp hprepared
    cases hfile.symm.trans hfile'
    have hplace : ∃ directory,
        (host.installation s <|> host.environment s packageVariable) =
          some directory ∧
        settings.get location = Path.joinAll directory parts := by
      generalize hpath : settings.get location = path
      cases hpath ▸ hsourced location with
      | entry h => cases hentry.symm.trans h
      | environment _ h => cases hvariable.symm.trans h
      | package _ _ hdirectory h =>
          cases hparts.symm.trans h
          exact ⟨_, hdirectory, rfl⟩
    obtain ⟨directory, hdirectory, hplace⟩ := hplace
    constructor
    · intro installed hinstalled
      rw [hinstalled] at hdirectory
      cases hdirectory
      exact hplace
    · intro hinstalled
      rw [hinstalled] at hdirectory
      exact ⟨directory, by simpa using hdirectory, hplace⟩
  · intro installed value hinstalled
    have hgiven : SettingsFile.given (host.withVariable packageVariable value) s
        settingsFile = SettingsFile.given host s settingsFile := by
      cases settingsFile <;> rfl
    have hknown : (host.withVariable packageVariable value).installation s =
        some installed := hinstalled
    have hcheck : check (host.withVariable packageVariable value) s =
        check host s := rfl
    have hsettled : settled (host.withVariable packageVariable value) s
        settingsFile = settled host s settingsFile := by
      rw [settled_eq, settled_eq, hgiven, hknown, hinstalled, hcheck]
      simp only [ofSources_withVariable]
    cases h : settled host s settingsFile with
    | error e =>
        rw [prepare_of_error h, prepare_of_error (hsettled.trans h)]
    | ok settings =>
        rw [prepare_of_ok h, prepare_of_ok (hsettled.trans h)]
        rfl

/-- A machine with a complete package in `/pkg`, which the variable names, and
with nothing in `/opt`, where the program is installed. -/
def packagedMachine : Machine where
  tree :=
    let directories : List Place :=
      [["g"], ["g", "support"], ["opt"], ["pkg"], ["pkg", "bin"],
        ["pkg", "share"], ["pkg", "share", "remill"],
        ["pkg", "share", "remill", "semantics"], ["pkg", "share", "uwin"],
        ["pkg", "share", "uwin", "ghidra_scripts"]]
    let files : List Place :=
      [["g", "support", "analyzeHeadless"], ["pkg", "bin", "uwin-lift"],
        ["pkg", "bin", "remill-clang"],
        ["pkg", "share", "uwin", "ghidra_scripts", "GetBBS.java"],
        ["pkg", "share", "uwin", "intrinsics.bc"]]
    files.foldl (fun tree place => tree.set place (.file [] true))
      (directories.foldl (fun tree place => tree.set place .directory) .empty)
  place := []
  environment := [("GHIDRA", "/g"), (packageVariable, "/pkg")]
  temporaryDirectory := "/tmp"
  executable := some "/opt/bin/uwin-lift-hlp"

/-- The package that the variable names is found by a program that does not
know its installation; one that does fails, whatever the variable says. -/
theorem package_variable_passed_over :
    Machine.host.environment packagedMachine packageVariable = some "/pkg" ∧
    (prepare Machine.host none { packagedMachine with executable := none }).value =
      .ok ⟨"/g", "/pkg/share/uwin/ghidra_scripts", "/pkg/bin/uwin-lift",
        "/pkg/bin/remill-clang", "/pkg/share/remill/semantics",
        "/pkg/share/uwin/intrinsics.bc"⟩ ∧
    ∀ value,
      prepare (Machine.host.withVariable packageVariable value) none
          packagedMachine =
        ⟨.error (.configuration ("GetBBS.java not found at " ++
          "/opt/share/uwin/ghidra_scripts/GetBBS.java")), packagedMachine, []⟩ := by
  obtain ⟨-, -, hunread⟩ :=
    prepare_package_directory Machine.host packagedMachine none
  refine ⟨by decide, rfl, fun value => ?_⟩
  exact (hunread "/opt" value rfl).trans rfl

end ToolSettings

end Relift
