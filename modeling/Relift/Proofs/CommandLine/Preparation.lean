import Relift.Proofs.Run.AnalyzerPaths

/-!
# Checks before a run

Before a run is started a row of checks is made (`Check.all`).  What a check
refuses is said check by check, in terms of the host (`Check.Refuses`), and the
first check of the row that refuses decides.

That an answer follows a row of checks (`SettledBy`) is composed like the code:
`SettledBy.bind` puts one row after another.  The preparation only looks at the
state and puts the locations on record once they are settled and checked
(`prepareLift_apply`), so all of its effects are its answer and this record.

## Main results

* `settledBy_readiness` — the preparation answers with the error of the first
  check that refuses.
* `lift_checked` — then nothing else has happened, but for the record if the
  locations had been accepted; and only if no check refuses is the run started.
-/

namespace Relift

/-! ## Rows of checks -/

section Rows

variable {κ ε ε' α β : Type} {refuses : κ → ε → Prop} {row others : List κ}

/-- A check is the first of a row that refuses, with an error. -/
def FirstRefusal (refuses : κ → ε → Prop) (row : List κ) (check : κ) (e : ε) :
    Prop :=
  ∃ before after, row = before ++ check :: after ∧ refuses check e ∧
    ∀ other ∈ before, ∀ e', ¬ refuses other e'

/-- An answer follows a row of checks: it is the error of the first one that
refuses, and no error if none does. -/
def SettledBy (refuses : κ → ε → Prop) (row : List κ) : Except ε α → Prop
  | .ok _ => ∀ check ∈ row, ∀ e, ¬ refuses check e
  | .error e => ∃ check, FirstRefusal refuses row check e

theorem settledBy_check {check : κ} {answer : Except ε α}
    (h : ∀ e, answer = .error e ↔ refuses check e) :
    SettledBy refuses [check] answer := by
  cases answer with
  | ok a =>
      intro other hother e hrefuses
      cases List.mem_singleton.mp hother
      cases (h e).mpr hrefuses
  | error e =>
      exact ⟨check, [], [], rfl, (h e).mp rfl, fun _ hmem => absurd hmem
        List.not_mem_nil⟩

/-- A demand is a check that refuses with one error. -/
theorem settledBy_demand {check : κ} {there : Bool} {a : α} {e : ε}
    (h : ∀ e', refuses check e' ↔ there = false ∧ e' = e) :
    SettledBy refuses [check] (if there then .ok a else .error e) := by
  refine settledBy_check fun e' => ?_
  rw [h]
  cases there with
  | true => simp
  | false => simp [eq_comm]

theorem settledBy_ok (a : α) : SettledBy refuses [] (.ok a : Except ε α) :=
  fun _ hmem => absurd hmem List.not_mem_nil

/-- The checks of a second step come after those of the first. -/
theorem SettledBy.bind {x : Except ε α} {f : α → Except ε β}
    (hx : SettledBy refuses row x)
    (hf : ∀ a, x = .ok a → SettledBy refuses others (f a)) :
    SettledBy refuses (row ++ others) (x >>= f) := by
  cases x with
  | error e =>
      obtain ⟨check, before, after, rfl, hrefuses, hbefore⟩ := hx
      exact ⟨check, before, after ++ others, by simp, hrefuses, hbefore⟩
  | ok a =>
      have hnext := hf a rfl
      show SettledBy refuses (row ++ others) (f a)
      cases hanswer : f a with
      | ok b =>
          rw [hanswer] at hnext
          intro check hcheck
          rcases List.mem_append.mp hcheck with hcheck | hcheck
          · exact hx check hcheck
          · exact hnext check hcheck
      | error e =>
          rw [hanswer] at hnext
          obtain ⟨check, before, after, rfl, hrefuses, hbefore⟩ := hnext
          refine ⟨check, row ++ before, after, by simp, hrefuses, ?_⟩
          intro other hother
          rcases List.mem_append.mp hother with hother | hother
          · exact hx other hother
          · exact hbefore other hother

/-- Errors may be seen as others, if the checks refuse with no more than
these. -/
theorem SettledBy.mapError {refuses : κ → ε' → Prop} {x : Except ε α} {g : ε → ε'}
    (h : SettledBy (fun check e => refuses check (g e)) row x)
    (honly : ∀ check ∈ row, ∀ e', refuses check e' → ∃ e, e' = g e) :
    SettledBy refuses row (x.mapError g) := by
  have hsame : ∀ check ∈ row, (∀ e, ¬ refuses check (g e)) →
      ∀ e', ¬ refuses check e' := by
    intro check hcheck hnone e' hrefuses
    obtain ⟨e, rfl⟩ := honly check hcheck e' hrefuses
    exact hnone e hrefuses
  cases x with
  | ok a => exact fun check hcheck => hsame check hcheck (h check hcheck)
  | error e =>
      obtain ⟨check, before, after, rfl, hrefuses, hbefore⟩ := h
      refine ⟨check, before, after, rfl, hrefuses, fun other hother => ?_⟩
      exact hsame other (by simp [hother]) (hbefore other hother)

/-- If the first check that refuses is not in the first part of a row, none in
that part refuses. -/
theorem FirstRefusal.unrefused {check : κ} {e : ε}
    (h : FirstRefusal refuses (row ++ others) check e) (hcheck : check ∉ row) :
    ∀ other ∈ row, ∀ e', ¬ refuses other e' := by
  obtain ⟨before, after, hrow, -, hbefore⟩ := h
  rcases List.append_eq_append_iff.mp hrow with ⟨rest, rfl, -⟩ |
      ⟨rest, rfl, hrest⟩
  · exact fun other hother => hbefore other (List.mem_append_left rest hother)
  · cases rest with
    | nil => exact fun other hother => hbefore other (by simpa using hother)
    | cons first rest =>
        cases (List.cons.inj hrest).1
        exact absurd (by simp) hcheck

theorem FirstRefusal.refusal {check : κ} {e : ε}
    (h : FirstRefusal refuses row check e) : refuses check e := by
  obtain ⟨-, -, -, hrefuses, -⟩ := h
  exact hrefuses

/-- There is only one first check that refuses. -/
theorem FirstRefusal.check_eq {check check' : κ} {e e' : ε}
    (h : FirstRefusal refuses row check e)
    (h' : FirstRefusal refuses row check' e') : check = check' := by
  obtain ⟨before, after, rfl, hrefuses, hbefore⟩ := h
  obtain ⟨before', after', hrow, hrefuses', hbefore'⟩ := h'
  rcases List.append_eq_append_iff.mp hrow with ⟨rest, rfl, hrest⟩ |
      ⟨rest, rfl, hrest⟩
  · cases rest with
    | nil => exact (List.cons.inj hrest).1
    | cons first rest =>
        cases (List.cons.inj hrest).1
        exact absurd hrefuses (hbefore' check (by simp) e)
  · cases rest with
    | nil => exact (List.cons.inj hrest).1.symm
    | cons first rest =>
        cases (List.cons.inj hrest).1
        exact absurd hrefuses' (hbefore check' (by simp) e')

end Rows

/-- A failure that is seen as another comes from one. -/
theorem except_mapError_eq_error {ε ε' α : Type} {x : Except ε α} {g : ε → ε'}
    {e' : ε'} : x.mapError g = .error e' ↔ ∃ e, x = .error e ∧ e' = g e := by
  cases x with
  | ok a => simp [Except.mapError]
  | error e => simp [Except.mapError, eq_comm]

theorem except_mapError_eq_ok {ε ε' α : Type} {x : Except ε α} {g : ε → ε'}
    {a : α} : x.mapError g = .ok a ↔ x = .ok a := by
  cases x with
  | ok a => simp [Except.mapError]
  | error e => simp [Except.mapError]

/-! ## The checks -/

namespace Location

/-- The path at which something is looked for once a location is settled. -/
def target (settings : ToolSettings) : Location → String
  | ghidra => Path.joinAll settings.ghidra ["support", "analyzeHeadless"]
  | scripts => Path.join settings.scripts "GetBBS.java"
  | lifter => settings.lifter
  | compiler => settings.compiler
  | semantics => settings.semantics
  | intrinsics => settings.intrinsics

/-- What a message calls the thing that is looked for. -/
def targetName : Location → String
  | ghidra => "analyzeHeadless"
  | scripts => "GetBBS.java"
  | lifter => "uwin-lift"
  | compiler => "compiler"
  | semantics => "semantics directory"
  | intrinsics => "intrinsics bitcode"

end Location

variable {σ : Type}

/-- Whether the thing that is looked for is there.  The semantics are a
directory, everything else is a file. -/
def Location.isThere (host : Host σ) (s : σ) (settings : ToolSettings)
    (location : Location) : Bool :=
  if location = .semantics then host.isDirectory s (location.target settings)
  else host.isFile s (location.target settings)

/-- What is checked before a run. -/
inductive Check where
  /-- The executable is a file. -/
  | image
  | settingsReadable
  | settingsFormed
  /-- A location has a source. -/
  | located (location : Location)
  /-- What is needed at a location is there. -/
  | present (location : Location)
  /-- The path of the object file can be made absolute. -/
  | outputAbsolute
  | outputDirectory
  | seedsReadable
  | seedsFormed
deriving DecidableEq

namespace Check

/-- The checks, in their order. -/
def all : List Check :=
  [image, settingsReadable, settingsFormed] ++ Location.all.map located ++
    Location.all.map present ++
    [outputAbsolute, outputDirectory, seedsReadable, seedsFormed]

/-- A path is the one by which a location is settled on a host, for the settings
file of the options. -/
def Sources (host : Host σ) (options : CommandOptions) (s : σ)
    (location : Location) (path : String) : Prop :=
  ∃ file, SettingsFile.given host s options.settingsFile = .ok file ∧
    location.Sourced file
      (host.installation s <|> host.environment s packageVariable)
      (host.environment s) path

/-- A check refuses the options, with an error. -/
inductive Refuses (host : Host σ) (options : CommandOptions) (s : σ) :
    Check → LiftError → Prop where
  | image (habsent : host.isFile s options.imagePath = false) :
      Refuses host options s .image (.imageMissing options.imagePath)
  | settingsReadable {path : String} {cause : SystemError}
      (hgiven : options.settingsFile = some path)
      (hread : host.readText s path = .error cause) :
      Refuses host options s .settingsReadable (.preparation (.configuration
        ("Failed to read config file " ++ path ++ ": " ++ cause.message)))
  | settingsFormed {path text : String}
      (hgiven : options.settingsFile = some path)
      (hread : host.readText s path = .ok text)
      (hparse : (Json.parse? text).bind SettingsFile.ofJson? = none) :
      Refuses host options s .settingsFormed (.preparation (.configuration
        ("Failed to parse config file " ++ path ++ ": " ++
          host.library.describeRefusal text)))
  | located {location : Location} {file : SettingsFile}
      (hfile : SettingsFile.given host s options.settingsFile = .ok file)
      (hnone : ∀ path, ¬ Sources host options s location path) :
      Refuses host options s (.located location) (.preparation location.missing)
  | present {location : Location} {settings : ToolSettings}
      (hsources : ∀ other, Sources host options s other (settings.get other))
      (habsent : location.isThere host s settings = false) :
      Refuses host options s (.present location) (.preparation (.configuration
        (location.targetName ++ " not found at " ++ location.target settings)))
  | outputAbsolute {cause : SystemError}
      (hrelative : Path.isAbsolute options.outputPath = false)
      (hdirectory : host.workingDirectory s = .error cause) :
      Refuses host options s .outputAbsolute
        (.preparation (.io "Failed to get current directory" cause))
  | outputRoot {path : String}
      (hpath : host.absolute s options.outputPath = .ok path)
      (hparent : Path.parent? path = none) :
      Refuses host options s .outputDirectory (.outputInvalid path)
  | outputDirectory {path directory : String}
      (hpath : host.absolute s options.outputPath = .ok path)
      (hparent : Path.parent? path = some directory)
      (habsent : host.isDirectory s directory = false) :
      Refuses host options s .outputDirectory (.outputDirectoryMissing directory)
  | seedsReadable {path : String} {cause : SystemError}
      (hgiven : options.extraSeedsFile = some path)
      (hread : host.readText s path = .error cause) :
      Refuses host options s .seedsReadable
        (.extraSeeds path (.io ("Failed to read " ++ path) cause))
  | seedsFormed {path text : String} {e : Error}
      (hgiven : options.extraSeedsFile = some path)
      (hread : host.readText s path = .ok text)
      (hparse : AddressFile.parse path text = .error e) :
      Refuses host options s .seedsFormed (.extraSeeds path e)

variable {host : Host σ} {options : CommandOptions} {s : σ}

theorem Sources.unique {location : Location} {path path' : String}
    (h : Sources host options s location path)
    (h' : Sources host options s location path') : path = path' := by
  obtain ⟨file, hfile, hsourced⟩ := h
  obtain ⟨file', hfile', hsourced'⟩ := h'
  cases hfile.symm.trans hfile'
  have hsettled := ToolSettings.settle_of_sourced hsourced
  have hsettled' := ToolSettings.settle_of_sourced hsourced'
  exact Except.ok.inj (hsettled.symm.trans hsettled')

/-- The locations settle to one row of paths only. -/
theorem eq_of_sources {settings settings' : ToolSettings}
    (h : ∀ location, Sources host options s location (settings.get location))
    (h' : ∀ location, Sources host options s location (settings'.get location)) :
    settings = settings' := by
  have hfound : Locations.build (fun location =>
      (.ok (settings.get location) : Except Error String)) = .ok settings :=
    Locations.build_eq_ok_iff.mpr fun _ => rfl
  have hfound' : Locations.build (fun location =>
      (.ok (settings.get location) : Except Error String)) = .ok settings' :=
    Locations.build_eq_ok_iff.mpr fun location =>
      congrArg Except.ok ((h location).unique (h' location))
  exact Except.ok.inj (hfound.symm.trans hfound')

/-- A check refuses with one error only. -/
theorem Refuses.unique {check : Check} {e e' : LiftError}
    (h : Refuses host options s check e) (h' : Refuses host options s check e') :
    e = e' := by
  cases h with
  | image => cases h'; rfl
  | settingsReadable hgiven hread =>
      cases h' with
      | settingsReadable hgiven' hread' =>
          cases hgiven.symm.trans hgiven'
          cases hread.symm.trans hread'
          rfl
  | settingsFormed hgiven hread =>
      cases h' with
      | settingsFormed hgiven' hread' =>
          cases hgiven.symm.trans hgiven'
          cases hread.symm.trans hread'
          rfl
  | located => cases h'; rfl
  | present hsources =>
      cases h' with
      | present hsources' =>
          cases eq_of_sources hsources hsources'
          rfl
  | outputAbsolute _ hdirectory =>
      cases h' with
      | outputAbsolute _ hdirectory' =>
          cases hdirectory.symm.trans hdirectory'
          rfl
  | outputRoot hpath hparent =>
      cases h' with
      | outputRoot hpath' hparent' =>
          cases hpath.symm.trans hpath'
          rfl
      | outputDirectory hpath' hparent' =>
          cases hpath.symm.trans hpath'
          cases hparent.symm.trans hparent'
  | outputDirectory hpath hparent =>
      cases h' with
      | outputRoot hpath' hparent' =>
          cases hpath.symm.trans hpath'
          cases hparent.symm.trans hparent'
      | outputDirectory hpath' hparent' =>
          cases hpath.symm.trans hpath'
          cases hparent.symm.trans hparent'
          rfl
  | seedsReadable hgiven hread =>
      cases h' with
      | seedsReadable hgiven' hread' =>
          cases hgiven.symm.trans hgiven'
          cases hread.symm.trans hread'
          rfl
  | seedsFormed hgiven hread hparse =>
      cases h' with
      | seedsFormed hgiven' hread' hparse' =>
          cases hgiven.symm.trans hgiven'
          cases hread.symm.trans hread'
          cases hparse.symm.trans hparse'
          rfl

/-! ## Settings -/

end Check

/-- A settings file is first read and then understood. -/
theorem SettingsFile.read_eq (host : Host σ) (s : σ) (path : String) :
    SettingsFile.read host s path = (do
      let text ← (host.readText s path).mapError fun cause => .configuration
        ("Failed to read config file " ++ path ++ ": " ++ cause.message)
      ((Json.parse? text).bind SettingsFile.ofJson?).elim
        (.error (.configuration ("Failed to parse config file " ++ path ++ ": " ++
          host.library.describeRefusal text)))
        .ok) := by
  rw [SettingsFile.read]
  cases host.readText s path with
  | error cause => rfl
  | ok text =>
      show _ = Option.elim _ _ _
      cases hparse : (Json.parse? text).bind SettingsFile.ofJson? with
      | none => simp only [hparse, Option.elim_none]
      | some file => simp only [hparse, Option.elim_some]

namespace Check

variable {host : Host σ} {options : CommandOptions} {s : σ}

/-- The row of checks on the settings. -/
def ofSettings : List Check :=
  [settingsReadable, settingsFormed] ++
    (Location.all.map located ++ Location.all.map present)

theorem Refuses.preparation {check : Check} {e : LiftError}
    (h : Refuses host options s check e) (hcheck : check ∈ ofSettings) :
    ∃ e', e = .preparation e' := by
  cases h with
  | settingsReadable => exact ⟨_, rfl⟩
  | settingsFormed => exact ⟨_, rfl⟩
  | located => exact ⟨_, rfl⟩
  | present => exact ⟨_, rfl⟩
  | image => simp [ofSettings] at hcheck
  | outputAbsolute => simp [ofSettings] at hcheck
  | outputRoot => simp [ofSettings] at hcheck
  | outputDirectory => simp [ofSettings] at hcheck
  | seedsReadable => simp [ofSettings] at hcheck
  | seedsFormed => simp [ofSettings] at hcheck

/-- Only checks on the settings find fault with the configuration. -/
theorem Refuses.mem_of_configuration {check : Check} {text : String}
    (h : Refuses host options s check (.preparation (.configuration text))) :
    check ∈ .image :: ofSettings := by
  generalize he : LiftError.preparation (.configuration text) = e at h
  cases h with
  | settingsReadable => simp [ofSettings]
  | settingsFormed => simp [ofSettings]
  | @located location => cases location <;> simp [ofSettings, Location.all]
  | @present location => cases location <;> simp [ofSettings, Location.all]
  | image => cases he
  | outputAbsolute => cases he
  | outputRoot => cases he
  | outputDirectory => cases he
  | seedsReadable => cases he
  | seedsFormed => cases he

/-- A check on the settings refuses, with an error. -/
def RefusesSettings (host : Host σ) (options : CommandOptions) (s : σ)
    (check : Check) (e : Error) : Prop :=
  Refuses host options s check (.preparation e)

theorem settledBy_given (host : Host σ) (options : CommandOptions) (s : σ) :
    SettledBy (RefusesSettings host options s) [settingsReadable, settingsFormed]
      (SettingsFile.given host s options.settingsFile) := by
  cases hgiven : options.settingsFile with
  | none =>
      intro check hcheck e hrefuses
      rcases List.mem_pair.mp hcheck with rfl | rfl
      · cases hrefuses with
        | settingsReadable hpath => cases hgiven.symm.trans hpath
      · cases hrefuses with
        | settingsFormed hpath => cases hgiven.symm.trans hpath
  | some path =>
      rw [SettingsFile.given, SettingsFile.read_eq]
      refine (settledBy_check fun e => ?_).bind fun text htext =>
        settledBy_check fun e => ?_
      · rw [except_mapError_eq_error]
        constructor
        · rintro ⟨cause, hread, rfl⟩
          exact .settingsReadable hgiven hread
        · intro hrefuses
          cases hrefuses with
          | settingsReadable hpath hread =>
              cases hgiven.symm.trans hpath
              exact ⟨_, hread, rfl⟩
      · rw [except_mapError_eq_ok] at htext
        constructor
        · intro he
          cases hparse : (Json.parse? text).bind SettingsFile.ofJson? with
          | some file => rw [hparse] at he; cases he
          | none =>
              rw [hparse] at he
              cases he
              exact .settingsFormed hgiven htext hparse
        · intro hrefuses
          cases hrefuses with
          | settingsFormed hpath hread hparse =>
              cases hgiven.symm.trans hpath
              cases htext.symm.trans hread
              rw [hparse, Option.elim_none]

/-- What is looked up for all locations follows a check for each of them. -/
theorem settledBy_build {κ ε α : Type} {refuses : κ → ε → Prop}
    {check : Location → κ} {find : Location → Except ε α}
    (h : ∀ location, SettledBy refuses [check location] (find location)) :
    SettledBy refuses (Location.all.map check) (Locations.build find) :=
  (h .ghidra).bind fun _ _ => (h .scripts).bind fun _ _ =>
    (h .lifter).bind fun _ _ => (h .compiler).bind fun _ _ =>
      (h .semantics).bind fun _ _ => (h .intrinsics).bind fun _ _ =>
        settledBy_ok _

theorem sources_iff {file : SettingsFile} {location : Location} {path : String}
    (hfile : SettingsFile.given host s options.settingsFile = .ok file) :
    Sources host options s location path ↔
      location.Sourced file
        (host.installation s <|> host.environment s packageVariable)
        (host.environment s) path := by
  constructor
  · rintro ⟨file', hfile', hsourced⟩
    cases hfile.symm.trans hfile'
    exact hsourced
  · exact fun hsourced => ⟨file, hfile, hsourced⟩

theorem settledBy_ofSources {file : SettingsFile}
    (hfile : SettingsFile.given host s options.settingsFile = .ok file) :
    SettledBy (RefusesSettings host options s) (Location.all.map located)
      (ToolSettings.ofSources file (host.installation s) (host.environment s)) := by
  refine settledBy_build fun location => settledBy_check fun e => ?_
  rw [ToolSettings.settle_eq_error_iff]
  constructor
  · rintro ⟨hnone, rfl⟩
    refine .located hfile fun path hsources => ?_
    exact hnone path ((sources_iff hfile).mp hsources)
  · intro hrefuses
    cases hrefuses with
    | located _ hnone =>
        exact ⟨fun path hsourced =>
          hnone path ((sources_iff hfile).mpr hsourced), rfl⟩

theorem settledBy_check_settings {settings : ToolSettings}
    (hsources : ∀ location,
      Sources host options s location (settings.get location)) :
    SettledBy (RefusesSettings host options s) (Location.all.map present)
      (ToolSettings.check host s settings) := by
  have hdemand : ∀ location, SettledBy (RefusesSettings host options s)
      [present location]
      (if location.isThere host s settings then .ok () else
        .error (.configuration (location.targetName ++ " not found at " ++
          location.target settings))) := by
    intro location
    refine settledBy_demand fun e => ?_
    constructor
    · intro hrefuses
      cases hrefuses with
      | present hsources' habsent =>
          cases eq_of_sources hsources hsources'
          exact ⟨habsent, rfl⟩
    · rintro ⟨habsent, rfl⟩
      exact .present hsources habsent
  exact (hdemand .ghidra).bind fun _ _ => (hdemand .scripts).bind fun _ _ =>
    (hdemand .lifter).bind fun _ _ => (hdemand .compiler).bind fun _ _ =>
      (hdemand .semantics).bind fun _ _ => hdemand .intrinsics

/-- The settings follow their checks. -/
theorem settledBy_settled (host : Host σ) (options : CommandOptions) (s : σ) :
    SettledBy (Refuses host options s) ofSettings
      ((ToolSettings.settled host s options.settingsFile).mapError
        .preparation) := by
  have hsettled : SettledBy (RefusesSettings host options s) ofSettings
      (ToolSettings.settled host s options.settingsFile) := by
    rw [ToolSettings.settled_eq]
    refine (settledBy_given host options s).bind fun file hfile => ?_
    refine (settledBy_ofSources hfile).bind fun settings hsettings => ?_
    have hsources : ∀ location,
        Sources host options s location (settings.get location) := by
      intro location
      rw [sources_iff hfile, ← ToolSettings.settle_eq_ok_iff]
      exact Locations.build_eq_ok_iff.mp hsettings location
    rw [← List.append_nil (Location.all.map present)]
    exact (settledBy_check_settings hsources).bind fun _ _ => settledBy_ok _
  refine SettledBy.mapError ?_ fun check hcheck e hrefuses =>
    hrefuses.preparation hcheck
  exact hsettled

end Check

/-! ## The object file and the seeds -/

theorem absolute_eq_error_iff {host : Host σ} {s : σ} {path : String}
    {e : Error} :
    host.absolute s path = .error e ↔ Path.isAbsolute path = false ∧
      ∃ cause, host.workingDirectory s = .error cause ∧
        e = .io "Failed to get current directory" cause := by
  rw [Host.absolute]
  cases Path.isAbsolute path with
  | true => simp
  | false =>
    cases host.workingDirectory s with
    | ok directory => simp
    | error cause => simp [eq_comm]

/-- The path of the object file is first made absolute and then looked up. -/
theorem objectPathOf_eq (host : Host σ) (s : σ) (path : String) :
    objectPathOf host s path = (do
      let path ← (host.absolute s path).mapError .preparation
      (Path.parent? path).elim (.error (.outputInvalid path)) fun directory =>
        if host.isDirectory s directory then .ok path
        else .error (.outputDirectoryMissing directory)) := by
  rw [objectPathOf]
  cases host.absolute s path with
  | error e => rfl
  | ok path =>
      show _ = Option.elim _ _ _
      cases hparent : Path.parent? path with
      | none => simp only [hparent, Option.elim_none]
      | some directory => simp only [hparent, Option.elim_some]

/-- The extra seeds of the options; without a file there are none. -/
def seedsGiven (host : Host σ) (s : σ) :
    Option String → Except LiftError (List Address)
  | some path => do
    let text ← (host.readText s path).mapError fun cause =>
      .extraSeeds path (.io ("Failed to read " ++ path) cause)
    (AddressFile.parse path text).mapError (.extraSeeds path)
  | none => .ok []

namespace Check

variable {host : Host σ} {options : CommandOptions} {s : σ}

theorem settledBy_objectPathOf (host : Host σ) (options : CommandOptions)
    (s : σ) :
    SettledBy (Refuses host options s) [outputAbsolute, outputDirectory]
      (objectPathOf host s options.outputPath) := by
  rw [objectPathOf_eq]
  refine (settledBy_check fun e => ?_).bind fun path hpath =>
    settledBy_check fun e => ?_
  · rw [except_mapError_eq_error]
    constructor
    · rintro ⟨e, herror, rfl⟩
      obtain ⟨hrelative, cause, hdirectory, rfl⟩ :=
        absolute_eq_error_iff.mp herror
      exact .outputAbsolute hrelative hdirectory
    · intro hrefuses
      cases hrefuses with
      | outputAbsolute hrelative hdirectory =>
          exact ⟨_, absolute_eq_error_iff.mpr
            ⟨hrelative, _, hdirectory, rfl⟩, rfl⟩
  · rw [except_mapError_eq_ok] at hpath
    constructor
    · intro he
      cases hparent : Path.parent? path with
      | none =>
          rw [hparent] at he
          cases he
          exact .outputRoot hpath hparent
      | some directory =>
          rw [hparent] at he
          cases hthere : host.isDirectory s directory with
          | true => simp [hthere] at he
          | false =>
              simp only [Option.elim_some, hthere, Bool.false_eq_true,
                if_false] at he
              cases he
              exact .outputDirectory hpath hparent hthere
    · intro hrefuses
      cases hrefuses with
      | outputRoot hpath' hparent =>
          cases hpath.symm.trans hpath'
          rw [hparent, Option.elim_none]
      | outputDirectory hpath' hparent habsent =>
          cases hpath.symm.trans hpath'
          rw [hparent]
          simp [habsent]

theorem settledBy_seedsGiven (host : Host σ) (options : CommandOptions) (s : σ) :
    SettledBy (Refuses host options s) [seedsReadable, seedsFormed]
      (seedsGiven host s options.extraSeedsFile) := by
  cases hgiven : options.extraSeedsFile with
  | none =>
      intro check hcheck e hrefuses
      rcases List.mem_pair.mp hcheck with rfl | rfl
      · cases hrefuses with
        | seedsReadable hpath => cases hgiven.symm.trans hpath
      · cases hrefuses with
        | seedsFormed hpath => cases hgiven.symm.trans hpath
  | some path =>
      refine (settledBy_check fun e => ?_).bind fun text htext =>
        settledBy_check fun e => ?_
      · rw [except_mapError_eq_error]
        constructor
        · rintro ⟨cause, hread, rfl⟩
          exact .seedsReadable hgiven hread
        · intro hrefuses
          cases hrefuses with
          | seedsReadable hpath hread =>
              cases hgiven.symm.trans hpath
              exact ⟨_, hread, rfl⟩
      · rw [except_mapError_eq_ok] at htext
        rw [except_mapError_eq_error]
        constructor
        · rintro ⟨error, hparse, rfl⟩
          exact .seedsFormed hgiven htext hparse
        · intro hrefuses
          cases hrefuses with
          | seedsFormed hpath hread hparse =>
              cases hgiven.symm.trans hpath
              cases htext.symm.trans hread
              exact ⟨_, hparse, rfl⟩

end Check

/-! ## The preparation -/

/-- The locations that the preparation puts on record. -/
def settingsReady (host : Host σ) (options : CommandOptions) (s : σ) :
    Except LiftError ToolSettings := do
  requireImage host s options.imagePath
  (ToolSettings.settled host s options.settingsFile).mapError .preparation

/-- What the preparation answers. -/
def readiness (host : Host σ) (options : CommandOptions) (s : σ) :
    Except LiftError (ToolSettings × RunRequest) := do
  let settings ← settingsReady host options s
  let outputPath ← objectPathOf host s options.outputPath
  let extraSeeds ← seedsGiven host s options.extraSeedsFile
  .ok (settings, {
    imagePath := options.imagePath
    outputPath
    extraSeeds
    policy := options.policy })

/-- What the preparation puts on record. -/
def preparationNotes (host : Host σ) (options : CommandOptions) (s : σ) :
    List Note :=
  (settingsReady host options s).toOption.toList.map (ToolSettings.note host)

theorem settledBy_settingsReady (host : Host σ) (options : CommandOptions)
    (s : σ) :
    SettledBy (Check.Refuses host options s) (.image :: Check.ofSettings)
      (settingsReady host options s) := by
  have himage : SettledBy (Check.Refuses host options s) [.image]
      (requireImage host s options.imagePath) := by
    refine settledBy_demand fun e => ?_
    constructor
    · intro hrefuses
      cases hrefuses with
      | image habsent => exact ⟨habsent, rfl⟩
    · rintro ⟨habsent, rfl⟩
      exact .image habsent
  exact himage.bind fun _ _ => Check.settledBy_settled host options s

/-- The answer follows the checks. -/
theorem settledBy_readiness (host : Host σ) (options : CommandOptions) (s : σ) :
    SettledBy (Check.Refuses host options s) Check.all
      (readiness host options s) :=
  (settledBy_settingsReady host options s).bind fun _ _ =>
    (Check.settledBy_objectPathOf host options s).bind fun _ _ =>
      (Check.settledBy_seedsGiven host options s).bind fun _ _ =>
        settledBy_ok _

/-- Locations that are put on record are those of their sources. -/
theorem sources_of_settingsReady {host : Host σ} {options : CommandOptions}
    {s : σ} {settings : ToolSettings}
    (h : settingsReady host options s = .ok settings) (location : Location) :
    Check.Sources host options s location (settings.get location) := by
  obtain ⟨_, -, hsettled⟩ := except_bind_eq_ok.mp h
  obtain ⟨file, hfile, -, hsourced⟩ := ToolSettings.settled_eq_ok_iff.mp
    (except_mapError_eq_ok.mp hsettled)
  exact ⟨file, hfile, hsourced location⟩

/-- What leaves the state alone may be followed by what only looks at it. -/
theorem Activity.bind_of_looks {ω ε α β : Type} {x : Activity σ ω ε α}
    {f : α → Activity σ ω ε β} {s : σ} {answer : Except ε α} {notes : List ω}
    {next : α → Except ε β} (hx : x s = ⟨answer, s, notes⟩)
    (hf : ∀ a, f a s = ⟨next a, s, []⟩) :
    (x >>= f) s = ⟨answer >>= next, s, notes⟩ := by
  cases answer with
  | error e => exact Activity.bind_of_error hx f
  | ok a =>
      rw [Activity.bind_of_ok hx, hf a, List.append_nil]
      rfl

theorem extraSeedsOf_apply (host : Host σ) (path : String) (s : σ) :
    extraSeedsOf host path s = ⟨seedsGiven host s (some path), s, []⟩ := by
  have hread : AddressFile.read host path s =
      ⟨(do
        let text ← (host.readText s path).mapError
          (Error.io ("Failed to read " ++ path))
        AddressFile.parse path text), s, []⟩ :=
    Activity.bind_of_looks rfl fun _ => rfl
  rw [extraSeedsOf, Activity.mapError_apply, hread, seedsGiven]
  cases host.readText s path <;> rfl

/-- The first half of the preparation. -/
theorem settingsReady_apply (host : Host σ) (options : CommandOptions) (s : σ) :
    (do
      Activity.inspect fun s => requireImage host s options.imagePath
      (ToolSettings.prepare host options.settingsFile).mapError .preparation :
        Activity σ Note LiftError ToolSettings) s =
      ⟨settingsReady host options s, s, preparationNotes host options s⟩ := by
  rw [preparationNotes, settingsReady]
  cases himage : requireImage host s options.imagePath with
  | error e =>
      have hinspect : (Activity.inspect fun s =>
          requireImage host s options.imagePath : Activity σ Note LiftError Unit)
            s = ⟨.error e, s, []⟩ := by
        rw [Activity.inspect_apply, himage]
      exact Activity.bind_of_error hinspect _
  | ok u =>
      have hinspect : (Activity.inspect fun s =>
          requireImage host s options.imagePath : Activity σ Note LiftError Unit)
            s = ⟨.ok u, s, []⟩ := by
        rw [Activity.inspect_apply, himage]
      rw [Activity.bind_of_ok hinspect, Activity.mapError_apply]
      cases hsettled : ToolSettings.settled host s options.settingsFile with
      | error e =>
          rw [ToolSettings.prepare_of_error hsettled]
          rfl
      | ok settings =>
          rw [ToolSettings.prepare_of_ok hsettled]
          rfl

/-- The preparation only looks at the state, and puts the locations on record
once they are settled and checked. -/
theorem prepareLift_apply (host : Host σ) (options : CommandOptions) (s : σ) :
    prepareLift host options s =
      ⟨readiness host options s, s, preparationNotes host options s⟩ := by
  rw [prepareLift, ← bind_assoc, readiness]
  refine Activity.bind_of_looks (settingsReady_apply host options s)
    fun settings => ?_
  refine Activity.bind_of_looks rfl fun outputPath => ?_
  cases options.extraSeedsFile with
  | none => rfl
  | some path =>
      exact Activity.bind_of_looks (extraSeedsOf_apply host path s) fun _ => rfl

/-! ## The command -/

section Command

variable {host : Host σ} {options : CommandOptions} {s : σ}

/-- The record of the locations as it is put out. -/
def settingsRecord (host : Host σ) (settings : ToolSettings) : Output :=
  .log .debug ("tool configuration: " ++ host.library.describeSettings settings)

/-- What the preparation puts on record is put out in every style. -/
theorem flatMap_render_preparationNotes (style : ProgressStyle) :
    ((preparationNotes host options s).map Event.note).flatMap style.render =
      (settingsReady host options s).toOption.toList.map
        (settingsRecord host) := by
  rw [preparationNotes]
  cases (settingsReady host options s).toOption with
  | none => rfl
  | some settings => cases style <;> rfl

theorem prepareLift_told (host : Host σ) (options : CommandOptions) (s : σ) :
    (prepareLift host options).noted.retell options.style.render s =
      ⟨readiness host options s, s,
        (settingsReady host options s).toOption.toList.map
          (settingsRecord host)⟩ := by
  rw [Activity.retell_apply, Activity.noted, Activity.retell_apply,
    prepareLift_apply, ← flatMap_render_preparationNotes, ← List.map_eq_flatMap]

/-- The command ends with a refused preparation. -/
theorem liftExecutable_of_refused {e : LiftError}
    (h : readiness host options s = .error e) :
    liftExecutable host options s =
      ⟨.error e, s, (settingsReady host options s).toOption.toList.map
        (settingsRecord host)⟩ := by
  have htold := prepareLift_told host options s
  rw [h] at htold
  exact Activity.bind_of_error htold _

/-- A preparation that is accepted has put the locations on record. -/
theorem settingsReady_of_ready {settings : ToolSettings} {request : RunRequest}
    (h : readiness host options s = .ok (settings, request)) :
    settingsReady host options s = .ok settings := by
  obtain ⟨found, hfound, hrest⟩ := except_bind_eq_ok.mp h
  obtain ⟨_, -, hrest⟩ := except_bind_eq_ok.mp hrest
  obtain ⟨_, -, hrest⟩ := except_bind_eq_ok.mp hrest
  cases hrest
  exact hfound

/-- After an accepted preparation it is the run, told in the style of the
options, and an answer if the run succeeds. -/
theorem liftExecutable_of_ready {settings : ToolSettings} {request : RunRequest}
    (h : readiness host options s = .ok (settings, request)) :
    let outcome := run host (liftToolchain host settings options.symbolMap)
      request s
    liftExecutable host options s =
      ⟨outcome.value.mapError (.run options.imagePath), outcome.state,
        settingsRecord host settings ::
          (outcome.notes.flatMap options.style.render ++
            outcome.value.toOption.elim [] (liftAnswer options))⟩ := by
  intro outcome
  have hprepared : (prepareLift host options).noted.retell
      options.style.render s =
        ⟨.ok (settings, request), s, [settingsRecord host settings]⟩ := by
    rw [prepareLift_told, h, settingsReady_of_ready h]
    rfl
  rw [liftExecutable, Activity.bind_of_ok hprepared]
  have htold : ((run host (liftToolchain host settings options.symbolMap)
      request).mapError (LiftError.run options.imagePath)).retell
        options.style.render s =
      ⟨outcome.value.mapError (.run options.imagePath), outcome.state,
        outcome.notes.flatMap options.style.render⟩ := rfl
  cases hvalue : outcome.value with
  | error failure =>
      rw [hvalue] at htold
      simp only [Activity.bind_of_error htold]
      rw [Except.toOption, Option.elim_none, List.append_nil]
      rfl
  | ok report =>
      rw [hvalue] at htold
      simp only [Activity.bind_of_ok htold, Activity.reportAll_bind,
        Activity.pure_apply, List.append_nil]
      rfl

/-- A run begins with the report of its first state. -/
theorem take_lift_of_ready {settings : ToolSettings} {request : RunRequest}
    (h : readiness host options s = .ok (settings, request)) :
    (liftExecutable host options s).notes.take 2 =
      [settingsRecord host settings, .log .debug "state -> Init"] := by
  rw [liftExecutable_of_ready h, run, Activity.report_bind]
  cases options.style with
  | console => rfl
  | silent => rfl

/-- The first check that refuses settles the answer. -/
theorem readiness_of_firstRefusal {check : Check} {e : LiftError}
    (h : FirstRefusal (Check.Refuses host options s) Check.all check e) :
    readiness host options s = .error e := by
  have hsettled := settledBy_readiness host options s
  cases hready : readiness host options s with
  | ok prepared =>
      rw [hready] at hsettled
      obtain ⟨before, after, hall, hrefuses, -⟩ := h
      exact absurd hrefuses (hsettled check (by simp [hall]) e)
  | error e' =>
      rw [hready] at hsettled
      obtain ⟨check', hfirst⟩ := hsettled
      cases hfirst.check_eq h
      rw [hfirst.refusal.unique h.refusal]

theorem exists_ready (h : ∀ check e,
    ¬ FirstRefusal (Check.Refuses host options s) Check.all check e) :
    ∃ settings request, readiness host options s = .ok (settings, request) := by
  have hsettled := settledBy_readiness host options s
  cases hready : readiness host options s with
  | ok prepared => exact ⟨prepared.1, prepared.2, rfl⟩
  | error e =>
      rw [hready] at hsettled
      obtain ⟨check, hfirst⟩ := hsettled
      exact absurd hfirst (h check e)

/-- The record of the locations is there if the first check that refuses comes
after those on the settings, and not otherwise. -/
theorem records_of_firstRefusal {check : Check} {e : LiftError}
    (h : FirstRefusal (Check.Refuses host options s) Check.all check e) :
    (check ∈ .image :: Check.ofSettings →
      (settingsReady host options s).toOption = none) ∧
    (check ∉ .image :: Check.ofSettings → ∃ settings,
      (∀ location,
        Check.Sources host options s location (settings.get location)) ∧
      (settingsReady host options s).toOption = some settings) := by
  have hsettled := settledBy_settingsReady host options s
  cases hready : settingsReady host options s with
  | error e' =>
      rw [hready] at hsettled
      obtain ⟨other, before, after, hrow, hrefuses, -⟩ := hsettled
      have hsplit : FirstRefusal (Check.Refuses host options s)
          ((.image :: Check.ofSettings) ++ [.outputAbsolute, .outputDirectory,
            .seedsReadable, .seedsFormed]) check e := h
      refine ⟨fun _ => rfl, fun hcheck => ?_⟩
      exact absurd hrefuses (hsplit.unrefused hcheck other (by simp [hrow]) e')
  | ok settings =>
      rw [hready] at hsettled
      exact ⟨fun hcheck => absurd h.refusal (hsettled check hcheck e),
        fun _ => ⟨settings, sources_of_settingsReady hready, rfl⟩⟩

/-- If a check before the run refuses, the command fails with the error of the
first that does: the state is as it was, no process was started and neither a
state of a run nor an answer was put out.  Only the record of the locations was,
if it is a later check than those on the settings that refuses.  Only if no check
refuses is the run started, after that record; the outcome is that of the run,
and an error begins with what was to be lifted. -/
theorem lift_checked (host : Host σ) (options : CommandOptions) (s : σ) :
    (∀ check e,
      FirstRefusal (Check.Refuses host options s) Check.all check e →
      ∃ records,
        liftExecutable host options s = ⟨.error e, s, records⟩ ∧
        liftExecutable host.watching options (s, []) =
          ⟨.error e, (s, []), records⟩ ∧
        (check ∈ .image :: Check.ofSettings → records = []) ∧
        (check ∉ .image :: Check.ofSettings → ∃ settings,
          (∀ location,
            Check.Sources host options s location (settings.get location)) ∧
          records = [.log .debug ("tool configuration: " ++
            host.library.describeSettings settings)])) ∧
    ((∀ check e,
      ¬ FirstRefusal (Check.Refuses host options s) Check.all check e) →
      (∀ check ∈ Check.all, ∀ e, ¬ check.Refuses host options s e) ∧
      ∃ settings request,
        prepareLift host options s =
          ⟨.ok (settings, request), s, [ToolSettings.note host settings]⟩ ∧
        let started := run host (liftToolchain host settings options.symbolMap)
          request s
        let outcome := liftExecutable host options s
        outcome.notes.take 2 = [.log .debug ("tool configuration: " ++
          host.library.describeSettings settings),
          .log .debug "state -> Init"] ∧
        outcome.state = started.state ∧
        outcome.value = started.value.mapError (.run options.imagePath) ∧
        ∀ e, outcome.value = .error e →
          e.chain.head? = some ("Failed to lift " ++ options.imagePath)) := by
  constructor
  · intro check e hfirst
    have hready := readiness_of_firstRefusal hfirst
    have hwatched : readiness host.watching options (s, []) = .error e := hready
    obtain ⟨hnone, hsome⟩ := records_of_firstRefusal hfirst
    refine ⟨_, liftExecutable_of_refused hready,
      liftExecutable_of_refused hwatched, fun hcheck => ?_, fun hcheck => ?_⟩
    · rw [hnone hcheck]
      rfl
    · obtain ⟨settings, hsources, hsettings⟩ := hsome hcheck
      rw [hsettings]
      exact ⟨settings, hsources, rfl⟩
  · intro hnone
    obtain ⟨settings, request, hready⟩ := exists_ready hnone
    have hsettled := settledBy_readiness host options s
    rw [hready] at hsettled
    refine ⟨hsettled, settings, request, ?_, ?_⟩
    · rw [prepareLift_apply, hready, preparationNotes,
        settingsReady_of_ready hready]
      rfl
    · intro started outcome
      have hvalue : outcome.value =
          started.value.mapError (.run options.imagePath) :=
        congrArg Outcome.value (liftExecutable_of_ready hready)
      refine ⟨take_lift_of_ready hready,
        congrArg Outcome.state (liftExecutable_of_ready hready), hvalue, ?_⟩
      intro e he
      rw [hvalue, except_mapError_eq_error] at he
      obtain ⟨failure, -, rfl⟩ := he
      rfl

end Command

/-- Of two faults the first is reported, here a missing script and not a missing
directory.  With the script the directory is missed, after the locations have
been put on record.  Without faults the run is started, and its failure is told
as such. -/
theorem first_fault_reported :
    let options := { Run.benchOptions with outputPath := "/none/game.o" }
    let files := ["/game.exe", "/g/support/analyzeHeadless", "/t"]
    let missing := LiftError.preparation
      (.configuration "GetBBS.java not found at s/GetBBS.java")
    Check.Refuses Run.workbench options files .outputDirectory
      (.outputDirectoryMissing "/none") ∧
    liftExecutable Run.workbench options files = ⟨.error missing, files, []⟩ ∧
    (∃ settings, liftExecutable Run.workbench options Run.benchFiles =
      ⟨.error (.outputDirectoryMissing "/none"), Run.benchFiles,
        [.log .debug ("tool configuration: " ++
          Run.workbench.library.describeSettings settings)]⟩) ∧
    ∃ e, (liftExecutable Run.workbench Run.benchOptions
        Run.benchFiles).value = .error e ∧
      e.chain.head? = some "Failed to lift game.exe" := by
  intro options files missing
  have hfirst : ∀ files e, Run.errorOf (readiness Run.workbench options files) =
      some e → ∃ check, FirstRefusal (Check.Refuses Run.workbench options files)
        Check.all check e := by
    intro files e he
    have hsettled := settledBy_readiness Run.workbench options files
    rw [Run.eq_error_of_errorOf he] at hsettled
    exact hsettled
  refine ⟨?_, ?_, ?_, ?_⟩
  · have hpath : Run.workbench.absolute files options.outputPath =
        .ok "/none/game.o" := if_pos (by decide +kernel)
    exact .outputDirectory hpath (by decide +kernel) (by decide +kernel)
  · obtain ⟨check, hcheck⟩ := hfirst files missing (by decide +kernel)
    obtain ⟨records, hlift, -, hnone, -⟩ :=
      (lift_checked Run.workbench options files).1 check missing hcheck
    have hmem : check ∈ .image :: Check.ofSettings :=
      hcheck.refusal.mem_of_configuration
    rw [hlift, hnone hmem]
  · obtain ⟨check, hcheck⟩ := hfirst Run.benchFiles
      (.outputDirectoryMissing "/none") (by decide +kernel)
    obtain ⟨records, hlift, -, -, hsome⟩ :=
      (lift_checked Run.workbench options Run.benchFiles).1 check _ hcheck
    have hmem : check ∉ .image :: Check.ofSettings := by
      intro hmem
      cases hcheck.refusal with
      | outputDirectory => simp [Check.ofSettings] at hmem
    obtain ⟨settings, -, hrecords⟩ := hsome hmem
    exact ⟨settings, hrecords ▸ hlift⟩
  · have hnone : ∀ check e, ¬ FirstRefusal (Check.Refuses Run.workbench
        Run.benchOptions Run.benchFiles) Check.all check e := by
      intro check e hfirst
      have herror := congrArg Run.errorOf (readiness_of_firstRefusal hfirst)
      have hpassed : Run.errorOf (readiness Run.workbench Run.benchOptions
          Run.benchFiles) = none := by decide +kernel
      cases hpassed.symm.trans herror
    have hfails : (Run.errorOf (liftExecutable Run.workbench Run.benchOptions
        Run.benchFiles).value).isSome = true := by decide +kernel
    obtain ⟨e, he⟩ := Option.isSome_iff_exists.mp hfails
    obtain ⟨-, settings, request, -, -, -, -, hchain⟩ :=
      (lift_checked Run.workbench Run.benchOptions Run.benchFiles).2 hnone
    have hvalue := Run.eq_error_of_errorOf he
    exact ⟨e, hvalue, hchain e hvalue⟩

end Relift
