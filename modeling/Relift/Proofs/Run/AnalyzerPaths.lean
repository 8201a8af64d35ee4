import Relift.Proofs.Run.Processes
import Relift.Proofs.Settings

/-!
# The paths that the analyzer is given

The analyzer is the one tool that does not run in the directory of the caller:
its directory is the scratch directory of the recovery.  A path in its command
names what the caller means only if it is absolute.  The run takes care of that
for the executable and for everything in the scratch directory.  The places of
the analyzer and of its script are used as they were settled, and the check of
them is made from the directory of the caller.

## Main results

* `isAbsolute_iff_join` — absolute paths are those that mean the same from
  every directory.
* `recoveries_of_run` — the recovery jobs of any run.
* `analyzer_command_paths` — which paths in the command are absolute.
* `relative_analyzer_unfound` — a checked analyzer that is not found by the run.
-/

namespace Relift

open Activity

variable {σ : Type}

/-! ## Absolute paths -/

namespace Path

/-- Absolute paths are those that mean the same seen from every base: a relative
one is longer by a slash when it is seen from the root. -/
theorem isAbsolute_iff_join {path : String} :
    isAbsolute path = true ↔ ∀ base, join base path = path := by
  constructor
  · intro h base
    rw [join, h, Bool.true_or, if_pos rfl]
  · intro h
    by_contra hrelative
    have hroot : join "/" path = "/" ++ path := by
      simp [join, hrelative]
    have hlength := congrArg String.length ((h "/").symm.trans hroot)
    rw [String.length_append] at hlength
    have hslash : "/".length = 1 := by decide
    omega

/-- A relative part leaves open or closed what its base does: the joined path
begins with the base, unless that is empty. -/
theorem isAbsolute_join_of_relative (base : String) {part : String}
    (hpart : isAbsolute part = false) :
    isAbsolute (join base part) = isAbsolute base := by
  cases hbase : isAbsolute base with
  | true => exact isAbsolute_join hbase part
  | false =>
      by_cases hempty : base.isEmpty = true
      · simpa [join, hempty] using hpart
      · have hjoin : ∃ after, (join base part).toList =
            base.toList ++ after := by
          by_cases hlast : base.toList.getLast? = some '/'
          · exact ⟨part.toList, by simp [join, hpart, hempty, hlast]⟩
          · exact ⟨'/' :: part.toList, by simp [join, hpart, hempty, hlast]⟩
        obtain ⟨after, hafter⟩ := hjoin
        have hne : base.toList ≠ [] := by
          simpa [String.isEmpty_iff] using hempty
        rw [isAbsolute, hafter, List.head?_append_of_ne_nil _ hne]
        exact hbase

theorem isAbsolute_joinAll {parts : List String}
    (hparts : ∀ part ∈ parts, isAbsolute part = false) :
    ∀ base, isAbsolute (joinAll base parts) = isAbsolute base := by
  induction parts with
  | nil => intro base; rfl
  | cons part rest ih =>
      intro base
      have hrest : ∀ part ∈ rest, isAbsolute part = false :=
        fun other hother => hparts other (List.mem_cons_of_mem part hother)
      show isAbsolute (joinAll (join base part) rest) = isAbsolute base
      rw [ih hrest, isAbsolute_join_of_relative base (hparts part (by simp))]

end Path

/-- The analyzer is where its installation is. -/
theorem ToolSettings.isAbsolute_analyzer (settings : ToolSettings) :
    Path.isAbsolute settings.analyzer = Path.isAbsolute settings.ghidra :=
  Path.isAbsolute_joinAll (by decide) settings.ghidra

/-- The host tells its working directory and its scratch directories by
absolute paths. -/
structure Host.Rooted (host : Host σ) : Prop where
  workingDirectory : ∀ {s directory},
    host.workingDirectory s = .ok directory →
      Path.isAbsolute directory = true
  makeScratch : ∀ {directory label s path s'},
    host.makeScratch directory label s = (.ok path, s') →
      Path.isAbsolute path = true

theorem Host.Rooted.absolute {host : Host σ} (rooted : host.Rooted) {s : σ}
    {path result : String} (h : host.absolute s path = .ok result) :
    Path.isAbsolute result = true := by
  rw [Host.absolute] at h
  by_cases hpath : Path.isAbsolute path = true
  · rw [if_pos hpath] at h
    cases h
    exact hpath
  · rw [if_neg hpath] at h
    cases hdirectory : host.workingDirectory s with
    | error cause => rw [hdirectory] at h; cases h
    | ok directory =>
        rw [hdirectory] at h
        cases h
        exact Path.isAbsolute_join (rooted.workingDirectory hdirectory) path

/-! ## Recovery jobs -/

namespace Run

/-- The recovery jobs of a record are made for an executable and for scratch
directories. -/
def FromScratch (host : Host σ) (imagePath : String) (calls : Handovers σ) :
    Prop :=
  ∀ job before, (.recover job, before) ∈ calls →
    ∃ directory label s₁ scratch s₂ image,
      host.makeScratch directory label s₁ = (.ok scratch, s₂) ∧
      job = recoveryJob imagePath image scratch

theorem FromScratch.concat {host : Host σ} {imagePath : String}
    {calls : Handovers σ} (h : FromScratch host imagePath calls) {job : Job}
    {s : σ} (hjob : FromScratch host imagePath [(job, s)]) :
    FromScratch host imagePath (calls ++ [(job, s)]) := by
  intro other before hmem
  rcases List.mem_append.mp hmem with hmem | hmem
  · exact h other before hmem
  · exact hjob other before hmem

/-- One stage after the other: the stage of recovery adds such a job, and no
other stage adds one. -/
theorem fromScratch_step (plan : Plan σ) (stage : Stage) (ledger : Ledger) :
    (plan.recording.body stage ledger).Keeps
      fun s => FromScratch plan.host plan.imagePath s.2 := by
  rw [keeps_iff_wp]
  rintro ⟨s, calls⟩ h
  have hrecovery : ∀ {s₁ scratch s₂ image before},
      plan.host.makeScratch plan.workspace.recovery "recover-" s₁ =
        (.ok scratch, s₂) →
      FromScratch plan.host plan.imagePath
        [(.recover (recoveryJob plan.imagePath image scratch), before)] := by
    intro s₁ scratch s₂ image before hmade job other hmem
    cases List.mem_singleton.mp hmem
    exact ⟨_, _, s₁, scratch, s₂, image, hmade, rfl⟩
  have hlater : ∀ {job : Job} {before : σ}, job.stage ≠ .recover →
      FromScratch plan.host plan.imagePath [(job, before)] := by
    intro job before hstage other before' hmem
    cases List.mem_singleton.mp hmem
    exact absurd rfl hstage
  have hunasked : stage.asks = false →
      (plan.recording.body stage ledger).wp
        (fun _ s' => FromScratch plan.host plan.imagePath s'.2)
        (fun _ s' => FromScratch plan.host plan.imagePath s'.2) (s, calls) := by
    intro hasks
    refine wp_mono (keeps_iff_wp.mp (leavesRecord_body plan hasks ledger calls)
      (s, calls) rfl) ?_ ?_ <;>
    · rintro _ ⟨s', _⟩ rfl
      exact h
  cases stage with
  | extract => exact hunasked rfl
  | recover =>
      refine wp_bind.mpr (wp_mono (wp_recoverBody_course plan.imagePath
        ledger.image ledger.correlation.seeds plan.workspace s calls) ?_ ?_)
      · rintro _ ⟨s', _⟩ ⟨_, _, _, _, _, hmade, rfl, -⟩
        exact h.concat (hrecovery hmade)
      · rintro e ⟨s', _⟩ (⟨rfl, -⟩ | ⟨_, _, _, _, hmade, rfl, -⟩)
        · exact h
        · exact h.concat (hrecovery hmade)
  | serialize => exact hunasked rfl
  | lift =>
      refine wp_bind.mpr (wp_mono
        (wp_liftBody ledger.image.loadAddress plan.workspace s calls) ?_ ?_) <;>
      · rintro _ ⟨s', _⟩ ⟨rfl, -⟩
        exact h.concat (hlater nofun)
  | recompile =>
      refine wp_bind.mpr (wp_mono
        (wp_recompileBody ledger.irPath ledger.objectPath s calls) ?_ ?_) <;>
      · rintro _ ⟨s', _⟩ ⟨rfl, -⟩
        exact h.concat (hlater nofun)

/-- The recovery jobs of a record are for the executable of a request, by its
absolute path. -/
def ForRequest (host : Host σ) (request : RunRequest) (s : σ)
    (calls : Handovers σ) : Prop :=
  ∀ job before, (.recover job, before) ∈ calls →
    ∃ imagePath, host.absolute s request.imagePath = .ok imagePath ∧
      FromScratch host imagePath [(.recover job, before)]

theorem FromScratch.forRequest {host : Host σ} {imagePath : String}
    {request : RunRequest} {s : σ} {calls : Handovers σ}
    (h : FromScratch host imagePath calls)
    (himage : host.absolute s request.imagePath = .ok imagePath) :
    ForRequest host request s calls := by
  intro job before hmem
  refine ⟨imagePath, himage, fun other before' hsame => ?_⟩
  cases List.mem_singleton.mp hsame
  exact h job before hmem

theorem wp_forRequest (host : Host σ) (tools : Toolchain σ)
    (request : RunRequest) (start : σ) :
    (run host.recording tools.recording request).wp
      (fun _ s => ForRequest host request start s.2)
      (fun _ s => ForRequest host request start s.2) (start, []) := by
  rw [wp_run]
  refine wp_mono (wp_prepare host tools request start) ?_ ?_
  · rintro ⟨imagePath, objectPath, workspace⟩ ⟨s₀, calls⟩ ⟨rfl, begins⟩
    let invariant (_ : List Stage) (_ : Ledger) (s : σ × Handovers σ) :=
      FromScratch host imagePath s.2
    let fault (_ : RunFailure) (s : σ × Handovers σ) :=
      FromScratch host imagePath s.2
    have hopened : invariant Stage.all (.blank objectPath) (s₀, []) :=
      fun _ _ hmem => absurd hmem List.not_mem_nil
    have hstep : ∀ stage rest ledger s, invariant (stage :: rest) ledger s →
        (Plan.body (Plan.recording ⟨host, tools, request, imagePath, workspace⟩)
          stage ledger).wp (invariant rest) (fun e => fault ⟨stage, e⟩) s :=
      fun stage _ ledger s h => keeps_iff_wp.mp (fromScratch_step
        ⟨host, tools, request, imagePath, workspace⟩ stage ledger) s h
    refine wp_mono (wp_drive hstep Stage.all [] _ _ hopened) ?_ ?_
    · rintro result s ⟨h, -⟩
      exact h.forRequest begins.imagePath
    · intro _ s h
      exact h.forRequest begins.imagePath
  · rintro e ⟨s, _⟩ rfl
    exact fun _ _ hmem => absurd hmem List.not_mem_nil

/-- The recovery jobs of a run are for the executable of the request, by its
absolute path, and for scratch directories. -/
theorem recoveries_of_run {host : Host σ} {tools : Toolchain σ}
    {request : RunRequest} {s before : σ} {job : RecoveryJob}
    (h : (.recover job, before) ∈ handovers host tools request s) :
    ∃ imagePath directory label s₁ scratch s₂ image,
      host.absolute s request.imagePath = .ok imagePath ∧
      host.makeScratch directory label s₁ = (.ok scratch, s₂) ∧
      job = recoveryJob imagePath image scratch := by
  have hcalls : ForRequest host request s (handovers host tools request s) := by
    rcases answer_of_recorded (wp_forRequest host tools request s) with
      ⟨_, _, -, hcalls⟩ | ⟨_, _, -, hcalls⟩ <;>
    exact hcalls
  obtain ⟨imagePath, himage, hscratch⟩ := hcalls job before h
  obtain ⟨directory, label, s₁, scratch, s₂, image, hmade, hjob⟩ :=
    hscratch job before (by simp)
  exact ⟨imagePath, directory, label, s₁, scratch, s₂, image, himage, hmade,
    hjob⟩

/-! ## The command of the analyzer -/

/-- What the command prepares: the settled and checked locations, and a request
for the executable as it was named.  Nothing is changed. -/
theorem wp_prepareLift (host : Host σ) (options : CommandOptions) (s : σ) :
    (prepareLift host options).wp
      (fun prepared s' => s' = s ∧
        (ToolSettings.prepare host options.settingsFile s).value =
          .ok prepared.1 ∧
        objectPathOf host s options.outputPath = .ok prepared.2.outputPath ∧
        prepared.2.imagePath = options.imagePath)
      (fun _ s' => s' = s) s := by
  rw [prepareLift, wp_bind, wp_inspect]
  refine ⟨fun _ _ => ?_, fun _ _ => rfl⟩
  rw [wp_bind, wp_mapError]
  refine wp_mono (ToolSettings.wp_prepare host options.settingsFile s) ?_
    fun _ _ h => h
  rintro settings _ ⟨rfl, hsettings⟩
  rw [wp_bind, wp_inspect]
  refine ⟨fun outputPath houtput => ?_, fun _ _ => rfl⟩
  cases options.extraSeedsFile with
  | none => exact ⟨rfl, hsettings, houtput, rfl⟩
  | some path =>
      refine wp_bind.mpr ?_
      rw [extraSeedsOf, wp_mapError, AddressFile.read, wp_bind, Host.exchangeIn,
        wp_mapError, wp_inspect]
      refine ⟨fun body _ => ?_, fun _ _ => rfl⟩
      rw [wp_ofExcept]
      exact ⟨fun _ _ => ⟨rfl, hsettings, houtput, rfl⟩, fun _ _ => rfl⟩

/-- The paths in the command of the analyzer. -/
def analyzerPaths (settings : ToolSettings) (job : RecoveryJob) : List String :=
  [settings.analyzer, job.workDirectory, job.imagePath, job.resultPath,
    job.seedsPath, settings.scripts]

/-- Of the commands of a run only the analyzer's has a directory of its own. -/
theorem analyzer_of_started {host : Host σ} {settings : ToolSettings}
    {source : SymbolSource σ} {request : RunRequest} {s before : σ}
    {command : Command} {directory : String}
    (h : (command, before) ∈ started host settings source request s)
    (hdirectory : command.directory = some directory) :
    ∃ job, command = Engine.command settings job ∧
      (.recover job, before) ∈
        handovers host (.external host settings source) request s := by
  rw [started_eq, processes, List.mem_map] at h
  obtain ⟨⟨job, before'⟩, hmem, hcommand⟩ := h
  cases hcommand
  cases job with
  | recover job => exact ⟨job, rfl, hmem⟩
  | lift job => cases hdirectory
  | recompile job => cases hdirectory

/-- In the command that the analyzer is started with, its directory, the
executable and the files of the recovery are given by absolute paths, whatever
the options were.  The places of the analyzer and of its script are given as
they were settled from the settings file, the environment and the package: all
paths in the command are absolute just if these two are.  That they were found
by the check says nothing about that.  A path means the same from the analyzer's
directory and from any other just if it is absolute. -/
theorem analyzer_command_paths {host : Host σ} (rooted : host.Rooted)
    {options : CommandOptions} {s s' before : σ} {settings : ToolSettings}
    {request : RunRequest} {notes : List Note} {command : Command}
    {directory : String}
    (hprepared : prepareLift host options s =
      ⟨.ok (settings, request), s', notes⟩)
    (hstarted : (command, before) ∈
      started host settings (liftSource host options.symbolMap) request s')
    (hdirectory : command.directory = some directory) :
    (ToolSettings.prepare host options.settingsFile s).value = .ok settings ∧
    (∃ job, command = Engine.command settings job ∧
      directory = job.workDirectory ∧
      host.absolute s options.imagePath = .ok job.imagePath ∧
      (∀ path ∈ [job.workDirectory, job.imagePath, job.resultPath,
        job.seedsPath], Path.isAbsolute path = true) ∧
      ((∀ path ∈ analyzerPaths settings job, Path.isAbsolute path = true) ↔
        Path.isAbsolute settings.ghidra = true ∧
          Path.isAbsolute settings.scripts = true)) ∧
    ∀ path, Path.isAbsolute path = true ↔ ∀ base, Path.join base path = path := by
  have hwp := (wp_of_ok hprepared).mp (wp_prepareLift host options s)
  obtain ⟨rfl, hsettings, -, himagePath⟩ := hwp
  obtain ⟨job, rfl, hcalled⟩ := analyzer_of_started hstarted hdirectory
  obtain ⟨imagePath, _, _, _, scratch, _, image, himage, hmade, rfl⟩ :=
    recoveries_of_run hcalled
  cases hdirectory
  have hscratch : Path.isAbsolute scratch = true := rooted.makeScratch hmade
  have howned : ∀ path ∈ [scratch, imagePath, (RecoveryArea.mk scratch).result,
      (RecoveryArea.mk scratch).seeds], Path.isAbsolute path = true := by
    simp only [List.forall_mem_cons]
    exact ⟨hscratch, rooted.absolute himage, Path.isAbsolute_join hscratch _,
      Path.isAbsolute_join hscratch _, nofun⟩
  rw [himagePath] at himage
  refine ⟨hsettings, ⟨_, rfl, rfl, himage, howned, ?_⟩,
    fun path => Path.isAbsolute_iff_join⟩
  rw [analyzerPaths, List.forall_mem_cons, settings.isAbsolute_analyzer]
  constructor
  · rintro ⟨hghidra, hrest⟩
    exact ⟨hghidra, hrest settings.scripts (by simp)⟩
  · rintro ⟨hghidra, hscripts⟩
    refine ⟨hghidra, fun path hpath => ?_⟩
    rcases List.mem_append.mp
      (show path ∈ [scratch, imagePath, (RecoveryArea.mk scratch).result,
        (RecoveryArea.mk scratch).seeds] ++ [settings.scripts] from hpath)
      with hpath | hpath
    · exact howned path hpath
    · cases List.mem_singleton.mp hpath
      exact hscripts

/-- A host that knows of its files no more than their paths.  A program is
looked for from the directory of its command. -/
def workbench : Host (List String) where
  library := Machine.library
  workingDirectory _ := .ok "/"
  temporaryDirectory _ := "/tmp"
  executable _ := none
  environment _ key :=
    [("GHIDRA", "g"), ("UWIN_GHIDRA_SCRIPTS", "s"), ("UWIN_LIFT_PATH", "/t"),
      ("UWIN_CLANG_PATH", "/t"), ("UWIN_SEMANTICS_DIR", "/"),
      ("UWIN_INTRINSICS_PATH", "/t")].lookup key
  clock _ := 0
  isFile files path := files.contains (Path.join "/" path)
  isDirectory _ path := path = "/"
  readBytes _ _ := .ok smallImage
  writeBytes path _ files := (.ok (), Path.join "/" path :: files)
  makeDirectories _ files := (.ok (), files)
  makeScratch directory label files :=
    (.ok (Path.join "/" (Path.join directory label)), files)
  removeDirectory _ files := files
  spawn command files :=
    let directory := command.directory.getD "/"
    if files.contains (Path.join directory command.program) then
      (.ok ⟨.exited 0, [], []⟩, command.arguments ++ files)
    else (.error .notFound, files)

theorem rooted_workbench : workbench.Rooted where
  workingDirectory h := by cases h; decide
  makeScratch h := by cases h; exact Path.isAbsolute_join (by decide) _

/-- An executable and all tools. -/
def benchFiles : List String :=
  ["/game.exe", "/g/support/analyzeHeadless", "/s/GetBBS.java", "/t"]

def benchOptions : CommandOptions :=
  ⟨"game.exe", "game.o", none, none, none, .keepFirst, true, false⟩

/-- The analyzer passes the check and yet is not found: it is looked for from
the scratch directory. -/
theorem relative_analyzer_unfound :
    (liftExecutable workbench benchOptions benchFiles).value =
      .error (.run "game.exe" ⟨.recover, .externalTool "ghidra"
        "failed to spawn" SystemError.notFound.message⟩) ∧
    ∃ settings request notes command before job,
      prepareLift workbench benchOptions benchFiles =
        ⟨.ok (settings, request), benchFiles, notes⟩ ∧
      (command, before) ∈ started workbench settings (liftSource workbench none)
        request benchFiles ∧
      command = Engine.command settings job ∧
      ¬ ∀ path ∈ analyzerPaths settings job, Path.isAbsolute path = true := by
  have hstarts : (prepareLift workbench benchOptions
      benchFiles).value.toOption.any (fun prepared =>
        prepared.1.ghidra = "g" && (started workbench prepared.1
          (liftSource workbench none) prepared.2 benchFiles).any
            fun start => start.1.directory.isSome) = true := by
    decide +kernel
  constructor
  · exact eq_error_of_errorOf (by decide +kernel)
  · rcases h : prepareLift workbench benchOptions benchFiles with
      ⟨error | ⟨settings, request⟩, files, notes⟩
    · rw [h] at hstarts; cases hstarts
    · obtain ⟨rfl, -⟩ :=
        (wp_of_ok h).mp (wp_prepareLift workbench benchOptions benchFiles)
      rw [h] at hstarts
      obtain ⟨hghidra, hstarts⟩ := (Bool.and_eq_true _ _).mp hstarts
      obtain ⟨⟨command, before⟩, hmem, hsome⟩ := List.any_eq_true.mp hstarts
      obtain ⟨directory, hdirectory⟩ := Option.isSome_iff_exists.mp hsome
      obtain ⟨-, ⟨job, hcommand, -, -, -, hpaths⟩, -⟩ :=
        analyzer_command_paths rooted_workbench h hmem hdirectory
      refine ⟨settings, request, notes, command, before, job, rfl, hmem,
        hcommand, fun hall => ?_⟩
      obtain ⟨habsolute, -⟩ := hpaths.mp hall
      rw [of_decide_eq_true hghidra] at habsolute
      exact absurd habsolute (by decide)

end Run

end Relift
