import Relift.CommandLine.Lift
import Relift.Proofs.Run.Dataflow

/-!
# The products of external tools

An external tool has done its work when it ended with success and a file stands
where its product is to be.  Whether the tool has written that file is not
asked.  A run that succeeds has had each of its tools end with success and leave
a file; but a tool that leaves its product as it was is found out only if there
was no file before.

## Main results

* `products_of_run` — what a success says about the products, and what comes of
  a tool that does nothing.
* `stale_object_accepted` — a run that succeeds although the compiler of the run
  has left everything as it was.
-/

namespace Relift

open Activity

variable {σ : Type}

/-! ## Tools and their jobs -/

namespace Job

/-- The tool that does a job. -/
def tool : Job → String
  | recover _ => "ghidra"
  | lift _ => "uwin-lift"
  | recompile _ => "uwin-clang"

/-- The command of that tool. -/
def command (settings : ToolSettings) : Job → Command
  | recover job => Engine.command settings job
  | lift job => Lifter.command settings job
  | recompile job => Compiler.command settings job

/-- The file that a job asks for. -/
def product : Job → String
  | recover job => job.resultPath
  | lift job => job.irPath
  | recompile job => job.objectPath

end Job

/-- The collaborators that are programs of their own, with any symbol source. -/
def Toolchain.external (host : Host σ) (settings : ToolSettings)
    (source : SymbolSource σ) : Toolchain σ where
  source
  engine := .ghidra host settings
  lifter := .uwinLift host settings
  compiler := .uwinClang host settings

/-- The command runs with such a toolchain. -/
example (host : Host σ) (settings : ToolSettings) (symbolMap : Option String) :
    liftToolchain host settings symbolMap =
      .external host settings (liftSource host symbolMap) := rfl

/-- A process that starts in a state ends with success, in another state. -/
def Host.Ends (host : Host σ) (command : Command) (s : σ)
    (result : ProcessResult) (s' : σ) : Prop :=
  host.spawn command s = (.ok result, s') ∧ result.status.isSuccess = true

/-- The failure of a tool that ends with success and leaves no file. -/
def missingProduct (tool path log : String) : Error :=
  .externalTool tool ("exited successfully but produced no " ++ path) log

/-- The check comes after the process: only what is there then counts. -/
theorem runForProduct_of_ends {host : Host σ} {command : Command} {s s' : σ}
    {result : ProcessResult} (h : host.Ends command s result s')
    (tool path : String) :
    (runForProduct host tool command path s).value =
      if host.isFile s' path then .ok ()
      else .error (missingProduct tool path result.log) := by
  obtain ⟨hspawn, hsuccess⟩ := h
  have htool : runTool host tool command s = ⟨.ok result.log, s',
      [.debug ("running " ++ tool ++ ": " ++
        host.library.describeCommand command)]⟩ := by
    simp [runTool, hspawn, hsuccess]
  rw [runForProduct, bind_of_ok htool]
  rfl

/-- Everything that can come of a tool that is to leave a file. -/
theorem wp_runForProduct (host : Host σ) (tool : String) (command : Command)
    (path : String) (s : σ) :
    (runForProduct host tool command path).wp
      (fun _ s' => ∃ result, host.Ends command s result s' ∧
        host.isFile s' path = true)
      (fun e s' =>
        (∃ cause, host.spawn command s = (.error cause, s') ∧
          e = .externalTool tool "failed to spawn" cause.message) ∨
        (∃ result, host.spawn command s = (.ok result, s') ∧
          result.status.isSuccess = false ∧
          e = .externalTool tool result.status.display result.log) ∨
        ∃ result, host.Ends command s result s' ∧
          host.isFile s' path = false ∧
          e = missingProduct tool path result.log) s := by
  rw [runForProduct, wp_bind, runTool, wp_bind, wp_report, wp_bind, wp_settle,
    wp_perform]
  refine ⟨fun result s' hspawn => ?_, fun cause s' hspawn => ?_⟩
  · by_cases hsuccess : result.status.isSuccess = true
    · simp only [if_pos hsuccess, wp_pure, requireProduct, wp_inspect]
      by_cases hfile : host.isFile s' path = true
      · simp only [if_pos hfile]
        exact ⟨fun _ _ => ⟨result, ⟨hspawn, hsuccess⟩, hfile⟩, nofun⟩
      · simp only [if_neg hfile]
        refine ⟨nofun, fun e he => .inr (.inr ?_)⟩
        cases he
        exact ⟨result, ⟨hspawn, hsuccess⟩, by simpa using hfile, rfl⟩
    · simp only [if_neg hsuccess, wp_bind, wp_report, wp_fail]
      exact .inr (.inl ⟨result, hspawn, by simpa using hsuccess, rfl⟩)
  · exact (wp_fail _).mpr (.inl ⟨cause, hspawn, rfl⟩)

/-- A tool is accepted only after it ended with success, and with a file in the
place of its product. -/
theorem ends_of_runForProduct {host : Host σ} {command : Command} {s : σ}
    {tool path : String}
    (h : (runForProduct host tool command path s).value = .ok ()) :
    ∃ result s', host.Ends command s result s' ∧
      host.isFile s' path = true := by
  have hwp := wp_runForProduct host tool command path s
  rw [wp, h] at hwp
  obtain ⟨result, hends, hfile⟩ := hwp
  exact ⟨result, _, hends, hfile⟩

namespace Toolchain

variable {host : Host σ} {settings : ToolSettings} {source : SymbolSource σ}

private theorem value_bind_pure {α β : Type} (x : Activity σ Note Error α)
    (b : β) (s : σ) :
    ((x >>= fun _ => pure b) s).value = (x s).value.map fun _ => b := by
  rcases h : x s with ⟨e | a, s', notes⟩
  · rw [bind_of_error h]
    rfl
  · rw [bind_of_ok h]
    rfl

theorem value_external_lift (job : LiftingJob) (s : σ) :
    ((external host settings source).lifter.lift job s).value =
      (runForProduct host "uwin-lift" (Lifter.command settings job) job.irPath
        s).value.map fun _ => job.irPath :=
  value_bind_pure _ _ _

theorem value_external_recompile (job : CompilationJob) (s : σ) :
    ((external host settings source).compiler.recompile job s).value =
      (runForProduct host "uwin-clang" (Compiler.command settings job)
        job.objectPath s).value.map fun _ => job.objectPath :=
  value_bind_pure _ _ _

/-- An external tool refuses a job for the error of its process or of its
product. -/
theorem external_refuses {job : Job} {s : σ} {e : Error} :
    (external host settings source).Refuses job s e ↔
      (runForProduct host job.tool (job.command settings) job.product s).value =
        .error e := by
  cases job with
  | recover job => exact Iff.rfl
  | lift job => rw [Refuses, value_external_lift, map_eq_error_iff]; rfl
  | recompile job => rw [Refuses, value_external_recompile, map_eq_error_iff]; rfl

/-- A job that is not refused has had its process end with success and leave a
file. -/
theorem ends_of_not_refuses {job : Job} {s : σ}
    (h : ∀ e, ¬ (external host settings source).Refuses job s e) :
    ∃ result s', host.Ends (job.command settings) s result s' ∧
      host.isFile s' job.product = true := by
  cases hvalue : (runForProduct host job.tool (job.command settings)
      job.product s).value with
  | error e => exact absurd (external_refuses.mpr hvalue) (h e)
  | ok _ => exact ends_of_runForProduct hvalue

/-- The compiler that does not refuse tells the path it was given. -/
theorem recompile_eq_ok {job : CompilationJob} {s : σ}
    (h : ∀ e, ¬ (external host settings source).Refuses (.recompile job) s e) :
    ((external host settings source).compiler.recompile job s).value =
      .ok job.objectPath := by
  cases hvalue : (runForProduct host "uwin-clang"
      (Compiler.command settings job) job.objectPath s).value with
  | error e =>
      have hrefused : (external host settings source).Refuses (.recompile job) s
          e := by
        rw [external_refuses]
        exact hvalue
      exact absurd hrefused (h e)
  | ok _ => rw [value_external_recompile, hvalue]; rfl

end Toolchain

/-! ## Tools that do nothing -/

/-- A process ends with success, and there is a file at a path after it just if
there was one before. -/
def Host.Idles (host : Host σ) (command : Command) (path : String) (s : σ)
    (result : ProcessResult) : Prop :=
  ∃ s', host.Ends command s result s' ∧ host.isFile s' path = host.isFile s path

/-- What comes of a tool that does nothing for its product is decided by what
was there before it. -/
theorem runForProduct_of_idles {host : Host σ} {command : Command} {s : σ}
    {path : String} {result : ProcessResult}
    (h : host.Idles command path s result) (tool : String) :
    (runForProduct host tool command path s).value =
      if host.isFile s path then .ok ()
      else .error (missingProduct tool path result.log) := by
  obtain ⟨s', hends, hfile⟩ := h
  rw [runForProduct_of_ends hends, hfile]

namespace Toolchain

variable {host : Host σ} {settings : ToolSettings} {source : SymbolSource σ}
  {job : Job} {s : σ} {result : ProcessResult}

theorem refuses_of_idles
    (h : host.Idles (job.command settings) job.product s result)
    (hnone : host.isFile s job.product = false) :
    (external host settings source).Refuses job s
      (missingProduct job.tool job.product result.log) := by
  rw [external_refuses, runForProduct_of_idles h, hnone]
  rfl

theorem not_refuses_of_idles
    (h : host.Idles (job.command settings) job.product s result)
    (hstale : host.isFile s job.product = true) (e : Error) :
    ¬ (external host settings source).Refuses job s e := by
  rw [external_refuses, runForProduct_of_idles h, if_pos hstale]
  exact nofun

end Toolchain

/-! ## Whole runs -/

namespace Run

/-- The object file of a run that succeeds stands where the request says, and
the compiler was given that place. -/
theorem objectPath_of_ok {host : Host σ} {settings : ToolSettings}
    {source : SymbolSource σ} {request : RunRequest} {s : σ} {report : Report}
    (h : (run host (.external host settings source) request s).value =
      .ok report) :
    host.absolute s request.outputPath = .ok report.objectPath ∧
    ∀ compilation before, (.recompile compilation, before) ∈
        handovers host (.external host settings source) request s →
      compilation.objectPath = report.objectPath := by
  obtain ⟨recovery, s₀, lifting, s₁, compilation, s₂, hcalls, -, -, hcompiled,
    habsolute⟩ := handovers_of_ok h
  have hpath : compilation.objectPath = report.objectPath := by
    have haccepted := Toolchain.recompile_eq_ok fun e hrefused =>
      nomatch hcompiled.symm.trans hrefused
    exact Except.ok.inj (haccepted.symm.trans hcompiled)
  refine ⟨hpath ▸ habsolute, fun other before hmem => ?_⟩
  have hsame : other = compilation ∧ before = s₂ := by
    simpa [hcalls] using hmem
  rw [hsame.1, hpath]

/-- The products of a run with external tools.  If the run succeeds, each tool
ended with success and left a file, which it has made if there was none before;
the report tells where the compiler's stands.  A tool that does nothing for its
product ends the run if no file was there before it.  If one was there, the
tool is not refused; and the run succeeds if the tool was the compiler. -/
theorem products_of_run (host : Host σ) (settings : ToolSettings)
    (source : SymbolSource σ) (request : RunRequest) (s : σ) :
    let tools := Toolchain.external host settings source
    let answer := (run host tools request s).value
    let calls := handovers host tools request s
    (∀ report, answer = .ok report →
      host.absolute s request.outputPath = .ok report.objectPath ∧
      calls.map (fun call => call.1.stage) = [.recover, .lift, .recompile] ∧
      ∀ job before, (job, before) ∈ calls →
        (job.stage = .recompile → job.product = report.objectPath) ∧
        ∃ result after, host.Ends (job.command settings) before result after ∧
          host.isFile after job.product = true) ∧
    ∀ job before result, (job, before) ∈ calls →
      host.Idles (job.command settings) job.product before result →
      (host.isFile before job.product = false →
        answer = .error
          ⟨job.stage, missingProduct job.tool job.product result.log⟩) ∧
      (host.isFile before job.product = true →
        (∀ e, ¬ tools.Refuses job before e) ∧
        (job.stage = .recompile →
          ∃ report, answer = .ok report ∧ report.objectPath = job.product)) := by
  intro tools answer calls
  constructor
  · intro report hok
    obtain ⟨habsolute, hobject⟩ := objectPath_of_ok hok
    refine ⟨habsolute, stages_of_ok hok, fun job before hmem => ?_⟩
    have hproduct : job.stage = .recompile →
        job.product = report.objectPath := by
      intro hstage
      cases job with
      | recover job => cases hstage
      | lift job => cases hstage
      | recompile job => exact hobject job before hmem
    exact ⟨hproduct, Toolchain.ends_of_not_refuses fun e =>
      unrefused_of_ok hok job before e hmem⟩
  · intro job before result hmem hidle
    refine ⟨fun hnone =>
      failure_of_refusal hmem (Toolchain.refuses_of_idles hidle hnone), ?_⟩
    intro hstale
    have haccepted : ∀ e, ¬ tools.Refuses job before e :=
      Toolchain.not_refuses_of_idles hidle hstale
    refine ⟨haccepted, fun hstage => ?_⟩
    cases job with
    | recover job => cases hstage
    | lift job => cases hstage
    | recompile job =>
        exact ok_of_compiled hmem (Toolchain.recompile_eq_ok haccepted)

/-- A host that knows of its files no more than their paths.  Every program
leaves a file at each of its arguments, but for `idle-clang`, which does
nothing. -/
def shelf : Host (List String) where
  library := Machine.library
  workingDirectory _ := .ok "/"
  temporaryDirectory _ := "/tmp"
  executable _ := none
  environment _ _ := none
  clock _ := 0
  isFile files path := files.contains path
  isDirectory _ _ := false
  readBytes _ path :=
    .ok (if path = "/game.exe" then smallImage else [0x34, 0x0A])
  writeBytes path _ files := (.ok (), path :: files)
  makeDirectories _ files := (.ok (), files)
  makeScratch directory label files := (.ok (Path.join directory label), files)
  removeDirectory _ files := files
  spawn command files :=
    (.ok ⟨.exited 0, [], []⟩,
      if command.program = "idle-clang" then files
      else command.arguments ++ files)

/-- The programs for a run on that host. -/
def shelfSettings : ToolSettings :=
  ⟨"ghidra", "scripts", "lift", "idle-clang", "semantics", "intrinsics"⟩

/-- A compiler that does nothing at all is taken to have compiled, where there
is an object file from before the run. -/
theorem stale_object_accepted :
    let tools := Toolchain.external shelf shelfSettings (.static .empty)
    let request : RunRequest := ⟨"game.exe", "game.o", [4096], .reject⟩
    ∃ job before report,
      (job, before) ∈ handovers shelf tools request ["/game.o"] ∧
      job.stage = .recompile ∧
      shelf.spawn (job.command shelfSettings) before =
        (.ok ⟨.exited 0, [], []⟩, before) ∧
      (run shelf tools request ["/game.o"]).value = .ok report ∧
      report.objectPath = job.product := by
  intro tools request
  have hcalled : (handovers shelf tools request ["/game.o"]).any (fun call =>
      call.1.stage = .recompile && shelf.isFile call.2 call.1.product) := by
    decide +kernel
  obtain ⟨⟨job, before⟩, hmem, hjob⟩ := List.any_eq_true.mp hcalled
  rw [Bool.and_eq_true, decide_eq_true_eq] at hjob
  obtain ⟨hstage, hstale⟩ := hjob
  have hspawn : shelf.spawn (job.command shelfSettings) before =
      (.ok ⟨.exited 0, [], []⟩, before) := by
    cases job with
    | recover job => cases hstage
    | lift job => cases hstage
    | recompile job => rfl
  obtain ⟨-, hidle⟩ := products_of_run shelf shelfSettings (.static .empty)
    request ["/game.o"]
  obtain ⟨-, hrun⟩ := (hidle job before ⟨.exited 0, [], []⟩ hmem
    ⟨before, ⟨hspawn, rfl⟩, rfl⟩).2 hstale
  obtain ⟨report, hok, hpath⟩ := hrun hstage
  exact ⟨job, before, report, hmem, hstage, hspawn, hok, hpath⟩

end Run

end Relift
