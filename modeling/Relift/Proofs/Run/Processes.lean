import Relift.Proofs.Interchange
import Relift.Proofs.Run.Products
import Relift.Proofs.Run.Trace

/-!
# The processes of a run

With external tools each job of a run is one process.  The processes that a run
starts are recorded by its host (`started`), and are the commands of the jobs
that it hands over, in the same order (`started_eq`).

A job is delivered by its process if that ends with success, leaves a file and,
where the file lists blocks, leaves one that can be read.  There are five ways
to fail a job, each with an error of its own (`Job.Fails`), and no job is both
delivered and failed.  A run goes on just as long as its jobs are delivered.

## Main results

* `started_eq` — the processes of a run are those of its jobs.
* `run_fails_closed` — a run succeeds just if its three jobs are delivered, and
  otherwise ends with the first that is not.
-/

namespace Relift

open Activity

variable {σ ρ : Type}

/-! ## Starting processes -/

/-- A change of the state that leaves what stands beside it alone. -/
def beside {α : Type} (change : σ → α × σ) (s : σ × ρ) : α × (σ × ρ) :=
  ((change s.1).1, (change s.1).2, s.2)

/-- A source that leaves what stands beside the state alone. -/
def SymbolSource.beside (source : SymbolSource σ) : SymbolSource (σ × ρ) where
  name := source.name
  symbols pe path s :=
    let outcome := source.symbols pe path s.1
    ⟨outcome.value, (outcome.state, s.2), outcome.notes⟩

/-- Commands, each with the state in which it was started. -/
abbrev Starts (σ : Type) := List (Command × σ)

/-- A host that writes down the commands that it starts. -/
def Host.watching (host : Host σ) : Host (σ × Starts σ) where
  library := host.library
  workingDirectory s := host.workingDirectory s.1
  temporaryDirectory s := host.temporaryDirectory s.1
  executable s := host.executable s.1
  environment s := host.environment s.1
  clock s := host.clock s.1
  isFile s := host.isFile s.1
  isDirectory s := host.isDirectory s.1
  readBytes s := host.readBytes s.1
  writeBytes path content := beside (host.writeBytes path content)
  makeDirectories path := beside (host.makeDirectories path)
  makeScratch directory label := beside (host.makeScratch directory label)
  removeDirectory path s := (host.removeDirectory path s.1, s.2)
  spawn command s :=
    ((host.spawn command s.1).1, (host.spawn command s.1).2,
      s.2 ++ [(command, s.1)])

namespace Activity

/-- An activity on states with a record does what another one does, and adds
something to the record. -/
def Adds {ω ε α : Type} (y : Activity (σ × List ρ) ω ε α)
    (x : Activity σ ω ε α) (entries : σ → List ρ) : Prop :=
  ∀ s record, y (s, record) =
    ⟨(x s).value, ((x s).state, record ++ entries s), (x s).notes⟩

/-- What adds nothing can follow what adds something. -/
theorem Adds.bind {ω ε α β : Type} {y : Activity (σ × List ρ) ω ε α}
    {x : Activity σ ω ε α} {entries : σ → List ρ}
    {g : α → Activity (σ × List ρ) ω ε β} {f : α → Activity σ ω ε β}
    (h : y.Adds x entries) (hnext : ∀ a, (g a).Adds (f a) fun _ => []) :
    (y >>= g).Adds (x >>= f) entries := by
  intro s record
  have hy := h s record
  rcases hx : x s with ⟨e | a, s', notes⟩
  · rw [hx] at hy
    rw [bind_of_error hx, bind_of_error hy]
  · rw [hx] at hy
    rw [bind_of_ok hx, bind_of_ok hy, hnext a, List.append_nil]

theorem adds_pure {ω ε α : Type} (a : α) :
    (pure a : Activity (σ × List ρ) ω ε α).Adds (pure a) fun _ => [] := by
  intro s record
  rw [pure_apply, pure_apply, List.append_nil]

end Activity

theorem adds_runTool (host : Host σ) (tool : String) (command : Command) :
    (runTool host.watching tool command).Adds (runTool host tool command)
      fun s => [(command, s)] := by
  intro s starts
  have hspawn : host.watching.spawn command (s, starts) =
      ((host.spawn command s).1, (host.spawn command s).2,
        starts ++ [(command, s)]) := rfl
  have hlibrary : host.watching.library = host.library := rfl
  rcases h : host.spawn command s with ⟨cause | result, s'⟩
  · simp [runTool, hspawn, hlibrary, h]
  · by_cases hsuccess : result.status.isSuccess = true
    · simp [runTool, hspawn, hlibrary, h, hsuccess]
    · simp [runTool, hspawn, hlibrary, h, hsuccess]

/-- A tool starts one process, whatever comes of it. -/
theorem adds_runForProduct (host : Host σ) (tool : String) (command : Command)
    (path : String) :
    (runForProduct host.watching tool command path).Adds
      (runForProduct host tool command path) fun s => [(command, s)] := by
  refine (adds_runTool host tool command).bind fun log s starts => ?_
  rw [requireProduct, requireProduct, inspect_apply, inspect_apply,
    List.append_nil]
  rfl

namespace Run

/-- The processes that a run with external tools starts, each with the state in
which it does so. -/
def started (host : Host σ) (settings : ToolSettings) (source : SymbolSource σ)
    (request : RunRequest) (s : σ) : Starts σ :=
  (run host.watching (.external host.watching settings source.beside) request
    (s, [])).state.2

/-- The processes of the jobs of a record. -/
def processes (settings : ToolSettings) (calls : Handovers σ) : Starts σ :=
  calls.map fun call => (call.1.command settings, call.2)

/-- A state with the processes in place of the jobs. -/
def withProcesses (settings : ToolSettings) (s : σ × Handovers σ) :
    σ × Starts σ :=
  (s.1, processes settings s.2)

theorem related_host_watching (host : Host σ) (settings : ToolSettings) :
    host.watching.Related (fun t s => t = withProcesses settings s)
      host.recording where
  library := rfl
  workingDirectory := by rintro t s rfl; rfl
  temporaryDirectory := by rintro t s rfl; rfl
  clock := by rintro t s rfl; rfl
  readBytes := by rintro path t s rfl; rfl
  writeBytes := by rintro path content t s rfl; exact ⟨rfl, rfl⟩
  makeDirectories := by rintro path t s rfl; exact ⟨rfl, rfl⟩
  makeScratch := by rintro directory label t s rfl; exact ⟨rfl, rfl⟩
  removeDirectory := by rintro path t s rfl; rfl

/-- What adds the process of a job to one record does the same as what adds the
job to the other. -/
theorem related_of_adds {ω ε α : Type} {settings : ToolSettings} (job : Job)
    {y : Activity (σ × Starts σ) ω ε α} {x : Activity σ ω ε α}
    (h : y.Adds x fun s => [(job.command settings, s)]) :
    Activity.Related (fun t s => t = withProcesses settings s) y
      (x.recording fun s => [(job, s)]) := by
  rintro t ⟨s, calls⟩ rfl
  rw [withProcesses, h]
  refine ⟨rfl, rfl, ?_⟩
  simp [withProcesses, processes, Activity.recording]

theorem related_tools_watching (host : Host σ) (settings : ToolSettings)
    (source : SymbolSource σ) :
    (Toolchain.external host.watching settings source.beside).Related
      (fun t s => t = withProcesses settings s)
      (Toolchain.external host settings source).recording where
  sourceName := rfl
  engineName := rfl
  symbols pe path := by
    rintro t ⟨s, calls⟩ rfl
    refine ⟨rfl, rfl, ?_⟩
    rw [Toolchain.recording_symbols, Activity.recording, List.append_nil]
    rfl
  recover job := related_of_adds (.recover job)
    (adds_runForProduct host _ _ _)
  lift job := related_of_adds (.lift job)
    ((adds_runForProduct host _ _ _).bind fun _ => adds_pure _)
  recompile job := related_of_adds (.recompile job)
    ((adds_runForProduct host _ _ _).bind fun _ => adds_pure _)

/-- The processes of a run are those of the jobs that it hands over. -/
theorem started_eq (host : Host σ) (settings : ToolSettings)
    (source : SymbolSource σ) (request : RunRequest) (s : σ) :
    started host settings source request s =
      processes settings
        (handovers host (.external host settings source) request s) := by
  have hrun := run_related (related_host_watching host settings)
    (related_tools_watching host settings source) request (s, []) (s, []) rfl
  obtain ⟨-, -, hstate⟩ := hrun
  exact congrArg Prod.snd hstate

end Run

/-! ## What comes of a process -/

namespace Job

/-- The file of blocks at a path can be read. -/
def Listed (host : Host σ) (s : σ) (path : String) : Prop :=
  ∃ body addresses, host.readText s path = .ok body ∧
    AddressFile.parse path body = .ok addresses

/-- The process of a job ends with success and leaves a file in the place of
its product; blocks can be read from it. -/
def Delivered (host : Host σ) (settings : ToolSettings) (job : Job) (s : σ) :
    Prop :=
  ∃ result s', host.Ends (job.command settings) s result s' ∧
    host.isFile s' job.product = true ∧
    (job.stage = .recover → Listed host s' job.product)

/-- The process of a job fails it, for an error. -/
inductive Fails (host : Host σ) (settings : ToolSettings) (job : Job) (s : σ) :
    Error → Prop where
  /-- There is no process. -/
  | unstarted {cause : SystemError} {s' : σ}
      (hspawn : host.spawn (job.command settings) s = (.error cause, s')) :
      Fails host settings job s
        (.externalTool job.tool "failed to spawn" cause.message)
  | unsuccessful {result : ProcessResult} {s' : σ}
      (hspawn : host.spawn (job.command settings) s = (.ok result, s'))
      (hstatus : result.status.isSuccess = false) :
      Fails host settings job s
        (.externalTool job.tool result.status.display
          (Text.ofUtf8Lossy result.output ++ Text.ofUtf8Lossy result.errors))
  | missing {result : ProcessResult} {s' : σ}
      (hends : host.Ends (job.command settings) s result s')
      (hfile : host.isFile s' job.product = false) :
      Fails host settings job s
        (.externalTool job.tool
          ("exited successfully but produced no " ++ job.product)
          (Text.ofUtf8Lossy result.output ++ Text.ofUtf8Lossy result.errors))
  | unreadable {result : ProcessResult} {s' : σ} {cause : SystemError}
      (hstage : job.stage = .recover)
      (hends : host.Ends (job.command settings) s result s')
      (hfile : host.isFile s' job.product = true)
      (hread : host.readText s' job.product = .error cause) :
      Fails host settings job s
        (.io ("Failed to read " ++ job.product) cause)
  | malformed {result : ProcessResult} {s' : σ} {body : String} {line : Nat}
      {content : String} (hstage : job.stage = .recover)
      (hends : host.Ends (job.command settings) s result s')
      (hfile : host.isFile s' job.product = true)
      (hread : host.readText s' job.product = .ok body)
      (hparse : AddressFile.parse job.product body =
        .error (.malformedLine job.product line content)) :
      Fails host settings job s (.malformedLine job.product line content)

variable {host : Host σ} {settings : ToolSettings} {job : Job} {s : σ}
  {e : Error}

/-- No job is both delivered and failed. -/
theorem Fails.not_delivered (h : job.Fails host settings s e) :
    ¬ job.Delivered host settings s := by
  rintro ⟨result, s', ⟨hspawn, hsuccess⟩, hfile, hlisted⟩
  cases h with
  | unstarted h => cases hspawn.symm.trans h
  | unsuccessful h hstatus =>
      cases hspawn.symm.trans h
      exact absurd hsuccess (by simp [hstatus])
  | missing hends hnone =>
      cases hspawn.symm.trans hends.1
      exact absurd hfile (by simp [hnone])
  | unreadable hstage hends _ hread =>
      cases hspawn.symm.trans hends.1
      obtain ⟨body, addresses, hbody, -⟩ := hlisted hstage
      cases hbody.symm.trans hread
  | malformed hstage hends _ hread hparse =>
      cases hspawn.symm.trans hends.1
      obtain ⟨body, addresses, hbody, hok⟩ := hlisted hstage
      cases hbody.symm.trans hread
      cases hok.symm.trans hparse

/-- A tool that does not accept its job has failed it. -/
theorem wp_process (host : Host σ) (settings : ToolSettings) (job : Job)
    (s : σ) :
    (runForProduct host job.tool (job.command settings) job.product).wp
      (fun _ s' => ∃ result, host.Ends (job.command settings) s result s' ∧
        host.isFile s' job.product = true)
      (fun e _ => job.Fails host settings s e) s := by
  refine wp_mono (wp_runForProduct host _ _ _ s) (fun _ _ h => h) ?_
  rintro e s' (⟨cause, hspawn, rfl⟩ | ⟨result, hspawn, hstatus, rfl⟩ |
    ⟨result, hends, hfile, rfl⟩)
  · exact .unstarted hspawn
  · exact .unsuccessful hspawn hstatus
  · exact .missing hends hfile

theorem fails_of_process
    (h : (runForProduct host job.tool (job.command settings) job.product
      s).value = .error e) : job.Fails host settings s e := by
  have hwp := wp_process host settings job s
  rw [wp, h] at hwp
  exact hwp

end Job

namespace Run

variable {host : Host σ} {settings : ToolSettings} {source : SymbolSource σ}

/-- A job of a later stage is delivered or failed by what its tool answers. -/
theorem delivered_of_not_refuses {job : Job} {s : σ}
    (hstage : job.stage ≠ .recover)
    (h : ∀ e, ¬ (Toolchain.external host settings source).Refuses job s e) :
    job.Delivered host settings s := by
  obtain ⟨result, s', hends, hfile⟩ := Toolchain.ends_of_not_refuses h
  exact ⟨result, s', hends, hfile, fun hrecover => absurd hrecover hstage⟩

theorem fails_of_refuses {job : Job} {s : σ} {e : Error}
    (h : (Toolchain.external host settings source).Refuses job s e) :
    job.Fails host settings s e :=
  Job.fails_of_process (Toolchain.external_refuses.mp h)

/-- The process of an engine has ended with success once the engine has
answered. -/
theorem ends_of_answered {job : RecoveryJob} {s after : σ} {notes : List Note}
    (h : (Engine.ghidra host settings).recover job s = ⟨.ok (), after, notes⟩) :
    ∃ result, host.Ends ((Job.recover job).command settings) s result after ∧
      host.isFile after (Job.recover job).product = true :=
  (wp_of_ok h).mp (Job.wp_process host settings (.recover job) s)

theorem delivered_of_recovers {job : RecoveryJob} {s : σ}
    {emitted : List Address}
    (h : Recovers host (.ghidra host settings) job s (.ok emitted)) :
    (Job.recover job).Delivered host settings s := by
  generalize hresult : Except.ok emitted = result at h
  cases h with
  | refused => cases hresult
  | unreadable => cases hresult
  | listed hanswer hread =>
      obtain ⟨result, hends, hfile⟩ := ends_of_answered hanswer
      exact ⟨result, _, hends, hfile, fun _ => ⟨_, _, hread, hresult.symm⟩⟩

theorem fails_of_recovers {job : RecoveryJob} {s : σ} {e : Error}
    (h : Recovers host (.ghidra host settings) job s (.error e)) :
    (Job.recover job).Fails host settings s e := by
  generalize hresult : Except.error e = result at h
  cases h with
  | refused hanswer =>
      cases hresult
      exact Job.fails_of_process hanswer
  | unreadable hanswer hread =>
      cases hresult
      obtain ⟨result, hends, hfile⟩ := ends_of_answered hanswer
      exact .unreadable rfl hends hfile hread
  | listed hanswer hread =>
      obtain ⟨result, hends, hfile⟩ := ends_of_answered hanswer
      obtain ⟨line, content, rfl⟩ := readEntries_error hresult.symm
      exact .malformed rfl hends hfile hread hresult.symm

/-! ## The stages in a row -/

/-- All jobs of a record are delivered. -/
def AllDelivered (host : Host σ) (settings : ToolSettings)
    (calls : Handovers σ) : Prop :=
  ∀ job before, (job, before) ∈ calls → job.Delivered host settings before

theorem AllDelivered.concat {calls : Handovers σ}
    (h : AllDelivered host settings calls) {job : Job} {s : σ}
    (hjob : job.Delivered host settings s) :
    AllDelivered host settings (calls ++ [(job, s)]) := by
  intro other before hmem
  rcases List.mem_append.mp hmem with hmem | hmem
  · exact h other before hmem
  · cases List.mem_singleton.mp hmem
    exact hjob

/-- So far, the stages that ask have each handed over one job, and all of them
are delivered. -/
structure GoesOn (host : Host σ) (settings : ToolSettings) (rest : List Stage)
    (calls : Handovers σ) : Prop where
  stages : ∃ passed, Stage.all = passed ++ rest ∧
    calls.map (fun call => call.1.stage) = passed.filter Stage.asks
  delivered : AllDelivered host settings calls

/-- A failure of the run itself, with no job of its stage: nothing could be
extracted, or the host has denied the run its files. -/
structure OwnFailure (host : Host σ) (settings : ToolSettings)
    (calls : Handovers σ) (failure : RunFailure) : Prop where
  stage : failure.stage ∈ [.extract, .recover, .serialize]
  cause : failure.stage = .extract ∨ host.Denies failure.error
  stages : calls.map (fun call => call.1.stage) =
    failure.stage.before.filter Stage.asks
  delivered : AllDelivered host settings calls

/-- The last of the jobs fails, and the run with it. -/
def LastFails (host : Host σ) (settings : ToolSettings) (calls : Handovers σ)
    (failure : RunFailure) : Prop :=
  ∃ done job before, calls = done ++ [(job, before)] ∧
    done.map (fun call => call.1.stage) = job.stage.before.filter Stage.asks ∧
    AllDelivered host settings done ∧
    job.Fails host settings before failure.error ∧ failure.stage = job.stage

namespace GoesOn

variable {stage : Stage} {rest : List Stage} {calls : Handovers σ}

/-- A stage that does not ask leaves the jobs as they are. -/
theorem unasked (h : GoesOn host settings (stage :: rest) calls)
    (hstage : stage.asks = false) : GoesOn host settings rest calls := by
  obtain ⟨⟨passed, hall, hcalls⟩, hdelivered⟩ := h
  refine ⟨⟨passed ++ [stage], by simp [hall], ?_⟩, hdelivered⟩
  simp [hcalls, hstage]

/-- A stage that asks adds its job. -/
theorem asked (h : GoesOn host settings (stage :: rest) calls) {job : Job}
    {s : σ} (hstage : job.stage = stage) (hasks : stage.asks = true)
    (hjob : job.Delivered host settings s) :
    GoesOn host settings rest (calls ++ [(job, s)]) := by
  obtain ⟨⟨passed, hall, hcalls⟩, hdelivered⟩ := h
  refine ⟨⟨passed ++ [stage], by simp [hall], ?_⟩, hdelivered.concat hjob⟩
  simp [hcalls, hstage, hasks]

/-- The jobs before a stage, where the stage fails without one. -/
theorem ownFailure (h : GoesOn host settings (stage :: rest) calls)
    (hstage : stage ∈ [.extract, .recover, .serialize]) {e : Error}
    (hcause : stage = .extract ∨ host.Denies e) :
    OwnFailure host settings calls ⟨stage, e⟩ := by
  obtain ⟨⟨passed, hall, hcalls⟩, hdelivered⟩ := h
  exact ⟨hstage, hcause, Stage.eq_before hall ▸ hcalls, hdelivered⟩

theorem lastFails (h : GoesOn host settings (stage :: rest) calls) {job : Job}
    {s : σ} {e : Error} (hstage : job.stage = stage)
    (hjob : job.Fails host settings s e) :
    LastFails host settings (calls ++ [(job, s)]) ⟨stage, e⟩ := by
  obtain ⟨⟨passed, hall, hcalls⟩, hdelivered⟩ := h
  subst hstage
  exact ⟨calls, job, s, rfl, Stage.eq_before hall ▸ hcalls, hdelivered, hjob,
    rfl⟩

end GoesOn

/-- One stage after the other: a stage goes on with its job delivered, or the
run fails, by itself or with the job.  A recovery fails with its job also if the
process of the engine is fine and its list is not. -/
theorem goesOn_step (request : RunRequest) (imagePath : String)
    (workspace : Workspace) (stage : Stage) (rest : List Stage)
    (ledger : Ledger) (s : σ × Handovers σ)
    (h : GoesOn host settings (stage :: rest) s.2) :
    let plan : Plan σ := ⟨host, .external host settings source, request,
      imagePath, workspace⟩
    (plan.recording.body stage ledger).wp
      (fun _ s' => GoesOn host settings rest s'.2)
      (fun e s' => OwnFailure host settings s'.2 ⟨stage, e⟩ ∨
        LastFails host settings s'.2 ⟨stage, e⟩) s := by
  intro plan
  obtain ⟨s, calls⟩ := s
  cases stage with
  | extract =>
      refine wp_mono (keeps_iff_wp.mp (leavesRecord_body plan rfl ledger calls)
        (s, calls) rfl) ?_ ?_
      · rintro _ ⟨s', _⟩ rfl
        exact h.unasked rfl
      · rintro e ⟨s', _⟩ rfl
        exact .inl (h.ownFailure (by simp) (.inl rfl))
  | recover =>
      refine wp_bind.mpr (wp_mono (wp_recoverBody_course imagePath
        ledger.image ledger.correlation.seeds workspace s calls) ?_ ?_)
      · rintro _ ⟨s', _⟩ ⟨_, _, _, before, emitted, -, rfl, hrecovers⟩
        exact h.asked rfl rfl (delivered_of_recovers hrecovers)
      · rintro e ⟨s', _⟩ (⟨rfl, hdenied⟩ | ⟨_, _, _, before, -, rfl, hrecovers⟩)
        · exact .inl (h.ownFailure (by simp) (.inr hdenied))
        · exact .inr (h.lastFails rfl (fails_of_recovers hrecovers))
  | serialize =>
      refine wp_bind.mpr (wp_retell.mpr (wp_mono (wp_writeWorkspace_answer
        workspace ledger.image ledger.blocks ledger.correlation.names s calls)
        ?_ ?_))
      · rintro _ ⟨s', _⟩ rfl
        exact h.unasked rfl
      · rintro e ⟨s', _⟩ ⟨rfl, hdenied⟩
        exact .inl (h.ownFailure (by simp) (.inr hdenied))
  | lift =>
      refine wp_bind.mpr (wp_mono
        (wp_liftBody ledger.image.loadAddress workspace s calls) ?_ ?_)
      · rintro irPath ⟨s', _⟩ ⟨rfl, hanswer⟩
        exact h.asked rfl rfl (delivered_of_not_refuses nofun
          fun _ hrefused => nomatch hanswer.symm.trans hrefused)
      · rintro e ⟨s', _⟩ ⟨rfl, hrefused⟩
        exact .inr (h.lastFails rfl (fails_of_refuses hrefused))
  | recompile =>
      refine wp_bind.mpr (wp_mono
        (wp_recompileBody ledger.irPath ledger.objectPath s calls) ?_ ?_)
      · rintro answer ⟨s', _⟩ ⟨rfl, hanswer⟩
        exact h.asked rfl rfl (delivered_of_not_refuses nofun
          fun _ hrefused => nomatch hanswer.symm.trans hrefused)
      · rintro e ⟨s', _⟩ ⟨rfl, hrefused⟩
        exact .inr (h.lastFails rfl (fails_of_refuses hrefused))

/-! ## Whole runs -/

theorem wp_goesOn (host : Host σ) (settings : ToolSettings)
    (source : SymbolSource σ) (request : RunRequest) (start : σ) :
    (run host.recording (Toolchain.external host settings source).recording
        request).wp
      (fun _ s => GoesOn host settings [] s.2)
      (fun failure s => OwnFailure host settings s.2 failure ∨
        LastFails host settings s.2 failure) (start, []) := by
  have hstart : GoesOn host settings Stage.all ([] : Handovers σ) :=
    ⟨⟨[], rfl, rfl⟩, fun _ _ hmem => absurd hmem List.not_mem_nil⟩
  rw [wp_run]
  refine wp_mono (wp_prepare host (.external host settings source) request
    start) ?_ ?_
  · rintro ⟨imagePath, objectPath, workspace⟩ ⟨s₀, calls⟩ ⟨rfl, -⟩
    let invariant (rest : List Stage) (_ : Ledger) (s : σ × Handovers σ) :=
      GoesOn host settings rest s.2
    have hopened : invariant Stage.all (.blank objectPath) (s₀, []) := hstart
    refine wp_mono (wp_drive (goesOn_step request imagePath workspace)
      Stage.all [] _ _ hopened) ?_ fun _ _ h => h
    rintro ⟨ledger, completed⟩ s ⟨hgoesOn, -⟩
    exact hgoesOn
  · rintro e ⟨s, _⟩ rfl
    exact .inl (hstart.ownFailure (by simp) (.inl rfl))

theorem LastFails.not_allDelivered {calls : Handovers σ} {failure : RunFailure}
    (h : LastFails host settings calls failure) :
    ¬ AllDelivered host settings calls := by
  obtain ⟨done, job, before, rfl, -, -, hfails, -⟩ := h
  exact fun hall => hfails.not_delivered (hall job before (by simp))

/-- A run with external tools starts a process for each job that it hands over
and no other.  If it succeeds, its three jobs are delivered, and the object file
is where the request says.  If it fails, then by itself and with every job
delivered, or with its last job and for the error of that job.  Where something
is extracted and the host does not deny the run its files, the run succeeds just
if all of its jobs are delivered. -/
theorem run_fails_closed (host : Host σ) (settings : ToolSettings)
    (source : SymbolSource σ) (request : RunRequest) (s : σ) :
    let tools := Toolchain.external host settings source
    let answer := (run host tools request s).value
    let calls := handovers host tools request s
    started host settings source request s = processes settings calls ∧
    (∀ report, answer = .ok report →
      calls.map (fun call => call.1.stage) = [.recover, .lift, .recompile] ∧
      AllDelivered host settings calls ∧
      host.absolute s request.outputPath = .ok report.objectPath ∧
      ∀ compilation before, (.recompile compilation, before) ∈ calls →
        compilation.objectPath = report.objectPath) ∧
    (∀ failure, answer = .error failure →
      OwnFailure host settings calls failure ∨
        LastFails host settings calls failure) ∧
    ((∀ e, answer ≠ .error ⟨.extract, e⟩) →
      (∀ stage e, host.Denies e → answer ≠ .error ⟨stage, e⟩) →
      ((∃ report, answer = .ok report) ↔ AllDelivered host settings calls)) := by
  intro tools answer calls
  have hcourse := answer_of_recorded (wp_goesOn host settings source request s)
  have hok : ∀ report, answer = .ok report →
      AllDelivered host settings calls := by
    intro report hreport
    rcases hcourse with ⟨_, s', -, hgoesOn⟩ | ⟨failure, s', hfailure, -⟩
    · exact hgoesOn.delivered
    · cases hreport.symm.trans hfailure
  have herror : ∀ failure, answer = .error failure →
      OwnFailure host settings calls failure ∨
        LastFails host settings calls failure := by
    intro failure hfailure
    rcases hcourse with ⟨report, s', hreport, -⟩ | ⟨_, s', hsame, hends⟩
    · cases hfailure.symm.trans hreport
    · cases hfailure.symm.trans hsame
      exact hends
  refine ⟨started_eq host settings source request s, ?_, herror, ?_⟩
  · intro report hreport
    obtain ⟨habsolute, hobject⟩ := objectPath_of_ok hreport
    exact ⟨stages_of_ok hreport, hok report hreport, habsolute, hobject⟩
  · intro hextracted hallowed
    refine ⟨fun ⟨report, hreport⟩ => hok report hreport, fun hall => ?_⟩
    cases hanswer : answer with
    | ok report => exact ⟨report, rfl⟩
    | error failure =>
        rcases herror failure hanswer with hown | hlast
        · rcases hown.cause with hstage | hdenied
          · exact absurd (hstage ▸ hanswer) (hextracted failure.error)
          · exact absurd hanswer (hallowed failure.stage _ hdenied)
        · exact absurd hall hlast.not_allDelivered

/-- The error of an answer.  Errors can be compared, and answers cannot. -/
def errorOf {ε α : Type} : Except ε α → Option ε
  | .ok _ => none
  | .error e => some e

theorem eq_error_of_errorOf {ε α : Type} {answer : Except ε α} {e : ε}
    (h : errorOf answer = some e) : answer = .error e := by
  cases answer with
  | ok a => cases h
  | error e' => exact congrArg Except.error (Option.some.inj h)

/-- A compiler that does nothing fails its job where there is no object file,
and the run with it. -/
theorem idle_compiler_refused :
    let tools := Toolchain.external shelf shelfSettings (.static .empty)
    let request : RunRequest := ⟨"game.exe", "game.o", [4096], .reject⟩
    let answer := (run shelf tools request []).value
    let calls := handovers shelf tools request []
    (∀ e, answer ≠ .error ⟨.extract, e⟩) ∧
      (∀ stage e, shelf.Denies e → answer ≠ .error ⟨stage, e⟩) ∧
      answer = .error
        ⟨.recompile, missingProduct "uwin-clang" "/game.o" ""⟩ ∧
      ¬ AllDelivered shelf shelfSettings calls := by
  intro tools request answer calls
  have hanswer : answer = .error
      ⟨.recompile, missingProduct "uwin-clang" "/game.o" ""⟩ :=
    eq_error_of_errorOf (by decide +kernel)
  have hextracted : ∀ e, answer ≠ .error ⟨.extract, e⟩ := by
    intro e he
    cases hanswer.symm.trans he
  have hallowed : ∀ stage e, shelf.Denies e → answer ≠ .error ⟨stage, e⟩ := by
    intro stage e hdenied he
    cases hanswer.symm.trans he
    cases hdenied
  obtain ⟨-, -, -, hdelivered⟩ := run_fails_closed shelf shelfSettings
    (.static .empty) request []
  refine ⟨hextracted, hallowed, hanswer, fun hall => ?_⟩
  obtain ⟨report, hreport⟩ := (hdelivered hextracted hallowed).mpr hall
  cases hanswer.symm.trans hreport

end Run

end Relift
