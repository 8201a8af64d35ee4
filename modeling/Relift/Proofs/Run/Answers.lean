import Relift.Proofs.Run.Recording

/-!
# What the answers of collaborators lead to

A run depends on its collaborators by their answers.  A job that is refused
ends the run with the failure of its stage (`failure_of_refusal`); when the run
succeeds, three jobs have been handed over and all were answered, the later
ones with what the earlier ones left (`handovers_of_ok`).  Nothing is assumed
about the host or about what the collaborators do to it.
-/

namespace Relift

variable {σ : Type}

/-- A collaborator answers a job with an error. -/
def Toolchain.Refuses (tools : Toolchain σ) : Job → σ → Error → Prop
  | .recover job, s, e => (tools.engine.recover job s).value = .error e
  | .lift job, s, e => (tools.lifter.lift job s).value = .error e
  | .recompile job, s, e => (tools.compiler.recompile job s).value = .error e

/-- An error tells that the host has denied a change of its files. -/
inductive Host.Denies (host : Host σ) : Error → Prop where
  | directories {path : String} {cause : SystemError} {s s' : σ}
      (h : host.makeDirectories path s = (.error cause, s')) :
      Denies host (.io ("Failed to create " ++ path) cause)
  | scratch {directory label : String} {cause : SystemError} {s s' : σ}
      (h : host.makeScratch directory label s = (.error cause, s')) :
      Denies host (.io "Failed to create recovery directory" cause)
  | file {path : String} {content : Bytes} {cause : SystemError} {s s' : σ}
      (h : host.writeBytes path content s = (.error cause, s')) :
      Denies host (.io ("Failed to write " ++ path) cause)

namespace Run

open Activity

variable {host : Host σ} {tools : Toolchain σ}

/-! ## Before the first stage -/

/-- A run from a state begins with a plan: with absolute paths and a new
workspace. -/
structure Plan.Begins (plan : Plan σ) (objectPath : String) (start s₀ : σ) :
    Prop where
  imagePath : plan.host.absolute start plan.request.imagePath =
    .ok plan.imagePath
  objectPath : plan.host.absolute start plan.request.outputPath = .ok objectPath
  workspace : plan.host.makeScratch (plan.host.temporaryDirectory start)
    "uwin-lift-" start = (.ok plan.workspace.root, s₀)

/-- Before the first stage nothing is handed over. -/
theorem wp_prepare (host : Host σ) (tools : Toolchain σ) (request : RunRequest)
    (start : σ) :
    (prepare host.recording request).wp
      (fun opened s => s.2 = [] ∧
        Plan.Begins ⟨host, tools, request, opened.1, opened.2.2⟩ opened.2.1
          start s.1)
      (fun _ s => s.2 = []) (start, []) := by
  rw [prepare, wp_bind, wp_inspect]
  refine ⟨fun imagePath himage => ?_, fun _ _ => rfl⟩
  rw [wp_bind, wp_inspect]
  refine ⟨fun objectPath hobject => ?_, fun _ _ => rfl⟩
  rw [wp_bind, wp_mapError]
  show (perform (besideRecord fun s => host.makeScratch
    (host.temporaryDirectory s) "uwin-lift-" s)).wp _ _ (start, [])
  exact wp_perform_besideRecord.mpr
    ⟨fun root s hmade => ⟨rfl, himage, hobject, hmade⟩, fun _ _ _ => rfl⟩

/-! ## Stages that hand over nothing -/

/-- An activity leaves the record alone, whatever it holds. -/
def LeavesRecord {ω ε α : Type} (x : Activity (σ × Handovers σ) ω ε α) : Prop :=
  ∀ calls, x.Keeps fun s => s.2 = calls

theorem leavesRecord_symbols (pe : Image.Portable) (path : String) :
    LeavesRecord (tools.recording.source.symbols pe path) := by
  intro calls s hs
  show s.2 ++ [] = calls
  rw [List.append_nil, hs]

theorem leavesRecord_extractBody (imagePath : String)
    (extraSeeds : List Address) (policy : CollisionPolicy) :
    LeavesRecord (extractBody host.recording tools.recording.source imagePath
      extraSeeds policy) := by
  intro calls
  refine keeps_bind (keeps_retell _ ?_) fun found => ?_
  · refine keeps_bind (keeps_mapError _ (keeps_inspect _)) fun bytes => ?_
    cases host.recording.library.readPortable bytes with
    | error text => exact keeps_fail _
    | ok pe =>
        refine keeps_bind (keeps_ofExcept _) fun image => ?_
        refine keeps_bind (leavesRecord_symbols pe imagePath calls) fun _ => ?_
        exact keeps_bind (keeps_report _) fun _ => keeps_pure _
  · refine keeps_bind (keeps_ofExcept _) fun correlated => ?_
    exact keeps_bind (keeps_reportAll _) fun _ => keeps_pure _

/-- The files of the workspace are written, unless the host denies it. -/
theorem wp_writeWorkspace_answer (workspace : Workspace) (image : CodeImage)
    (blocks : BlockList) (names : NameMap) (s : σ) (calls : Handovers σ) :
    (writeWorkspace host.recording workspace image blocks names).wp
      (fun _ s' => s'.2 = calls)
      (fun e s' => s'.2 = calls ∧ host.Denies e) (s, calls) := by
  have hwrite : ∀ path content note (s : σ × Handovers σ), s.2 = calls →
      (host.recording.exchangeOut path content >>= fun _ =>
        (report note : Activity _ Note Error Unit)).wp
          (fun _ s' => s'.2 = calls)
          (fun e s' => s'.2 = calls ∧ host.Denies e) s := by
    intro path content note s hs
    rw [wp_bind, wp_exchangeOut]
    exact ⟨fun _ _ _ => (wp_report note).mpr hs,
      fun _ _ hdenied => ⟨hs, .file hdenied⟩⟩
  refine wp_bind.mpr (wp_mono (hwrite _ _ _ _ rfl) ?_ fun _ _ h => h)
  intro _ s₁ h₁
  refine wp_bind.mpr (wp_mono (hwrite _ _ _ s₁ h₁) ?_ fun _ _ h => h)
  intro _ s₂ h₂
  exact hwrite _ _ _ s₂ h₂

theorem leavesRecord_writeWorkspace (workspace : Workspace) (image : CodeImage)
    (blocks : BlockList) (names : NameMap) :
    LeavesRecord
      (writeWorkspace host.recording workspace image blocks names) := by
  intro calls
  rw [keeps_iff_wp]
  rintro ⟨s, _⟩ rfl
  exact wp_mono (wp_writeWorkspace_answer workspace image blocks names s _)
    (fun _ _ h => h) fun _ _ h => h.1

/-- A stage that does not ask hands over nothing. -/
theorem leavesRecord_body (plan : Plan σ) {stage : Stage}
    (h : stage.asks = false) (ledger : Ledger) :
    LeavesRecord (plan.recording.body stage ledger) := by
  intro calls
  cases stage with
  | extract =>
      exact keeps_bind (leavesRecord_extractBody _ _ _ calls)
        fun _ => keeps_pure _
  | recover => cases h
  | serialize =>
      exact keeps_bind
        (keeps_retell _ (leavesRecord_writeWorkspace _ _ _ _ calls))
        fun _ => keeps_pure _
  | lift => cases h
  | recompile => cases h

/-! ## Stages that hand over a job -/

/-- The job of a recovery in a scratch directory. -/
def recoveryJob (imagePath : String) (image : CodeImage) (scratch : String) :
    RecoveryJob where
  imagePath
  loadAddress := image.loadAddress
  seedsPath := (RecoveryArea.mk scratch).seeds
  resultPath := (RecoveryArea.mk scratch).result
  workDirectory := scratch

/-- What comes of a recovery job: the engine refuses it, or the list that the
engine leaves is refused, or the addresses of the list are accepted. -/
inductive Recovers (host : Host σ) (engine : Engine σ) (job : RecoveryJob)
    (before : σ) : Except Error (List Address) → Prop where
  | refused {e : Error} (hanswer : (engine.recover job before).value = .error e) :
      Recovers host engine job before (.error e)
  | unreadable {after : σ} {notes : List Note} {cause : SystemError}
      (hanswer : engine.recover job before = ⟨.ok (), after, notes⟩)
      (hread : host.readText after job.resultPath = .error cause) :
      Recovers host engine job before
        (.error (.io ("Failed to read " ++ job.resultPath) cause))
  | listed {after : σ} {notes : List Note} {body : String}
      (hanswer : engine.recover job before = ⟨.ok (), after, notes⟩)
      (hread : host.readText after job.resultPath = .ok body) :
      Recovers host engine job before (AddressFile.parse job.resultPath body)

/-- Recovery hands over one job, in a new scratch directory, unless the host
denies what it takes to prepare the job. -/
theorem wp_recoverBody_course (imagePath : String) (image : CodeImage)
    (seeds : SeedSet) (workspace : Workspace) (s : σ) (calls : Handovers σ) :
    (recoverBody host.recording tools.recording.engine imagePath image seeds
        workspace).wp
      (fun _ s' => ∃ s₁ scratch s₂ before emitted,
        host.makeScratch workspace.recovery "recover-" s₁ =
          (.ok scratch, s₂) ∧
        s'.2 = calls ++
          [(.recover (recoveryJob imagePath image scratch), before)] ∧
        Recovers host tools.engine (recoveryJob imagePath image scratch) before
          (.ok emitted))
      (fun e s' => s'.2 = calls ∧ host.Denies e ∨ ∃ s₁ scratch s₂ before,
        host.makeScratch workspace.recovery "recover-" s₁ =
          (.ok scratch, s₂) ∧
        s'.2 = calls ++
          [(.recover (recoveryJob imagePath image scratch), before)] ∧
        Recovers host tools.engine (recoveryJob imagePath image scratch) before
          (.error e))
      (s, calls) := by
  rw [recoverBody, wp_bind, wp_mapError]
  refine wp_perform_besideRecord.mpr
    ⟨fun _ s₁ _ => ?_, fun _ _ hdenied => .inl ⟨rfl, .directories hdenied⟩⟩
  rw [BlockList.recover, wp_bind, wp_mapError]
  refine wp_perform_besideRecord.mpr
    ⟨fun scratch s₂ hmade => ?_, fun _ _ hdenied => .inl ⟨rfl, .scratch hdenied⟩⟩
  rw [wp_cleanUp, BlockList.recoverIn, wp_bind, wp_noted, AddressFile.write,
    wp_bind, wp_exchangeOut]
  refine ⟨fun _ s₃ _ => ?_, fun _ _ hdenied => .inl ⟨rfl, .file hdenied⟩⟩
  rw [wp_report, wp_bind, wp_called, tools.recording_recover, wp_recording,
    wp_iff]
  refine ⟨fun _ s₄ notes hanswer => ?_, fun e s₄ notes hanswer => ?_⟩
  · rw [wp_bind, wp_noted, AddressFile.read, wp_bind, Host.exchangeIn,
      wp_mapError, wp_inspect]
    refine ⟨fun body hbody => ?_, fun cause hcause => ?_⟩
    · rw [wp_ofExcept]
      have hlisted := Recovers.listed hanswer hbody
      refine ⟨fun emitted hparse => ?_, fun e hparse => ?_⟩
      · exact ⟨s₁, scratch, s₂, _, emitted, hmade, rfl, hparse ▸ hlisted⟩
      · exact .inr ⟨s₁, scratch, s₂, _, hmade, rfl, hparse ▸ hlisted⟩
    · exact .inr ⟨s₁, scratch, s₂, _, hmade, rfl, .unreadable hanswer hcause⟩
  · have hvalue := congrArg Outcome.value hanswer
    exact .inr ⟨s₁, scratch, s₂, _, hmade, rfl, .refused hvalue⟩

/-- A recovery that has another error than the engine's has none of the
engine's. -/
theorem Recovers.refuses {job : RecoveryJob} {before : σ} {e e' : Error}
    (h : Recovers host tools.engine job before (.error e))
    (hrefused : tools.Refuses (.recover job) before e') : e' = e := by
  generalize hresult : Except.error e = result at h
  cases h with
  | refused hanswer =>
      cases hresult
      exact Except.error.inj (hrefused.symm.trans hanswer)
  | unreadable hanswer _ =>
      cases (congrArg Outcome.value hanswer).symm.trans hrefused
  | listed hanswer _ =>
      cases (congrArg Outcome.value hanswer).symm.trans hrefused

theorem Recovers.answered {job : RecoveryJob} {before : σ}
    {emitted : List Address}
    (h : Recovers host tools.engine job before (.ok emitted)) :
    (tools.engine.recover job before).value = .ok () := by
  generalize hresult : Except.ok emitted = result at h
  cases h with
  | refused => cases hresult
  | unreadable => cases hresult
  | listed hanswer _ => exact congrArg Outcome.value hanswer

/-- Recovery succeeds only if the engine does, and fails with the engine's
error if there is one. -/
theorem wp_recoverBody_answer (imagePath : String) (image : CodeImage)
    (seeds : SeedSet) (workspace : Workspace) (s : σ) (calls : Handovers σ) :
    (recoverBody host.recording tools.recording.engine imagePath image seeds
        workspace).wp
      (fun _ s' => ∃ job before, s'.2 = calls ++ [(.recover job, before)] ∧
        (tools.engine.recover job before).value = .ok ())
      (fun e s' => s'.2 = calls ∨ ∃ job before,
        s'.2 = calls ++ [(.recover job, before)] ∧
        ∀ e', tools.Refuses (.recover job) before e' → e' = e)
      (s, calls) := by
  refine wp_mono (wp_recoverBody_course imagePath image seeds workspace s calls)
    ?_ ?_
  · rintro _ s' ⟨_, scratch, _, before, emitted, -, hcalls, hrecovers⟩
    exact ⟨_, before, hcalls, hrecovers.answered⟩
  · rintro e s' (⟨hcalls, -⟩ | ⟨_, scratch, _, before, -, hcalls, hrecovers⟩)
    · exact .inl hcalls
    · exact .inr ⟨_, before, hcalls, fun _ => hrecovers.refuses⟩

/-- The lifter is handed the files of the workspace. -/
theorem wp_liftBody (loadAddress : Address) (workspace : Workspace) (s : σ)
    (calls : Handovers σ) :
    let job : LiftingJob := ⟨workspace.code, loadAddress, workspace.blocks,
      workspace.names, workspace.ir⟩
    (liftBody tools.recording.lifter loadAddress workspace).wp
      (fun irPath s' => s'.2 = calls ++ [(.lift job, s)] ∧
        (tools.lifter.lift job s).value = .ok irPath)
      (fun e s' => s'.2 = calls ++ [(.lift job, s)] ∧
        tools.Refuses (.lift job) s e)
      (s, calls) := by
  intro job
  rw [liftBody, wp_called, tools.recording_lift, wp_recording, wp_iff]
  exact ⟨fun _ _ _ hanswer => ⟨rfl, congrArg Outcome.value hanswer⟩,
    fun _ _ _ hanswer => ⟨rfl, congrArg Outcome.value hanswer⟩⟩

/-- The compiler is handed the lifted program and the place for the object
file. -/
theorem wp_recompileBody (irPath objectPath : String) (s : σ)
    (calls : Handovers σ) :
    let job : CompilationJob := ⟨irPath, objectPath⟩
    (recompileBody tools.recording.compiler irPath objectPath).wp
      (fun answer s' => s'.2 = calls ++ [(.recompile job, s)] ∧
        (tools.compiler.recompile job s).value = .ok answer)
      (fun e s' => s'.2 = calls ++ [(.recompile job, s)] ∧
        tools.Refuses (.recompile job) s e)
      (s, calls) := by
  intro job
  rw [recompileBody, wp_called, tools.recording_recompile, wp_recording, wp_iff]
  exact ⟨fun _ _ _ hanswer => ⟨rfl, congrArg Outcome.value hanswer⟩,
    fun _ _ _ hanswer => ⟨rfl, congrArg Outcome.value hanswer⟩⟩

/-! ## The stages in a row -/

/-- The answers so far, by the stages that remain: with the ledger and the jobs
handed over, all of which were answered without an error. -/
inductive Answered (tools : Toolchain σ) (objectPath : String) :
    List Stage → Ledger → σ × Handovers σ → Prop where
  | opened {s : σ} :
      Answered tools objectPath Stage.all (.blank objectPath) (s, [])
  | extracted {ledger : Ledger} {s : σ}
      (object : ledger.objectPath = objectPath) :
      Answered tools objectPath [.recover, .serialize, .lift, .recompile]
        ledger (s, [])
  | recovered {ledger : Ledger} {job : RecoveryJob} {s before : σ}
      (object : ledger.objectPath = objectPath)
      (engine : (tools.engine.recover job before).value = .ok ()) :
      Answered tools objectPath [.serialize, .lift, .recompile] ledger
        (s, [(.recover job, before)])
  | serialized {ledger : Ledger} {job : RecoveryJob} {s before : σ}
      (object : ledger.objectPath = objectPath)
      (engine : (tools.engine.recover job before).value = .ok ()) :
      Answered tools objectPath [.lift, .recompile] ledger
        (s, [(.recover job, before)])
  | lifted {ledger : Ledger} {job : RecoveryJob} {s before beforeLift : σ}
      {lifting : LiftingJob} (object : ledger.objectPath = objectPath)
      (engine : (tools.engine.recover job before).value = .ok ())
      (lifter : (tools.lifter.lift lifting beforeLift).value =
        .ok ledger.irPath) :
      Answered tools objectPath [.recompile] ledger
        (s, [(.recover job, before), (.lift lifting, beforeLift)])
  | compiled {ledger : Ledger} {job : RecoveryJob} {lifting : LiftingJob}
      {compilation : CompilationJob} {s before beforeLift last : σ}
      (object : compilation.objectPath = objectPath)
      (engine : (tools.engine.recover job before).value = .ok ())
      (lifter : (tools.lifter.lift lifting beforeLift).value =
        .ok compilation.irPath)
      (compiler : (tools.compiler.recompile compilation last).value =
        .ok ledger.objectPath) :
      Answered tools objectPath [] ledger
        (s, [(.recover job, before), (.lift lifting, beforeLift),
          (.recompile compilation, last)])

/-- No job of a record is refused. -/
def Unrefused (tools : Toolchain σ) (calls : Handovers σ) : Prop :=
  ∀ job before e, (job, before) ∈ calls → ¬ tools.Refuses job before e

theorem unrefused_nil : Unrefused tools [] :=
  fun _ _ _ hmem => absurd hmem List.not_mem_nil

theorem Unrefused.concat {calls : Handovers σ} (h : Unrefused tools calls)
    (job : Job) {s : σ} (hjob : ∀ e, ¬ tools.Refuses job s e) :
    Unrefused tools (calls ++ [(job, s)]) := by
  intro other before e hmem
  rcases List.mem_append.mp hmem with hmem | hmem
  · exact h other before e hmem
  · cases List.mem_singleton.mp hmem
    exact hjob e

theorem unrefused_recover {job : RecoveryJob} {before : σ}
    (h : (tools.engine.recover job before).value = .ok ()) :
    Unrefused tools [(.recover job, before)] :=
  unrefused_nil.concat (.recover job) fun _ hrefused =>
    nomatch h.symm.trans hrefused

theorem Unrefused.concat_lift {calls : Handovers σ} (h : Unrefused tools calls)
    {job : LiftingJob} {s : σ} {irPath : String}
    (hlift : (tools.lifter.lift job s).value = .ok irPath) :
    Unrefused tools (calls ++ [(.lift job, s)]) :=
  h.concat (.lift job) fun _ hrefused => nomatch hlift.symm.trans hrefused

/-- A record from before the last stage. -/
def Early (calls : Handovers σ) : Prop :=
  ∀ compilation before, (.recompile compilation, before) ∉ calls

/-- How a failure has to do with the jobs of a record: a refusal leads to no
other failure than its own, and after the last job nothing else can fail. -/
structure Blames (tools : Toolchain σ) (calls : Handovers σ)
    (failure : RunFailure) : Prop where
  refusal : ∀ job before e, (job, before) ∈ calls →
    tools.Refuses job before e → failure = ⟨job.stage, e⟩
  last : ∀ compilation before, (.recompile compilation, before) ∈ calls →
    tools.Refuses (.recompile compilation) before failure.error

theorem Unrefused.blames {calls : Handovers σ} (h : Unrefused tools calls)
    (hearly : Early calls) (failure : RunFailure) :
    Blames tools calls failure :=
  ⟨fun job before e hmem hrefused => absurd hrefused (h job before e hmem),
    fun compilation before hmem => absurd hmem (hearly compilation before)⟩

/-- Where only the last job can have been refused, the failure with its error
is due to it. -/
theorem Unrefused.blames_concat {calls : Handovers σ}
    (h : Unrefused tools calls) (hearly : Early calls) {job : Job} {s : σ}
    {e : Error} (hjob : ∀ e', tools.Refuses job s e' → e' = e)
    (hlast : job.stage = .recompile → tools.Refuses job s e) :
    Blames tools (calls ++ [(job, s)]) ⟨job.stage, e⟩ := by
  constructor
  · intro other before e' hmem hrefused
    rcases List.mem_append.mp hmem with hmem | hmem
    · exact absurd hrefused (h other before e' hmem)
    · cases List.mem_singleton.mp hmem
      rw [hjob e' hrefused]
  · intro compilation before hmem
    rcases List.mem_append.mp hmem with hmem | hmem
    · exact absurd hmem (hearly compilation before)
    · cases List.mem_singleton.mp hmem
      exact hlast rfl

theorem refuses_unique {job : Job} {s : σ} {e e' : Error}
    (h : tools.Refuses job s e) (h' : tools.Refuses job s e') : e' = e := by
  cases job <;> exact Except.error.inj (h'.symm.trans h)

/-- One stage after the other: the next stage is answered, or it fails, and
then for a refusal if there is one. -/
theorem answered_step (plan : Plan σ) (objectPath : String) (stage : Stage)
    (rest : List Stage) (ledger : Ledger) (s : σ × Handovers σ)
    (h : Answered plan.tools objectPath (stage :: rest) ledger s) :
    (plan.recording.body stage ledger).wp
      (Answered plan.tools objectPath rest)
      (fun e s' => Blames plan.tools s'.2 ⟨stage, e⟩) s := by
  cases h with
  | @opened s =>
      have hkept : LeavesRecord (extractBody plan.host.recording
          plan.tools.recording.source plan.imagePath plan.request.extraSeeds
          plan.request.policy) := leavesRecord_extractBody _ _ _
      refine wp_bind.mpr (wp_mono (keeps_iff_wp.mp (hkept []) (s, []) rfl) ?_ ?_)
      · rintro found ⟨s', _⟩ rfl
        exact .extracted rfl
      · rintro e ⟨s', _⟩ rfl
        exact unrefused_nil.blames (by simp [Early]) _
  | extracted object =>
      refine wp_bind.mpr (wp_mono (wp_recoverBody_answer plan.imagePath
        ledger.image ledger.correlation.seeds plan.workspace _ []) ?_ ?_)
      · rintro blocks ⟨s', _⟩ ⟨job, before, rfl, hanswer⟩
        exact .recovered object hanswer
      · rintro e ⟨s', _⟩ (rfl | ⟨job, before, rfl, hrefusals⟩)
        · exact unrefused_nil.blames (by simp [Early]) _
        · exact unrefused_nil.blames_concat (by simp [Early]) hrefusals nofun
  | @recovered _ job s before object engine =>
      have hkept : LeavesRecord (writeWorkspace plan.host.recording
          plan.workspace ledger.image ledger.blocks ledger.correlation.names) :=
        leavesRecord_writeWorkspace _ _ _ _
      refine wp_bind.mpr (wp_noted.mpr (wp_mono
        (keeps_iff_wp.mp (hkept [(.recover job, before)]) (s, _) rfl) ?_ ?_))
      · rintro _ ⟨s', _⟩ rfl
        exact .serialized object engine
      · rintro e ⟨s', _⟩ rfl
        exact (unrefused_recover engine).blames (by simp [Early]) _
  | serialized object engine =>
      refine wp_bind.mpr (wp_mono
        (wp_liftBody ledger.image.loadAddress plan.workspace _ _) ?_ ?_)
      · rintro irPath ⟨s', _⟩ ⟨rfl, hanswer⟩
        exact .lifted object engine hanswer
      · rintro e ⟨s', _⟩ ⟨rfl, hrefused⟩
        exact (unrefused_recover engine).blames_concat (by simp [Early])
          (fun e' => refuses_unique hrefused) nofun
  | lifted object engine lifter =>
      refine wp_bind.mpr (wp_mono
        (wp_recompileBody ledger.irPath ledger.objectPath _ _) ?_ ?_)
      · rintro answer ⟨s', _⟩ ⟨rfl, hanswer⟩
        exact .compiled object engine lifter hanswer
      · rintro e ⟨s', _⟩ ⟨rfl, hrefused⟩
        exact ((unrefused_recover engine).concat_lift lifter).blames_concat
          (by simp [Early]) (fun e' => refuses_unique hrefused) fun _ => hrefused

/-! ## Whole runs -/

theorem wp_answers (host : Host σ) (tools : Toolchain σ) (request : RunRequest)
    (start : σ) :
    (run host.recording tools.recording request).wp
      (fun report s => ∃ objectPath ledger,
        host.absolute start request.outputPath = .ok objectPath ∧
        report.objectPath = ledger.objectPath ∧
        Answered tools objectPath [] ledger s)
      (fun failure s => Blames tools s.2 failure) (start, []) := by
  rw [wp_run]
  refine wp_mono (wp_prepare host tools request start) ?_ ?_
  · rintro ⟨imagePath, objectPath, workspace⟩ ⟨s₀, calls⟩ ⟨rfl, begins⟩
    refine wp_mono (wp_drive
      (answered_step ⟨host, tools, request, imagePath, workspace⟩ objectPath)
      Stage.all [] _ _ .opened) ?_ fun _ _ h => h
    rintro ⟨ledger, completed⟩ s ⟨hanswered, -⟩
    refine ⟨objectPath, ledger, begins.objectPath, rfl, ?_⟩
    cases hanswered with
    | compiled object engine lifter compiler =>
        exact .compiled object engine lifter compiler
  · rintro e ⟨s, _⟩ rfl
    exact unrefused_nil.blames (by simp [Early]) _

/-- In a run that succeeds, each collaborator is called once and answers; the
compiler gets what the lifter left, and the report tells what the compiler
left. -/
theorem handovers_of_ok {request : RunRequest} {s : σ} {report : Report}
    (h : (run host tools request s).value = .ok report) :
    ∃ recovery s₀ lifting s₁ compilation s₂,
      handovers host tools request s = [(.recover recovery, s₀),
        (.lift lifting, s₁), (.recompile compilation, s₂)] ∧
      (tools.engine.recover recovery s₀).value = .ok () ∧
      (tools.lifter.lift lifting s₁).value = .ok compilation.irPath ∧
      (tools.compiler.recompile compilation s₂).value = .ok report.objectPath ∧
      host.absolute s request.outputPath = .ok compilation.objectPath := by
  rcases answer_of_recorded (wp_answers host tools request s) with
    ⟨found, s', hfound, objectPath, ledger, habsolute, hobject, hanswered⟩ |
    ⟨failure, s', hfailure, -⟩
  · cases hfound.symm.trans h
    rw [hobject]
    generalize handovers host tools request s = calls at hanswered
    cases hanswered with
    | compiled object engine lifter compiler =>
        exact ⟨_, _, _, _, _, _, rfl, engine, lifter, compiler,
          object ▸ habsolute⟩
  · exact nomatch hfailure.symm.trans h

theorem stages_of_ok {request : RunRequest} {s : σ} {report : Report}
    (h : (run host tools request s).value = .ok report) :
    (handovers host tools request s).map (fun call => call.1.stage) =
      [.recover, .lift, .recompile] := by
  obtain ⟨recovery, s₀, lifting, s₁, compilation, s₂, hcalls, -⟩ :=
    handovers_of_ok h
  rw [hcalls]
  rfl

/-- A job that is refused ends the run, with the error of the refusal. -/
theorem failure_of_refusal {request : RunRequest} {s before : σ} {job : Job}
    {e : Error} (hmem : (job, before) ∈ handovers host tools request s)
    (hrefused : tools.Refuses job before e) :
    (run host tools request s).value = .error ⟨job.stage, e⟩ := by
  rcases answer_of_recorded (wp_answers host tools request s) with
    ⟨report, s', -, objectPath, ledger, -, -, hanswered⟩ |
    ⟨failure, s', hfailure, hblames⟩
  · generalize handovers host tools request s = calls at hmem hanswered
    cases hanswered with
    | compiled object engine lifter compiler =>
        have hall := ((unrefused_recover engine).concat_lift lifter).concat
          (.recompile _) fun _ hrefused =>
            nomatch compiler.symm.trans hrefused
        exact absurd hrefused (hall job before e hmem)
  · rw [hfailure, hblames.refusal job before e hmem hrefused]

/-- In a run that succeeds nothing is refused. -/
theorem unrefused_of_ok {request : RunRequest} {s : σ} {report : Report}
    (h : (run host tools request s).value = .ok report) :
    Unrefused tools (handovers host tools request s) :=
  fun _ _ _ hmem hrefused =>
    nomatch h.symm.trans (failure_of_refusal hmem hrefused)

/-- Once the compiler has answered, the run succeeds. -/
theorem ok_of_compiled {request : RunRequest} {s before : σ}
    {compilation : CompilationJob} {path : String}
    (hmem : (.recompile compilation, before) ∈ handovers host tools request s)
    (hanswer : (tools.compiler.recompile compilation before).value = .ok path) :
    ∃ report, (run host tools request s).value = .ok report ∧
      report.objectPath = path := by
  rcases answer_of_recorded (wp_answers host tools request s) with
    ⟨report, s', hok, -⟩ | ⟨failure, s', -, hblames⟩
  · refine ⟨report, hok, ?_⟩
    obtain ⟨recovery, s₀, lifting, s₁, last, s₂, hcalls, -, -, hcompiled, -⟩ :=
      handovers_of_ok hok
    have hsame : compilation = last ∧ before = s₂ := by
      simpa [hcalls] using hmem
    rw [hsame.1, hsame.2, hcompiled] at hanswer
    exact Except.ok.inj hanswer
  · exact nomatch hanswer.symm.trans (hblames.last compilation before hmem)

end Run

end Relift
