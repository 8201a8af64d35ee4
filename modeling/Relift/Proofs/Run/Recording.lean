import Relift.Proofs.Run.Stages

/-!
# Recording a run

The events of a run tell which jobs it hands to its collaborators, but not what
these find when they start.  To speak about that, a run is repeated on states
that carry a record: each collaborator first writes down its job and the state
it is started in, and then does what it always does.  `handovers` is the record
at the end.

Nothing depends on the record: `run_recording` says that the recorded run
answers, reports and changes the host as the plain one does.  It is a case of
`run_related`, which holds for any two hosts and collaborators that do the same
on related states.  Hence whatever is shown of the recorded run says something
about the plain one and its jobs (`answer_of_recorded`).
-/

namespace Relift

variable {σ τ : Type}

/-! ## Runs on related states -/

/-- The operations that a run needs do the same on states of a relation, and
keep it. -/
structure Host.Related (R : τ → σ → Prop) (there : Host τ) (here : Host σ) :
    Prop where
  library : there.library = here.library
  workingDirectory : ∀ t s, R t s →
    there.workingDirectory t = here.workingDirectory s
  temporaryDirectory : ∀ t s, R t s →
    there.temporaryDirectory t = here.temporaryDirectory s
  clock : ∀ t s, R t s → there.clock t = here.clock s
  readBytes : ∀ path t s, R t s → there.readBytes t path = here.readBytes s path
  writeBytes : ∀ path content t s, R t s →
    (there.writeBytes path content t).1 = (here.writeBytes path content s).1 ∧
      R (there.writeBytes path content t).2 (here.writeBytes path content s).2
  makeDirectories : ∀ path t s, R t s →
    (there.makeDirectories path t).1 = (here.makeDirectories path s).1 ∧
      R (there.makeDirectories path t).2 (here.makeDirectories path s).2
  makeScratch : ∀ directory label t s, R t s →
    (there.makeScratch directory label t).1 =
        (here.makeScratch directory label s).1 ∧
      R (there.makeScratch directory label t).2
        (here.makeScratch directory label s).2
  removeDirectory : ∀ path t s, R t s →
    R (there.removeDirectory path t) (here.removeDirectory path s)

/-- Two sets of collaborators do the same on states of a relation, and keep
it. -/
structure Toolchain.Related (R : τ → σ → Prop) (there : Toolchain τ)
    (here : Toolchain σ) : Prop where
  sourceName : there.source.name = here.source.name
  engineName : there.engine.name = here.engine.name
  symbols : ∀ pe path, Activity.Related R (there.source.symbols pe path)
    (here.source.symbols pe path)
  recover : ∀ job, Activity.Related R (there.engine.recover job)
    (here.engine.recover job)
  lift : ∀ job, Activity.Related R (there.lifter.lift job)
    (here.lifter.lift job)
  recompile : ∀ job, Activity.Related R (there.compiler.recompile job)
    (here.compiler.recompile job)

section Related

open Activity

variable {R : τ → σ → Prop} {there : Host τ} {here : Host σ}

theorem Host.Related.absolute (hosts : there.Related R here) (path : String)
    (t : τ) (s : σ) (h : R t s) :
    there.absolute t path = here.absolute s path := by
  rw [Host.absolute, Host.absolute, hosts.workingDirectory t s h]

theorem Host.Related.exchangeOut (hosts : there.Related R here) (path : String)
    (content : Bytes) :
    Activity.Related R (there.exchangeOut path content)
      (here.exchangeOut path content) :=
  related_mapError (related_perform (hosts.writeBytes path content)) _

theorem AddressFile.related_write (hosts : there.Related R here) (path : String)
    (addresses : List Address) :
    Activity.Related R (AddressFile.write there path addresses)
      (AddressFile.write here path addresses) :=
  related_bind (hosts.exchangeOut path _) fun _ => related_report _

theorem AddressFile.related_read (hosts : there.Related R here)
    (path : String) :
    Activity.Related R (AddressFile.read there path)
      (AddressFile.read here path) := by
  refine related_bind (related_mapError (related_inspect ?_) _) fun body =>
    related_ofExcept _
  intro t s h
  rw [Host.readText, Host.readText, hosts.readBytes path t s h]

theorem NameMapFile.related_write (hosts : there.Related R here) (path : String)
    (names : NameMap) :
    Activity.Related R (NameMapFile.write there path names)
      (NameMapFile.write here path names) :=
  related_bind (hosts.exchangeOut path _) fun _ => related_report _

theorem CodeFile.related_write (hosts : there.Related R here) (path : String)
    (code : Bytes) :
    Activity.Related R (CodeFile.write there path code)
      (CodeFile.write here path code) :=
  related_bind (hosts.exchangeOut path _) fun _ => related_report _

namespace Run

variable {tools' : Toolchain τ} {tools : Toolchain σ}

theorem related_called {α : Type} {y : Activity τ Note Error α}
    {x : Activity σ Note Error α} (h : Activity.Related R y x) (job : Job) :
    Activity.Related R (Activity.called job y) (Activity.called job x) :=
  related_bind (related_report _) fun _ => related_retell h _

theorem related_readExecutable (hosts : there.Related R here)
    (collaborators : tools'.Related R tools) (path : String) :
    Activity.Related R (Image.readExecutable there tools'.source path)
      (Image.readExecutable here tools.source path) := by
  refine related_bind
    (related_mapError (related_inspect (hosts.readBytes path)) _) fun bytes => ?_
  rw [hosts.library]
  cases here.library.readPortable bytes with
  | error text => exact related_fail _
  | ok pe =>
      refine related_bind (related_ofExcept _) fun image => ?_
      refine related_bind (collaborators.symbols pe path) fun symbols => ?_
      rw [collaborators.sourceName]
      exact related_bind (related_report _) fun _ => related_pure _

theorem related_extractBody (hosts : there.Related R here)
    (collaborators : tools'.Related R tools) (imagePath : String)
    (extraSeeds : List Address) (policy : CollisionPolicy) :
    Activity.Related R
      (extractBody there tools'.source imagePath extraSeeds policy)
      (extractBody here tools.source imagePath extraSeeds policy) := by
  refine related_bind
    (related_retell (related_readExecutable hosts collaborators imagePath) _)
    fun found => ?_
  refine related_bind (related_ofExcept _) fun correlated => ?_
  exact related_bind (related_reportAll _) fun _ => related_pure _

theorem related_recoverIn (hosts : there.Related R here)
    (collaborators : tools'.Related R tools) (imagePath : String)
    (image : CodeImage) (seeds : SeedSet) (area : RecoveryArea) :
    Activity.Related R
      (BlockList.recoverIn there tools'.engine imagePath image seeds area)
      (BlockList.recoverIn here tools.engine imagePath image seeds area) := by
  refine related_bind
    (related_retell (AddressFile.related_write hosts _ _) _) fun _ => ?_
  refine related_bind (related_called (collaborators.recover _) _) fun _ => ?_
  refine related_bind (related_retell (AddressFile.related_read hosts _) _)
    fun emitted => ?_
  rw [collaborators.engineName]
  exact related_bind (related_reportAll _) fun _ => related_pure _

theorem related_recoverBody (hosts : there.Related R here)
    (collaborators : tools'.Related R tools) (imagePath : String)
    (image : CodeImage) (seeds : SeedSet) (workspace : Workspace) :
    Activity.Related R
      (recoverBody there tools'.engine imagePath image seeds workspace)
      (recoverBody here tools.engine imagePath image seeds workspace) := by
  refine related_bind
    (related_mapError (related_perform (hosts.makeDirectories _)) _)
    fun _ => ?_
  refine related_bind
    (related_mapError (related_perform (hosts.makeScratch _ _)) _)
    fun root => ?_
  exact related_cleanUp
    (related_recoverIn hosts collaborators imagePath image seeds ⟨root⟩)
    (hosts.removeDirectory root)

theorem related_writeWorkspace (hosts : there.Related R here)
    (workspace : Workspace) (image : CodeImage) (blocks : BlockList)
    (names : NameMap) :
    Activity.Related R (writeWorkspace there workspace image blocks names)
      (writeWorkspace here workspace image blocks names) :=
  related_bind (CodeFile.related_write hosts _ _) fun _ =>
    related_bind (AddressFile.related_write hosts _ _) fun _ =>
      NameMapFile.related_write hosts _ _

/-- The bodies of the stages do the same on related states. -/
theorem related_body (hosts : there.Related R here)
    (collaborators : tools'.Related R tools) (request : RunRequest)
    (imagePath : String) (workspace : Workspace) (stage : Stage)
    (ledger : Ledger) :
    Activity.Related R
      (Plan.body ⟨there, tools', request, imagePath, workspace⟩ stage ledger)
      (Plan.body ⟨here, tools, request, imagePath, workspace⟩ stage ledger) := by
  cases stage with
  | extract =>
      exact related_bind (related_extractBody hosts collaborators _ _ _)
        fun _ => related_pure _
  | recover =>
      exact related_bind (related_recoverBody hosts collaborators _ _ _ _)
        fun _ => related_pure _
  | serialize =>
      exact related_bind
        (related_retell (related_writeWorkspace hosts _ _ _ _) _)
        fun _ => related_pure _
  | lift =>
      exact related_bind (related_called (collaborators.lift _) _)
        fun _ => related_pure _
  | recompile =>
      exact related_bind (related_called (collaborators.recompile _) _)
        fun _ => related_pure _

theorem related_runStage {α : Type} (hosts : there.Related R here)
    {body' : Activity τ Event Error α} {body : Activity σ Event Error α}
    (hbody : Activity.Related R body' body) (completed : List Stage)
    (stage : Stage) :
    Activity.Related R (runStage there completed stage body')
      (runStage here completed stage body) := by
  have hclock : ∀ t s, R t s →
      (Except.ok (there.clock t) : Except RunFailure Nat) = .ok (here.clock s) :=
    fun t s h => congrArg Except.ok (hosts.clock t s h)
  refine related_bind (related_reportAll _) fun _ => ?_
  refine related_bind (related_inspect hclock) fun start => ?_
  refine related_bind (related_settle hbody) fun answer => ?_
  cases answer with
  | ok value =>
      refine related_bind (related_inspect hclock) fun stop => ?_
      exact related_bind (related_report _) fun _ => related_pure _
  | error error =>
      exact related_bind (related_reportAll _) fun _ => related_fail _

theorem related_drive {β : Type} (hosts : there.Related R here)
    {body' : Stage → β → Activity τ Event Error β}
    {body : Stage → β → Activity σ Event Error β}
    (hbody : ∀ stage value,
      Activity.Related R (body' stage value) (body stage value))
    (stages : List Stage) : ∀ (completed : List Stage) (value : β),
      Activity.Related R (drive there body' completed stages value)
        (drive here body completed stages value) := by
  induction stages with
  | nil => intro completed value; exact related_pure _
  | cons stage rest ih =>
      intro completed value
      exact related_bind
        (related_runStage hosts (hbody stage value) completed stage)
        fun result => ih result.2 result.1

theorem related_prepare (hosts : there.Related R here) (request : RunRequest) :
    Activity.Related R (prepare there request) (prepare here request) := by
  refine related_bind (related_inspect (hosts.absolute _)) fun imagePath => ?_
  refine related_bind (related_inspect (hosts.absolute _)) fun objectPath => ?_
  refine related_bind (related_mapError (related_perform ?_) _) fun root =>
    related_pure _
  intro t s h
  rw [hosts.temporaryDirectory t s h]
  exact hosts.makeScratch _ _ t s h

/-- Runs do the same on related states, if their hosts and their collaborators
do. -/
theorem run_related (hosts : there.Related R here)
    (collaborators : tools'.Related R tools) (request : RunRequest) :
    Activity.Related R (run there tools' request) (run here tools request) := by
  refine related_bind (related_report _) fun _ => ?_
  refine related_bind (related_settle (related_prepare hosts request))
    fun answer => ?_
  rcases answer with error | ⟨imagePath, objectPath, workspace⟩
  · exact related_bind (related_report _) fun _ => related_fail _
  · refine related_cleanUp ?_ (hosts.removeDirectory workspace.root)
    rw [runIn_eq_drive ⟨there, tools', request, imagePath, workspace⟩,
      runIn_eq_drive ⟨here, tools, request, imagePath, workspace⟩]
    refine related_bind (related_report _) fun _ => ?_
    refine related_bind
      (related_drive hosts
        (related_body hosts collaborators request imagePath workspace) _ _ _)
      fun result => ?_
    exact related_bind (related_report _) fun _ => related_pure _

end Run

end Related

/-! ## States with a record -/

/-- The stage in which a job arises. -/
def Job.stage : Job → Stage
  | recover _ => .recover
  | lift _ => .lift
  | recompile _ => .recompile

/-- Whether a stage leaves its work to a collaborator that gets a job. -/
def Stage.asks : Stage → Bool
  | extract => false
  | recover => true
  | serialize => false
  | lift => true
  | recompile => true

/-- Jobs, each with the state in which it was handed over. -/
abbrev Handovers (σ : Type) := List (Job × σ)

/-- A change of the state that leaves the record alone. -/
def besideRecord {α : Type} (change : σ → α × σ) (s : σ × Handovers σ) :
    α × (σ × Handovers σ) :=
  ((change s.1).1, (change s.1).2, s.2)

/-- A host whose states carry a record, which no operation touches. -/
def Host.recording (host : Host σ) : Host (σ × Handovers σ) where
  library := host.library
  workingDirectory s := host.workingDirectory s.1
  temporaryDirectory s := host.temporaryDirectory s.1
  executable s := host.executable s.1
  environment s := host.environment s.1
  clock s := host.clock s.1
  isFile s := host.isFile s.1
  isDirectory s := host.isDirectory s.1
  readBytes s := host.readBytes s.1
  writeBytes path content := besideRecord (host.writeBytes path content)
  makeDirectories path := besideRecord (host.makeDirectories path)
  makeScratch directory label := besideRecord (host.makeScratch directory label)
  removeDirectory path s := (host.removeDirectory path s.1, s.2)
  spawn command := besideRecord (host.spawn command)

namespace Activity

variable {ω ε α : Type}

/-- An activity on states with a record, to which it adds what is found in the
state it starts from. -/
def recording (entries : σ → Handovers σ) (x : Activity σ ω ε α) :
    Activity (σ × Handovers σ) ω ε α :=
  fun s => ⟨(x s.1).value, ((x s.1).state, s.2 ++ entries s.1), (x s.1).notes⟩

theorem related_recording (entries : σ → Handovers σ) (x : Activity σ ω ε α) :
    Related (fun t s => t.1 = s) (recording entries x) x := by
  rintro t s rfl
  exact ⟨rfl, rfl, rfl⟩

theorem wp_recording {entries : σ → Handovers σ} {x : Activity σ ω ε α}
    {post : α → σ × Handovers σ → Prop} {fault : ε → σ × Handovers σ → Prop}
    {s : σ × Handovers σ} :
    wp (recording entries x) post fault s ↔
      wp x (fun a s' => post a (s', s.2 ++ entries s.1))
        (fun e s' => fault e (s', s.2 ++ entries s.1)) s.1 :=
  Iff.rfl

end Activity

/-- Collaborators that record each job with the state in which they get it. -/
def Toolchain.recording (tools : Toolchain σ) : Toolchain (σ × Handovers σ) where
  source := {
    name := tools.source.name
    symbols := fun pe path =>
      (tools.source.symbols pe path).recording fun _ => [] }
  engine := {
    name := tools.engine.name
    recover := fun job =>
      (tools.engine.recover job).recording fun s => [(.recover job, s)] }
  lifter := {
    name := tools.lifter.name
    lift := fun job =>
      (tools.lifter.lift job).recording fun s => [(.lift job, s)] }
  compiler := {
    name := tools.compiler.name
    recompile := fun job =>
      (tools.compiler.recompile job).recording fun s => [(.recompile job, s)] }

namespace Toolchain

variable (tools : Toolchain σ)

theorem recording_symbols (pe : Image.Portable) (path : String) :
    tools.recording.source.symbols pe path =
      (tools.source.symbols pe path).recording fun _ => [] := rfl

theorem recording_recover (job : RecoveryJob) :
    tools.recording.engine.recover job =
      (tools.engine.recover job).recording fun s => [(.recover job, s)] := rfl

theorem recording_lift (job : LiftingJob) :
    tools.recording.lifter.lift job =
      (tools.lifter.lift job).recording fun s => [(.lift job, s)] := rfl

theorem recording_recompile (job : CompilationJob) :
    tools.recording.compiler.recompile job =
      (tools.compiler.recompile job).recording
        fun s => [(.recompile job, s)] := rfl

end Toolchain

namespace Run

/-- The plan of a run on states with a record. -/
def Plan.recording (plan : Plan σ) : Plan (σ × Handovers σ) where
  host := plan.host.recording
  tools := plan.tools.recording
  request := plan.request
  imagePath := plan.imagePath
  workspace := plan.workspace

/-- The jobs that a run hands over, each with the state in which the
collaborator gets it. -/
def handovers (host : Host σ) (tools : Toolchain σ) (request : RunRequest)
    (s : σ) : Handovers σ :=
  (run host.recording tools.recording request (s, [])).state.2

theorem related_host_recording (host : Host σ) :
    host.recording.Related (fun t s => t.1 = s) host where
  library := rfl
  workingDirectory := by rintro t s rfl; rfl
  temporaryDirectory := by rintro t s rfl; rfl
  clock := by rintro t s rfl; rfl
  readBytes := by rintro path t s rfl; rfl
  writeBytes := by rintro path content t s rfl; exact ⟨rfl, rfl⟩
  makeDirectories := by rintro path t s rfl; exact ⟨rfl, rfl⟩
  makeScratch := by rintro directory label t s rfl; exact ⟨rfl, rfl⟩
  removeDirectory := by rintro path t s rfl; rfl

theorem related_tools_recording (tools : Toolchain σ) :
    tools.recording.Related (fun t s => t.1 = s) tools where
  sourceName := rfl
  engineName := rfl
  symbols _ _ := Activity.related_recording _ _
  recover _ := Activity.related_recording _ _
  lift _ := Activity.related_recording _ _
  recompile _ := Activity.related_recording _ _

/-- The record changes nothing: a recorded run answers, reports and changes the
host as the plain run does. -/
theorem run_recording (host : Host σ) (tools : Toolchain σ)
    (request : RunRequest) (s : σ) (record : Handovers σ) :
    let recorded := run host.recording tools.recording request (s, record)
    recorded.value = (run host tools request s).value ∧
      recorded.notes = (run host tools request s).notes ∧
      recorded.state.1 = (run host tools request s).state :=
  run_related (related_host_recording host) (related_tools_recording tools)
    request (s, record) s rfl

/-- What a recorded run brings about holds of the answer of the plain run and
of the jobs it hands over. -/
theorem answer_of_recorded {host : Host σ} {tools : Toolchain σ}
    {request : RunRequest} {s : σ} {post : Report → σ × Handovers σ → Prop}
    {fault : RunFailure → σ × Handovers σ → Prop}
    (h : (run host.recording tools.recording request).wp post fault (s, [])) :
    let answer := (run host tools request s).value
    let calls := handovers host tools request s
    (∃ report s', answer = .ok report ∧ post report (s', calls)) ∨
      ∃ failure s', answer = .error failure ∧ fault failure (s', calls) := by
  intro answer calls
  obtain ⟨hvalue, -, -⟩ := run_recording host tools request s []
  let last := (run host.recording tools.recording request (s, [])).state
  cases hanswer : (run host tools request s).value with
  | ok report =>
      rw [Activity.wp, hvalue, hanswer] at h
      exact .inl ⟨report, last.1, hanswer, h⟩
  | error failure =>
      rw [Activity.wp, hvalue, hanswer] at h
      exact .inr ⟨failure, last.1, hanswer, h⟩

/-! ## Steps on states with a record -/

section Steps

open Activity

variable {ω ε α : Type} {host : Host σ}

theorem wp_noted {x : Activity σ Note ε α} {post : α → σ → Prop}
    {fault : ε → σ → Prop} {s : σ} :
    x.noted.wp post fault s ↔ x.wp post fault s :=
  wp_retell

theorem wp_called {job : Job} {x : Activity σ Note ε α} {post : α → σ → Prop}
    {fault : ε → σ → Prop} {s : σ} :
    (Activity.called job x).wp post fault s ↔ x.wp post fault s := by
  rw [Activity.called, wp_bind, wp_report, wp_noted]

theorem wp_perform_besideRecord {change : σ → Except ε α × σ}
    {post : α → σ × Handovers σ → Prop} {fault : ε → σ × Handovers σ → Prop}
    {s : σ × Handovers σ} :
    (perform (besideRecord change) : Activity _ ω ε α).wp post fault s ↔
      (∀ a s', change s.1 = (.ok a, s') → post a (s', s.2)) ∧
      ∀ e s', change s.1 = (.error e, s') → fault e (s', s.2) := by
  rcases h : change s.1 with ⟨e | a, s'⟩ <;>
    simp [wp, perform_apply, besideRecord, h]

theorem wp_exchangeOut {path : String} {content : Bytes}
    {post : Unit → σ × Handovers σ → Prop}
    {fault : Error → σ × Handovers σ → Prop} {s : σ × Handovers σ} :
    (host.recording.exchangeOut path content).wp post fault s ↔
      (∀ u s', host.writeBytes path content s.1 = (.ok u, s') →
        post u (s', s.2)) ∧
      ∀ cause s', host.writeBytes path content s.1 = (.error cause, s') →
        fault (.io ("Failed to write " ++ path) cause) (s', s.2) := by
  rw [Host.exchangeOut, wp_mapError]
  exact wp_perform_besideRecord

end Steps

end Run

end Relift
