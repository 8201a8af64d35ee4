import Relift.Proofs.Activity
import Relift.Run.Basic

/-!
# Going through stages

A run is a row of stages, each of which has a body.  This module separates the
two: `drive` goes through any row of stages with any bodies, and `Ledger`
together with `Plan.body` tells what the five bodies of a run read and leave.
`runIn_eq_drive` puts them together again.

What `drive` can do is said once, by induction on the row of stages:

* `passed_or_broken` — either all stages succeed, or there is a first one that
  fails, and all before it succeed;
* `drive_of_passed` — stages that succeed are left behind, with their events;
* `drive_of_broken` — the first stage that fails ends the matter.

Everything about the course of a run follows from these three.  What a run
brings about is said in the same way: `wp_drive` carries an invariant through a
row of stages, and `wp_run` leaves to be proved what the bodies do to it.
-/

namespace Relift.Run

variable {σ α β : Type}

/-! ## One stage -/

/-- The events at the beginning of a stage. -/
def openingEvents (stage : Stage) : List Event :=
  [.state (.running stage), .started stage]

/-- The events of a stage that succeeds, around those of its body. -/
def passedEvents (host : Host σ) (stage : Stage) (start stop : σ)
    (inner : List Event) : List Event :=
  openingEvents stage ++ inner ++
    [.finished stage (host.clock stop - host.clock start)]

/-- The events of a stage that fails, around those of its body. -/
def brokenEvents (failure : RunFailure) (inner : List Event) : List Event :=
  openingEvents failure.stage ++ inner ++ failureEvents failure

theorem runStage_of_ok {host : Host σ} {body : Activity σ Event Error α}
    {s s' : σ} {a : α} {inner : List Event} (h : body s = ⟨.ok a, s', inner⟩)
    (completed : List Stage) (stage : Stage) :
    runStage host completed stage body s =
      ⟨.ok (a, completed ++ [stage]), s', passedEvents host stage s s' inner⟩ := by
  simp [runStage, h, passedEvents, openingEvents, -bind_pure_comp]

theorem runStage_of_error {host : Host σ} {body : Activity σ Event Error α}
    {s s' : σ} {e : Error} {inner : List Event}
    (h : body s = ⟨.error e, s', inner⟩) (completed : List Stage)
    (stage : Stage) :
    runStage host completed stage body s =
      ⟨.error ⟨stage, e⟩, s', brokenEvents ⟨stage, e⟩ inner⟩ := by
  simp [runStage, h, brokenEvents, openingEvents]

/-- What a body's answer is turned into may be turned so after the stage. -/
theorem runStage_bind_pure (host : Host σ) (completed : List Stage)
    (stage : Stage) (body : Activity σ Event Error α) (f : α → β) :
    runStage host completed stage (body >>= fun a => pure (f a)) =
      runStage host completed stage body >>= fun r => pure (f r.1, r.2) := by
  funext s
  rcases h : body s with ⟨e | a, s', inner⟩
  · rw [runStage_of_error (Activity.bind_of_error h _),
      Activity.bind_of_error (runStage_of_error h completed stage)]
  · have hbody : (body >>= fun a => pure (f a)) s = ⟨.ok (f a), s', inner⟩ := by
      rw [Activity.bind_of_ok h]
      simp
    rw [runStage_of_ok hbody, Activity.bind_of_ok (runStage_of_ok h completed stage)]
    simp

/-! ## Rows of stages -/

/-- Goes through stages one after the other.  The body of a stage turns what
was left by those before it into what it leaves itself. -/
def drive (host : Host σ) (body : Stage → β → Activity σ Event Error β) :
    List Stage → List Stage → β → Activity σ Event RunFailure (β × List Stage)
  | completed, [], value => pure (value, completed)
  | completed, stage :: rest, value => do
    let (value, completed) ← runStage host completed stage (body stage value)
    drive host body completed rest value

/-- A row of stages succeeds from a value and a state, and leaves others, with
the given events. -/
inductive Passed (host : Host σ) (body : Stage → β → Activity σ Event Error β) :
    List Stage → β → σ → β → σ → List Event → Prop where
  | nil (value : β) (s : σ) : Passed host body [] value s value s []
  | cons {stage : Stage} {rest : List Stage} {a b c : β} {s s' s'' : σ}
      {inner events : List Event} (first : body stage a s = ⟨.ok b, s', inner⟩)
      (others : Passed host body rest b s' c s'' events) :
      Passed host body (stage :: rest) a s c s''
        (passedEvents host stage s s' inner ++ events)

section Rows

variable {host : Host σ} {body : Stage → β → Activity σ Event Error β}

/-- Of a row of stages either all succeed, or one fails after all before it
have succeeded. -/
theorem passed_or_broken (host : Host σ)
    (body : Stage → β → Activity σ Event Error β) (stages : List Stage) :
    ∀ (value : β) (s : σ),
      (∃ value' s' events, Passed host body stages value s value' s' events) ∨
      ∃ before stage after value' s' events error s'' inner,
        stages = before ++ stage :: after ∧
        Passed host body before value s value' s' events ∧
        body stage value' s' = ⟨.error error, s'', inner⟩ := by
  induction stages with
  | nil => intro value s; exact .inl ⟨value, s, [], .nil value s⟩
  | cons stage rest ih =>
      intro value s
      rcases h : body stage value s with ⟨error | b, s', inner⟩
      · exact .inr ⟨[], stage, rest, value, s, [], error, s', inner, rfl,
          .nil value s, h⟩
      · rcases ih b s' with ⟨c, s'', events, hrest⟩ |
          ⟨before, broken, after, c, s'', events, error, s₃, inner', hsplit,
            hbefore, hbroken⟩
        · exact .inl ⟨c, s'', _, .cons h hrest⟩
        · refine .inr ⟨stage :: before, broken, after, c, s'', _, error, s₃,
            inner', ?_, .cons h hbefore, hbroken⟩
          rw [hsplit, List.cons_append]

/-- Stages that succeed are left behind. -/
theorem drive_of_passed {before : List Stage} {value value' : β} {s s' : σ}
    {events : List Event}
    (h : Passed host body before value s value' s' events) (rest : List Stage) :
    ∀ completed : List Stage,
      drive host body completed (before ++ rest) value s =
        let next := drive host body (completed ++ before) rest value' s'
        ⟨next.value, next.state, events ++ next.notes⟩ := by
  induction h with
  | nil value s => intro completed; simp
  | @cons stage before a b c s s' s'' inner events first others ih =>
      intro completed
      rw [List.cons_append, drive,
        Activity.bind_of_ok (runStage_of_ok first completed stage)]
      simp [ih (completed ++ [stage])]

/-- The first stage that fails ends the matter, whatever comes after it. -/
theorem drive_of_broken {before : List Stage} {stage : Stage}
    {value value' : β} {s s' s'' : σ} {events inner : List Event} {error : Error}
    (hbefore : Passed host body before value s value' s' events)
    (hstage : body stage value' s' = ⟨.error error, s'', inner⟩)
    (after completed : List Stage) :
    drive host body completed (before ++ stage :: after) value s =
      ⟨.error ⟨stage, error⟩, s'', events ++ brokenEvents ⟨stage, error⟩ inner⟩ := by
  rw [drive_of_passed hbefore, drive,
    Activity.bind_of_error (runStage_of_error hstage _ stage)]

/-- A row that succeeds is completed from its first stage to its last. -/
theorem drive_eq_of_passed {stages : List Stage} {value value' : β} {s s' : σ}
    {events : List Event}
    (h : Passed host body stages value s value' s' events)
    (completed : List Stage) :
    drive host body completed stages value s =
      ⟨.ok (value', completed ++ stages), s', events⟩ := by
  have hdrive := drive_of_passed h [] completed
  simpa [drive] using hdrive

theorem wp_runStage {body : Activity σ Event Error α} {completed : List Stage}
    {stage : Stage} {post : α × List Stage → σ → Prop}
    {fault : RunFailure → σ → Prop} {s : σ} :
    (runStage host completed stage body).wp post fault s ↔
      body.wp (fun a => post (a, completed ++ [stage]))
        (fun e => fault ⟨stage, e⟩) s := by
  rcases h : body s with ⟨e | a, s', inner⟩
  · rw [Activity.wp_of_error h,
      Activity.wp_of_error (runStage_of_error h completed stage)]
  · rw [Activity.wp_of_ok h,
      Activity.wp_of_ok (runStage_of_ok h completed stage)]

/-- What each stage makes of the invariant of the stages before it, a row of
stages makes of the invariant at its beginning. -/
theorem wp_drive {invariant : List Stage → β → σ → Prop}
    {fault : RunFailure → σ → Prop}
    (step : ∀ stage rest value s, invariant (stage :: rest) value s →
      (body stage value).wp (invariant rest) (fun e => fault ⟨stage, e⟩) s)
    (stages : List Stage) :
    ∀ (completed : List Stage) (value : β) (s : σ), invariant stages value s →
      (drive host body completed stages value).wp
        (fun result s' => invariant [] result.1 s' ∧
          result.2 = completed ++ stages)
        fault s := by
  induction stages with
  | nil =>
      intro completed value s h
      exact ⟨h, (List.append_nil completed).symm⟩
  | cons stage rest ih =>
      intro completed value s h
      rw [drive, Activity.wp_bind, wp_runStage]
      refine Activity.wp_mono (step stage rest value s h) ?_ fun _ _ h => h
      intro value' s' h'
      refine Activity.wp_mono (ih (completed ++ [stage]) value' s' h') ?_
        fun _ _ h => h
      rintro result s'' ⟨hresult, hcompleted⟩
      exact ⟨hresult, by rw [hcompleted, List.append_assoc]; rfl⟩

end Rows

/-! ## The five bodies -/

/-- What the stages of a run have left so far. -/
structure Ledger where
  image : CodeImage
  correlation : Correlation
  blocks : BlockList
  irPath : String
  /-- Where the object file is to be; once it is compiled, where it is. -/
  objectPath : String

namespace Ledger

/-- The ledger before the first stage. -/
def blank (objectPath : String) : Ledger where
  image := ⟨0, []⟩
  correlation := ⟨∅, ∅⟩
  blocks := ⟨[]⟩
  irPath := ""
  objectPath

/-- The report that a ledger gives after the last stage. -/
def toReport (ledger : Ledger) (completed : List Stage) : Report where
  state := .done
  loadAddress := ledger.image.loadAddress
  codeSize := UInt64.ofNat ledger.image.code.length
  seedCount := UInt64.ofNat ledger.correlation.seeds.size
  blockCount := UInt64.ofNat ledger.blocks.size
  nameCount := UInt64.ofNat ledger.correlation.names.size
  objectPath := ledger.objectPath
  stagesCompleted := completed

end Ledger

/-- What stays the same while a run goes through its stages. -/
structure Plan (σ : Type) where
  host : Host σ
  tools : Toolchain σ
  request : RunRequest
  /-- The executable, as an absolute path. -/
  imagePath : String
  workspace : Workspace

/-- The body of a stage: it reads the ledger and fills in its own part. -/
def Plan.body (plan : Plan σ) (stage : Stage) (ledger : Ledger) :
    Activity σ Event Error Ledger :=
  match stage with
  | .extract => do
    let found ← extractBody plan.host plan.tools.source plan.imagePath
      plan.request.extraSeeds plan.request.policy
    pure { ledger with image := found.1, correlation := found.2 }
  | .recover => do
    let blocks ← recoverBody plan.host plan.tools.engine plan.imagePath
      ledger.image ledger.correlation.seeds plan.workspace
    pure { ledger with blocks }
  | .serialize => do
    let _ ← (writeWorkspace plan.host plan.workspace ledger.image ledger.blocks
      ledger.correlation.names).noted
    pure ledger
  | .lift => do
    let irPath ← liftBody plan.tools.lifter ledger.image.loadAddress
      plan.workspace
    pure { ledger with irPath }
  | .recompile => do
    let objectPath ← recompileBody plan.tools.compiler ledger.irPath
      ledger.objectPath
    pure { ledger with objectPath }

/-- The record that opens the course of a run. -/
def Plan.openingNote (plan : Plan σ) : Event :=
  .note (.debug ("workspace at " ++ plan.workspace.root))

/-- The five stages are one row with these bodies. -/
theorem runIn_eq_drive (plan : Plan σ) (objectPath : String) :
    runIn plan.host plan.tools plan.request plan.imagePath objectPath
        plan.workspace =
      (do
        Activity.report plan.openingNote
        let result ← drive plan.host plan.body [] Stage.all (.blank objectPath)
        Activity.report (.state .done)
        pure (result.1.toReport result.2)) := by
  simp only [runIn, drive, Stage.all, Plan.body, runStage_bind_pure,
    bind_assoc, pure_bind]
  rfl

/-! ## Whole runs -/

/-- Nothing is reported before the first stage. -/
theorem prepare_notes (host : Host σ) (request : RunRequest) (s : σ) :
    (prepare host request s).notes = [] := by
  refine Activity.Tells.notes_eq_nil ?_ s
  refine Activity.tells_bind (Activity.tells_inspect _) fun imagePath => ?_
  refine Activity.tells_bind (Activity.tells_inspect _) fun objectPath => ?_
  refine Activity.tells_bind ?_ fun root => Activity.tells_pure _
  exact Activity.tells_mapError _ (Activity.tells_perform _)

/-- A run whose preparation fails goes through no stage at all. -/
theorem run_of_unprepared {host : Host σ} {request : RunRequest} {s : σ}
    {error : Error} (h : (prepare host request s).value = .error error)
    (tools : Toolchain σ) :
    run host tools request s =
      ⟨.error ⟨.extract, error⟩, (prepare host request s).state,
        [.state .init, .state (.failed .extract)]⟩ := by
  simp [run, h, prepare_notes]

/-- A run from a state follows a plan: its preparation succeeds, with the paths
of the plan, an absolute path for the object file and a state for the first
stage. -/
def Plan.Opens (plan : Plan σ) (s : σ) (objectPath : String) (s₀ : σ) : Prop :=
  prepare plan.host plan.request s =
    ⟨.ok (plan.imagePath, objectPath, plan.workspace), s₀, []⟩

variable (plan : Plan σ) {s s₀ s₁ s₂ : σ} {objectPath : String}
  {ledger : Ledger} {events inner : List Event}

/-- A run that follows a plan goes through the five stages and removes its
workspace. -/
theorem run_of_opens (h : plan.Opens s objectPath s₀) :
    run plan.host plan.tools plan.request s =
      let course := runIn plan.host plan.tools plan.request plan.imagePath
        objectPath plan.workspace s₀
      ⟨course.value, plan.host.removeDirectory plan.workspace.root course.state,
        .state .init :: course.notes⟩ := by
  rw [Plan.Opens] at h
  simp [run, h]

/-- The outcome of a run all of whose stages succeed. -/
theorem run_of_passed (h : plan.Opens s objectPath s₀)
    (hpassed : Passed plan.host plan.body Stage.all (.blank objectPath) s₀
      ledger s₁ events) :
    run plan.host plan.tools plan.request s =
      ⟨.ok (ledger.toReport Stage.all),
        plan.host.removeDirectory plan.workspace.root s₁,
        .state .init :: plan.openingNote :: (events ++ [.state .done])⟩ := by
  rw [run_of_opens plan h, runIn_eq_drive, Activity.report_bind,
    Activity.bind_of_ok (drive_eq_of_passed hpassed [])]
  rfl

/-- The outcome of a run one of whose stages fails, those before it having
succeeded. -/
theorem run_of_broken (h : plan.Opens s objectPath s₀)
    {before after : List Stage} {stage : Stage} {error : Error}
    (hall : Stage.all = before ++ stage :: after)
    (hbefore : Passed plan.host plan.body before (.blank objectPath) s₀ ledger
      s₁ events)
    (hstage : plan.body stage ledger s₁ = ⟨.error error, s₂, inner⟩) :
    run plan.host plan.tools plan.request s =
      ⟨.error ⟨stage, error⟩,
        plan.host.removeDirectory plan.workspace.root s₂,
        .state .init :: plan.openingNote ::
          (events ++ brokenEvents ⟨stage, error⟩ inner)⟩ := by
  rw [run_of_opens plan h, runIn_eq_drive, hall, Activity.report_bind,
    Activity.bind_of_error (drive_of_broken hbefore hstage after [])]

/-- A run brings about what its preparation and then its stages bring about,
where every way out of the stages removes the workspace. -/
theorem wp_run {host : Host σ} {tools : Toolchain σ} {request : RunRequest}
    {post : Report → σ → Prop} {fault : RunFailure → σ → Prop} :
    (run host tools request).wp post fault s ↔
      (prepare host request).wp
        (fun opened s₀ =>
          let plan : Plan σ := ⟨host, tools, request, opened.1, opened.2.2⟩
          let remove := host.removeDirectory plan.workspace.root
          (drive host plan.body [] Stage.all (.blank opened.2.1)).wp
            (fun result s' => post (result.1.toReport result.2) (remove s'))
            (fun failure s' => fault failure (remove s')) s₀)
        (fun error => fault ⟨.extract, error⟩) s := by
  rw [run, Activity.wp_bind, Activity.wp_report, Activity.wp_bind,
    Activity.wp_settle]
  refine Iff.of_eq ?_
  congr 1
  funext ⟨imagePath, objectPath, workspace⟩ s₀
  refine propext ?_
  show ((runIn host tools request imagePath objectPath workspace).cleanUp
    (host.removeDirectory workspace.root)).wp post fault s₀ ↔ _
  rw [Activity.wp_cleanUp,
    runIn_eq_drive ⟨host, tools, request, imagePath, workspace⟩,
    Activity.wp_bind, Activity.wp_report, Activity.wp_bind]
  exact Iff.rfl

/-- A run is not prepared, or it follows a plan and all of its stages succeed,
or it follows a plan and one of its stages is the first to fail. -/
theorem run_cases (host : Host σ) (tools : Toolchain σ) (request : RunRequest)
    (s : σ) :
    (∃ error, (prepare host request s).value = .error error) ∨
    ∃ imagePath workspace objectPath s₀,
      let plan : Plan σ := ⟨host, tools, request, imagePath, workspace⟩
      plan.Opens s objectPath s₀ ∧
      ((∃ ledger s₁ events, Passed host plan.body Stage.all (.blank objectPath)
          s₀ ledger s₁ events) ∨
        ∃ before stage after ledger s₁ events error s₂ inner,
          Stage.all = before ++ stage :: after ∧
          Passed host plan.body before (.blank objectPath) s₀ ledger s₁ events ∧
          plan.body stage ledger s₁ = ⟨.error error, s₂, inner⟩) := by
  have hnotes := prepare_notes host request s
  rcases h : prepare host request s with
    ⟨error | ⟨imagePath, objectPath, workspace⟩, s₀, notes⟩
  · exact .inl ⟨error, rfl⟩
  · rw [h] at hnotes
    refine .inr ⟨imagePath, workspace, objectPath, s₀, ?_,
      passed_or_broken host _ Stage.all _ s₀⟩
    rw [Plan.Opens, h, ← hnotes]

end Relift.Run
