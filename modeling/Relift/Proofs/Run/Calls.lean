import Relift.Proofs.Run.Answers

/-!
# The calls of a run

The history of a run tells of calls, and the collaborators of a recorded run
keep a record of the jobs that they get.  The two are brought together here: the
jobs in the history of a run are the jobs in the record, in the same order
(`calls_run`).  What is read off a history about calls therefore says something
about the collaborators.

A stage that leaves work to a collaborator calls it once, and only a stage that
fails may come to its end without the call (`Plan.body_asks`).

## Main results

* `calls_of_passed`, `Plan.calls_body_error` — whom the stages of a run call.
* `calls_run` — the calls in the history of a run are those of the record.
-/

namespace Relift

/-- The job with which an event calls a collaborator. -/
def Event.call? : Event → Option Job
  | called job => some job
  | _ => none

namespace Run

variable {σ ε α β : Type}

/-- The jobs that a history gives to collaborators, in order. -/
def calls (events : List Event) : List Job :=
  events.filterMap Event.call?

@[simp] theorem calls_append (a b : List Event) :
    calls (a ++ b) = calls a ++ calls b :=
  List.filterMap_append

/-! ## What the bodies report -/

theorem tells_noted {P : Event → Prop} (h : ∀ note, P (.note note))
    (x : Activity σ Note ε α) : x.noted.Tells P := by
  refine Activity.tells_retell x fun note told htold => ?_
  rw [List.mem_singleton.mp htold]
  exact h note

theorem tells_called {P : Event → Prop} (h : ∀ note, P (.note note)) {job : Job}
    (hjob : P (.called job)) (x : Activity σ Note ε α) :
    (Activity.called job x).Tells P :=
  Activity.tells_bind (Activity.tells_report hjob) fun _ => tells_noted h x

theorem tells_reportNotes {P : Event → Prop} (h : ∀ note, P (.note note))
    (notes : List Note) :
    (Activity.reportAll (notes.map Event.note) :
      Activity σ Event ε Unit).Tells P := by
  refine Activity.tells_reportAll fun event hevent => ?_
  obtain ⟨note, -, rfl⟩ := List.mem_map.mp hevent
  exact h note

theorem tells_recoverIn {P : Event → Prop} (h : ∀ note, P (.note note))
    (hcall : ∀ job, P (.called (.recover job))) (host : Host σ)
    (engine : Engine σ) (imagePath : String) (image : CodeImage)
    (seeds : SeedSet) (area : RecoveryArea) :
    (BlockList.recoverIn host engine imagePath image seeds area).Tells P := by
  refine Activity.tells_bind (tells_noted h _) fun _ => ?_
  refine Activity.tells_bind (tells_called h (hcall _) _) fun _ => ?_
  refine Activity.tells_bind (tells_noted h _) fun emitted => ?_
  exact Activity.tells_bind (tells_reportNotes h _) fun _ =>
    Activity.tells_pure _

theorem tells_extractBody {P : Event → Prop} (h : ∀ note, P (.note note))
    (host : Host σ) (source : SymbolSource σ) (imagePath : String)
    (extraSeeds : List Address) (policy : CollisionPolicy) :
    (extractBody host source imagePath extraSeeds policy).Tells P := by
  refine Activity.tells_bind (tells_noted h _) fun found => ?_
  refine Activity.tells_bind (Activity.tells_ofExcept _) fun correlated => ?_
  exact Activity.tells_bind (tells_reportNotes h _) fun _ =>
    Activity.tells_pure _

/-- An activity gives one job of a stage to a collaborator, and may leave that
out only when it fails. -/
def Asks (stage : Stage) (x : Activity σ Event ε α) : Prop :=
  ∀ s, (calls (x s).notes).map Job.stage = [stage] ∨
    calls (x s).notes = [] ∧ ∃ e, (x s).value = .error e

/-- An activity calls no collaborator. -/
abbrev Uncalling (x : Activity σ Event ε α) : Prop :=
  x.Tells fun event => event.call? = none

theorem Uncalling.calls_eq_nil {x : Activity σ Event ε α} (h : Uncalling x)
    (s : σ) : calls (x s).notes = [] :=
  List.filterMap_eq_nil_iff.mpr (h s)

theorem asks_called (job : Job) (x : Activity σ Note ε α) :
    Asks job.stage (Activity.called job x) := by
  intro s
  have hcalls := Uncalling.calls_eq_nil (tells_noted (fun _ => rfl) x) s
  left
  rw [Activity.called, Activity.report_bind]
  show (job :: calls (x.noted s).notes).map Job.stage = [job.stage]
  rw [hcalls]
  rfl

theorem Asks.bind {stage : Stage} {x : Activity σ Event ε α}
    {f : α → Activity σ Event ε β} (hx : Asks stage x)
    (hf : ∀ a, Uncalling (f a)) : Asks stage (x >>= f) := by
  intro s
  have hfirst := hx s
  rcases h : x s with ⟨e | a, s', notes⟩
  · rw [h] at hfirst
    rw [Activity.bind_of_error h]
    exact hfirst.imp_right fun hsilent => ⟨hsilent.1, e, rfl⟩
  · rw [h] at hfirst
    rw [Activity.bind_of_ok h]
    rcases hfirst with hcalls | ⟨-, e, he⟩
    · left
      rw [calls_append, (hf a).calls_eq_nil, List.append_nil, hcalls]
    · cases he

theorem Asks.after {stage : Stage} {x : Activity σ Event ε α}
    {f : α → Activity σ Event ε β} (hx : Uncalling x)
    (hf : ∀ a, Asks stage (f a)) : Asks stage (x >>= f) := by
  intro s
  have hfirst := hx.calls_eq_nil s
  rcases h : x s with ⟨e | a, s', notes⟩
  · rw [h] at hfirst
    rw [Activity.bind_of_error h]
    exact .inr ⟨hfirst, e, rfl⟩
  · rw [h] at hfirst
    rw [Activity.bind_of_ok h, calls_append, hfirst]
    exact hf a s'

theorem asks_recoverIn (host : Host σ) (engine : Engine σ) (imagePath : String)
    (image : CodeImage) (seeds : SeedSet) (area : RecoveryArea) :
    Asks .recover
      (BlockList.recoverIn host engine imagePath image seeds area) := by
  have hnote : ∀ note, (Event.note note).call? = none := fun _ => rfl
  refine Asks.after (tells_noted hnote _) fun _ => ?_
  refine Asks.bind (asks_called (.recover _) _) fun _ => ?_
  refine Activity.tells_bind (tells_noted hnote _) fun emitted => ?_
  exact Activity.tells_bind (tells_reportNotes hnote _) fun _ =>
    Activity.tells_pure _

/-- The stages that leave work to a collaborator call it once. -/
theorem Plan.body_asks (plan : Plan σ) {stage : Stage} (h : stage.asks = true)
    (ledger : Ledger) : Asks stage (plan.body stage ledger) := by
  cases stage with
  | extract => cases h
  | recover =>
      refine Asks.bind ?_ fun _ => Activity.tells_pure _
      refine Asks.after
        (Activity.tells_mapError _ (Activity.tells_perform _)) fun _ => ?_
      refine Asks.after
        (Activity.tells_mapError _ (Activity.tells_perform _)) fun root => ?_
      exact asks_recoverIn plan.host plan.tools.engine plan.imagePath
        ledger.image ledger.correlation.seeds ⟨root⟩
  | serialize => cases h
  | lift => exact (asks_called (.lift _) _).bind fun _ => Activity.tells_pure _
  | recompile =>
      exact (asks_called (.recompile _) _).bind fun _ => Activity.tells_pure _

/-- The other stages call none. -/
theorem Plan.body_uncalling (plan : Plan σ) {stage : Stage}
    (h : stage.asks = false) (ledger : Ledger) :
    Uncalling (plan.body stage ledger) := by
  have hnote : ∀ note, (Event.note note).call? = none := fun _ => rfl
  cases stage with
  | extract =>
      exact Activity.tells_bind (tells_extractBody hnote _ _ _ _ _)
        fun _ => Activity.tells_pure _
  | serialize =>
      exact Activity.tells_bind (tells_noted hnote _)
        fun _ => Activity.tells_pure _
  | recover => cases h
  | lift => cases h
  | recompile => cases h

/-- A body that answers has called the collaborator of its stage, if there is
one. -/
theorem Plan.calls_body_ok {plan : Plan σ} {stage : Stage}
    {ledger ledger' : Ledger} {s s' : σ} {inner : List Event}
    (h : plan.body stage ledger s = ⟨.ok ledger', s', inner⟩) :
    (calls inner).map Job.stage = [stage].filter Stage.asks := by
  cases hasks : stage.asks with
  | false =>
      have hnone := (plan.body_uncalling hasks ledger).calls_eq_nil s
      rw [h] at hnone
      simp [hnone, hasks]
  | true =>
      have honce := plan.body_asks hasks ledger s
      rw [h] at honce
      rcases honce with honce | ⟨-, e, he⟩
      · simp [honce, hasks]
      · cases he

/-- A body that fails may have done so before the call. -/
theorem Plan.calls_body_error {plan : Plan σ} {stage : Stage} {ledger : Ledger}
    {s s' : σ} {error : Error} {inner : List Event}
    (h : plan.body stage ledger s = ⟨.error error, s', inner⟩) :
    calls inner = [] ∨ (calls inner).map Job.stage = [stage].filter Stage.asks := by
  cases hasks : stage.asks with
  | false =>
      have hnone := (plan.body_uncalling hasks ledger).calls_eq_nil s
      rw [h] at hnone
      exact .inl hnone
  | true =>
      have honce := plan.body_asks hasks ledger s
      rw [h] at honce
      rcases honce with honce | ⟨hnone, -⟩
      · exact .inr (by simp [honce, hasks])
      · exact .inl hnone

@[simp] theorem calls_passedEvents (host : Host σ) (stage : Stage)
    (start stop : σ) (inner : List Event) :
    calls (passedEvents host stage start stop inner) = calls inner := by
  simp [passedEvents, openingEvents, calls, List.filterMap_cons, Event.call?]

@[simp] theorem calls_brokenEvents (failure : RunFailure) (inner : List Event) :
    calls (brokenEvents failure inner) = calls inner := by
  cases hoe : failure.error.toolOutput? <;>
    simp [brokenEvents, openingEvents, failureEvents, calls,
      List.filterMap_cons, Event.call?, hoe]

/-- The collaborators of a row of stages are called in its order. -/
theorem calls_of_passed {plan : Plan σ} {stages : List Stage}
    {ledger ledger' : Ledger} {s s' : σ} {events : List Event}
    (h : Passed plan.host plan.body stages ledger s ledger' s' events) :
    (calls events).map Job.stage = stages.filter Stage.asks := by
  induction h with
  | nil => rfl
  | @cons stage rest a b c s s' s'' inner events first others ih =>
      rw [calls_append, calls_passedEvents, List.map_append,
        Plan.calls_body_ok first, ih, ← List.filter_append]
      rfl

/-! ## The record of the calls -/

/-- An activity adds to the record the jobs that its events tell of. -/
def RecordsCalls (x : Activity (σ × Handovers σ) Event ε α) : Prop :=
  ∀ s, (x s).state.2.map Prod.fst = s.2.map Prod.fst ++ calls (x s).notes

theorem recordsCalls_of_leavesRecord {x : Activity (σ × Handovers σ) Event ε α}
    (hrecord : LeavesRecord x) (hevents : Uncalling x) : RecordsCalls x := by
  intro s
  rw [hevents.calls_eq_nil, List.append_nil, hrecord s.2 s rfl]

theorem recordsCalls_noted {x : Activity (σ × Handovers σ) Note ε α}
    (h : LeavesRecord x) : RecordsCalls x.noted :=
  recordsCalls_of_leavesRecord (fun record => Activity.keeps_retell _ (h record))
    (tells_noted (fun _ => rfl) x)

/-- A collaborator records the job with which it is called. -/
theorem recordsCalls_called (job : Job) (x : Activity σ Note ε α) :
    RecordsCalls (Activity.called job (x.recording fun s => [(job, s)])) := by
  intro s
  have hnone := Uncalling.calls_eq_nil
    (tells_noted (fun _ => rfl) (x.recording fun s => [(job, s)])) s
  rw [Activity.called, Activity.report_bind]
  show (s.2 ++ [(job, s.1)]).map Prod.fst = s.2.map Prod.fst ++ job :: calls _
  rw [hnone, List.map_append]
  rfl

theorem RecordsCalls.bind {x : Activity (σ × Handovers σ) Event ε α}
    {f : α → Activity (σ × Handovers σ) Event ε β} (hx : RecordsCalls x)
    (hf : ∀ a, RecordsCalls (f a)) : RecordsCalls (x >>= f) := by
  intro s
  have hfirst := hx s
  rcases h : x s with ⟨e | a, s', notes⟩
  · rw [h] at hfirst
    rw [Activity.bind_of_error h]
    exact hfirst
  · rw [h] at hfirst
    rw [Activity.bind_of_ok h]
    show (f a s').state.2.map Prod.fst = _ ++ calls (notes ++ (f a s').notes)
    rw [hf a s', hfirst, calls_append, List.append_assoc]

theorem recordsCalls_pure (a : α) :
    RecordsCalls (pure a : Activity (σ × Handovers σ) Event ε α) :=
  fun s => (List.append_nil (s.2.map Prod.fst)).symm

theorem recordsCalls_perform (change : σ → Except ε α × σ) {ε' : Type}
    (f : ε → ε') :
    RecordsCalls ((Activity.perform (besideRecord change)).mapError f) :=
  recordsCalls_of_leavesRecord
    (fun _ => Activity.keeps_mapError f (Activity.keeps_perform fun _ h => h))
    (Activity.tells_mapError f (Activity.tells_perform _))

theorem recordsCalls_recoverIn (host : Host σ) (tools : Toolchain σ)
    (imagePath : String) (image : CodeImage) (seeds : SeedSet)
    (area : RecoveryArea) :
    RecordsCalls (BlockList.recoverIn host.recording tools.recording.engine
      imagePath image seeds area) := by
  have hwrite : LeavesRecord (AddressFile.write host.recording area.seeds
      seeds.members) := fun _ =>
    Activity.keeps_bind (Activity.keeps_mapError _
      (Activity.keeps_perform fun _ h => h)) fun _ => Activity.keeps_report _
  have hread : LeavesRecord (AddressFile.read host.recording area.result) :=
    fun _ => Activity.keeps_bind (Activity.keeps_mapError _
      (Activity.keeps_inspect _)) fun _ => Activity.keeps_ofExcept _
  refine (recordsCalls_noted hwrite).bind fun _ => ?_
  refine RecordsCalls.bind (recordsCalls_called (.recover _) _) fun _ => ?_
  refine (recordsCalls_noted hread).bind fun emitted => ?_
  refine RecordsCalls.bind ?_ fun _ => recordsCalls_pure _
  exact recordsCalls_of_leavesRecord (fun _ => Activity.keeps_reportAll _)
    (tells_reportNotes (fun _ => rfl) _)

/-- The bodies of a recorded run tell of the calls that are recorded. -/
theorem Plan.recordsCalls_body (plan : Plan σ) (stage : Stage)
    (ledger : Ledger) : RecordsCalls (plan.recording.body stage ledger) := by
  cases hasks : stage.asks with
  | false =>
      exact recordsCalls_of_leavesRecord (leavesRecord_body plan hasks ledger)
        (plan.recording.body_uncalling hasks ledger)
  | true =>
      cases stage with
      | extract => cases hasks
      | recover =>
          refine RecordsCalls.bind ?_ fun _ => recordsCalls_pure _
          refine (recordsCalls_perform _ _).bind fun _ => ?_
          refine (recordsCalls_perform _ _).bind fun root => ?_
          exact recordsCalls_recoverIn plan.host plan.tools plan.imagePath
            ledger.image ledger.correlation.seeds ⟨root⟩
      | serialize => cases hasks
      | lift =>
          exact RecordsCalls.bind (recordsCalls_called (.lift _) _)
            fun _ => recordsCalls_pure _
      | recompile =>
          exact RecordsCalls.bind (recordsCalls_called (.recompile _) _)
            fun _ => recordsCalls_pure _

theorem record_of_passed {plan : Plan σ} {stages : List Stage}
    {ledger ledger' : Ledger} {s s' : σ × Handovers σ} {events : List Event}
    (h : Passed plan.recording.host plan.recording.body stages ledger s ledger'
      s' events) :
    s'.2.map Prod.fst = s.2.map Prod.fst ++ calls events := by
  induction h with
  | nil => exact (List.append_nil _).symm
  | @cons stage rest a b c s s' s'' inner events first others ih =>
      have hbody := plan.recordsCalls_body stage a s
      rw [first] at hbody
      rw [ih, hbody, calls_append, calls_passedEvents, List.append_assoc]

/-- A recorded run that follows a plan tells of the calls that are recorded. -/
theorem record_of_opens (plan : Plan σ) {s s₀ : σ × Handovers σ}
    {objectPath : String} (h : plan.recording.Opens s objectPath s₀)
    (hrecord : s₀.2 = []) :
    let recorded := run plan.recording.host plan.recording.tools
      plan.recording.request s
    recorded.state.2.map Prod.fst = calls recorded.notes := by
  intro recorded
  rcases passed_or_broken plan.recording.host plan.recording.body Stage.all
      (.blank objectPath) s₀ with
    ⟨ledger, s₁, events, hpassed⟩ |
    ⟨before, stage, after, ledger, s₁, events, error, s₂, inner, hall, hbefore,
      hstage⟩
  · have hrun : recorded = _ := run_of_passed plan.recording h hpassed
    have hcalls := record_of_passed hpassed
    rw [hrecord, List.map_nil, List.nil_append] at hcalls
    rw [hrun]
    show s₁.2.map Prod.fst = calls (events ++ [.state .done])
    rw [hcalls, calls_append]
    exact (List.append_nil _).symm
  · have hrun : recorded = _ := run_of_broken plan.recording h hall hbefore hstage
    have hcalls := record_of_passed hbefore
    have hlast := plan.recordsCalls_body stage ledger s₁
    rw [hrecord, List.map_nil, List.nil_append] at hcalls
    rw [hstage, hcalls] at hlast
    rw [hrun]
    show s₂.2.map Prod.fst = calls (events ++ brokenEvents _ inner)
    rw [hlast, calls_append, calls_brokenEvents]

/-- The calls in the history of a run are those of the record, job by job. -/
theorem calls_run (host : Host σ) (tools : Toolchain σ) (request : RunRequest)
    (s : σ) :
    calls (run host tools request s).notes =
      (handovers host tools request s).map Prod.fst := by
  rw [← (run_recording host tools request s []).2.1, handovers]
  have hprepared := wp_prepare host tools request s
  rcases run_cases host.recording tools.recording request (s, []) with
    ⟨error, herror⟩ | ⟨imagePath, workspace, objectPath, s₀, hopens, -⟩
  · rw [Activity.wp, herror] at hprepared
    rw [run_of_unprepared herror, hprepared]
    rfl
  · rw [Activity.wp_of_ok hopens] at hprepared
    exact (record_of_opens ⟨host, tools, request, imagePath, workspace⟩ hopens
      hprepared.1).symm

end Run

end Relift
