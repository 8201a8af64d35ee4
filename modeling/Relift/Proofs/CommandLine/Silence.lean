import Relift.Proofs.CommandLine.Preparation

/-!
# Silent runs

A silent run is compared with the same run told on the console.  What either of
them puts out while it goes on follows from one history of events (`liftEvents`),
from the record of the locations to the end of the run: each event is told as a
line about a stage, as the output of a tool or as a log record (`Event.told`),
and silence leaves out the first kind.

The two runs need not take the same time.  Another clock changes the durations
in a history and nothing else (`run_withClock`).

## Main result

* `silent_run` — silence changes no result, no file, no process and no log
  record; of the progress it keeps the output of the tool that failed.
-/

namespace Relift

variable {σ : Type}

/-! ## What an event is told as -/

/-- How the output of a tool is shown. -/
def blockText (output : String × String) : String :=
  output.1 ++ " output:\n" ++ output.2 ++ "\n"

/-- What is put out while a run goes on. -/
inductive Told where
  /-- A line about the start, the end or the failure of a stage. -/
  | stageLine (text : String)
  /-- The output of a tool that failed. -/
  | toolBlock (tool log : String)
  | record (level : Level) (text : String)
deriving DecidableEq

namespace Told

/-- Whether it is told in silence as well. -/
def isKept : Told → Bool
  | stageLine _ => false
  | toolBlock _ _ => true
  | record _ _ => true

/-- How it is put out. -/
def output : Told → Output
  | stageLine text => .console text
  | toolBlock tool log => .console (blockText (tool, log))
  | record level text => .log level text

end Told

namespace Event

/-- What is told about an event. -/
def told : Event → List Told
  | state reached => [.record .debug ("state -> " ++ reached.display)]
  | started stage => [.stageLine (stage.description ++ "...\n")]
  | finished stage elapsed =>
    [.stageLine ("✓ " ++ stage.description ++ " (" ++ Text.seconds elapsed ++ "s)\n")]
  | failed stage error =>
    [.stageLine ("✗ " ++ stage.description ++ ": " ++ error.message ++ "\n")]
  | toolOutput tool log => [.toolBlock tool log]
  | called _ => []
  | note (.log level text) => [.record level text]
  | note (.saw _ _) => []

theorem render_console (event : Event) :
    ProgressStyle.console.render event = event.told.map Told.output := by
  cases event with
  | note note => cases note <;> rfl
  | _ => rfl

theorem render_silent (event : Event) :
    ProgressStyle.silent.render event =
      (event.told.filter Told.isKept).map Told.output := by
  cases event with
  | note note => cases note <;> rfl
  | _ => rfl

/-- An event without its duration. -/
def timeless : Event → Event
  | finished stage _ => finished stage 0
  | other => other

/-- What is kept in silence does not depend on durations. -/
theorem filter_told_timeless (event : Event) :
    event.timeless.told.filter Told.isKept = event.told.filter Told.isKept := by
  cases event with
  | finished stage elapsed => simp [timeless, told, Told.isKept]
  | _ => rfl

end Event

/-- What is told about a history. -/
def toldOf (events : List Event) : List Told :=
  events.flatMap Event.told

theorem flatMap_render_console (events : List Event) :
    events.flatMap ProgressStyle.console.render =
      (toldOf events).map Told.output := by
  rw [toldOf, List.map_flatMap]
  exact congrArg (fun f => events.flatMap f) (funext Event.render_console)

theorem flatMap_render_silent (events : List Event) :
    events.flatMap ProgressStyle.silent.render =
      ((toldOf events).filter Told.isKept).map Told.output := by
  rw [toldOf, List.filter_flatMap, List.map_flatMap]
  exact congrArg (fun f => events.flatMap f) (funext Event.render_silent)

/-- Histories that differ in durations only are told alike in silence. -/
theorem filter_toldOf_of_timeless {events events' : List Event}
    (h : events.map Event.timeless = events'.map Event.timeless) :
    (toldOf events).filter Told.isKept = (toldOf events').filter Told.isKept := by
  have hkept : ∀ history : List Event, (toldOf history).filter Told.isKept =
      (history.map Event.timeless).flatMap
        fun event => event.told.filter Told.isKept := by
    intro history
    rw [toldOf, List.filter_flatMap, List.flatMap_map]
    exact congrArg (fun f => history.flatMap f)
      (funext fun event => (Event.filter_told_timeless event).symm)
  rw [hkept, hkept, h]

/-! ## Another clock -/

/-- The host with another clock. -/
def Host.withClock (host : Host σ) (clock : σ → Nat) : Host σ :=
  { host with clock }

namespace Run

variable {host : Host σ} {clock : σ → Nat}

theorem timeless_passedEvents (host host' : Host σ) (stage : Stage)
    (start stop : σ) (inner : List Event) :
    (passedEvents host stage start stop inner).map Event.timeless =
      (passedEvents host' stage start stop inner).map Event.timeless := by
  simp [passedEvents, Event.timeless]

/-- A row of stages goes through by another clock as well. -/
theorem Passed.withClock {β : Type} {host' : Host σ}
    {body : Stage → β → Activity σ Event Error β} {stages : List Stage}
    {value value' : β} {s s' : σ} {events : List Event}
    (h : Passed host body stages value s value' s' events) :
    ∃ events', Passed host' body stages value s value' s' events' ∧
      events'.map Event.timeless = events.map Event.timeless := by
  induction h with
  | nil value s => exact ⟨[], .nil value s, rfl⟩
  | @cons stage rest a b c s s' s'' inner events first others ih =>
      obtain ⟨events', hothers, hsame⟩ := ih
      refine ⟨_, .cons first hothers, ?_⟩
      rw [List.map_append, List.map_append, hsame,
        timeless_passedEvents host' host]

/-- By another clock a run differs in the durations of its stages only. -/
theorem run_withClock (host : Host σ) (clock : σ → Nat) (tools : Toolchain σ)
    (request : RunRequest) (s : σ) :
    let timed := run (host.withClock clock) tools request s
    let outcome := run host tools request s
    timed.value = outcome.value ∧ timed.state = outcome.state ∧
      timed.notes.map Event.timeless = outcome.notes.map Event.timeless := by
  intro timed outcome
  rcases run_cases host tools request s with ⟨error, herror⟩ |
    ⟨imagePath, workspace, objectPath, s₀, hopens, hcourse⟩
  · have htimedError : (prepare (host.withClock clock) request s).value =
        .error error := herror
    have htimed : timed = _ := run_of_unprepared htimedError tools
    have houtcome : outcome = _ := run_of_unprepared herror tools
    rw [htimed, houtcome]
    exact ⟨rfl, rfl, rfl⟩
  · let plan : Plan σ := ⟨host, tools, request, imagePath, workspace⟩
    let timedPlan : Plan σ := { plan with host := host.withClock clock }
    have hbody : timedPlan.body = plan.body := by
      funext stage ledger
      cases stage <;> rfl
    have htimedOpens : timedPlan.Opens s objectPath s₀ := hopens
    rcases hcourse with ⟨ledger, s₁, events, hpassed⟩ |
      ⟨before, stage, after, ledger, s₁, events, error, s₂, inner, hall,
        hbefore, hstage⟩
    · obtain ⟨events', hpassed', hsame⟩ := hpassed.withClock
      have houtcome : outcome = _ := run_of_passed plan hopens hpassed
      have htimed : timed = _ :=
        run_of_passed timedPlan htimedOpens (hbody ▸ hpassed')
      rw [htimed, houtcome]
      refine ⟨rfl, rfl, ?_⟩
      simp only [List.map_cons, List.map_append, hsame]
      rfl
    · obtain ⟨events', hbefore', hsame⟩ := hbefore.withClock
      have houtcome : outcome = _ :=
        run_of_broken plan hopens hall hbefore hstage
      have htimed : timed = _ := run_of_broken timedPlan htimedOpens hall
        (hbody ▸ hbefore') (hbody ▸ hstage)
      rw [htimed, houtcome]
      refine ⟨rfl, rfl, ?_⟩
      simp only [List.map_cons, List.map_append, hsame]
      rfl

/-- A history shows the output of a tool just if the run fails with it. -/
theorem toolOutputs_of_run (host : Host σ) (tools : Toolchain σ)
    (request : RunRequest) (s : σ) :
    (run host tools request s).notes.filterMap Event.toolOutput? =
      (errorOf (run host tools request s).value).toList.filterMap
        fun failure => failure.error.toolOutput? := by
  rcases run_cases host tools request s with ⟨error, herror⟩ |
    ⟨imagePath, workspace, objectPath, s₀, hopens, hcourse⟩
  · have hnone : error.toolOutput? = none := by
      rcases prepare_error herror with habsolute | habsolute | ⟨refusal, rfl, -⟩
      · obtain ⟨-, cause, -, rfl⟩ := absolute_eq_error_iff.mp habsolute
        rfl
      · obtain ⟨-, cause, -, rfl⟩ := absolute_eq_error_iff.mp habsolute
        rfl
      · rfl
    rw [run_of_unprepared herror tools]
    simp [errorOf, Event.toolOutput?, hnone]
  · rcases hcourse with ⟨ledger, s₁, events, hpassed⟩ |
      ⟨before, stage, after, ledger, s₁, events, error, s₂, inner, hall,
        hbefore, hstage⟩
    · have hcompleted := completed_of_passed
        ⟨host, tools, request, imagePath, workspace⟩ hopens hpassed
      obtain ⟨report, hreport, -, -⟩ := hcompleted.answer
      have houtputs := hcompleted.outputs
      simp only at hreport houtputs
      rw [houtputs, hreport]
      rfl
    · have hbroken := broken_of_error
        ⟨host, tools, request, imagePath, workspace⟩ hopens hall hbefore hstage
      have houtputs := hbroken.outputs
      have hanswer := hbroken.answer
      simp only at hanswer houtputs
      rw [houtputs, hanswer]
      cases houtput : error.toolOutput? <;> simp [errorOf, houtput]

end Run

/-! ## What is put out -/

namespace Output

/-- The log record of an output. -/
def record? : Output → Option (Level × String)
  | log level text => some (level, text)
  | _ => none

/-- The progress that an output shows. -/
def progress? : Output → Option String
  | console text => some text
  | _ => none

/-- The answer that an output gives. -/
def answer? : Output → Option String
  | answer text => some text
  | _ => none

/-- Whether an output goes to the stream for errors. -/
def isAside : Output → Bool
  | log _ _ => true
  | console _ => true
  | answer _ => false

end Output

/-- The output of the tool that made the command fail. -/
def LiftError.toolOutput? : LiftError → Option (String × String)
  | run _ failure => failure.error.toolOutput?
  | _ => none

section Views

variable (told : List Told) (answers : List String)

/-- Something told, and then answers. -/
def putOut : List Output :=
  told.map Told.output ++ answers.map Output.answer

theorem filter_isAside_putOut :
    (putOut told answers).filter Output.isAside = told.map Told.output := by
  have htold : ∀ output ∈ told.map Told.output, output.isAside = true := by
    intro output houtput
    obtain ⟨t, -, rfl⟩ := List.mem_map.mp houtput
    cases t <;> rfl
  have hanswers : ∀ output ∈ answers.map Output.answer,
      ¬ output.isAside = true := by
    intro output houtput
    obtain ⟨text, -, rfl⟩ := List.mem_map.mp houtput
    simp [Output.isAside]
  rw [putOut, List.filter_append, List.filter_eq_self.mpr htold,
    List.filter_eq_nil_iff.mpr hanswers, List.append_nil]

theorem filterMap_answer?_putOut :
    (putOut told answers).filterMap Output.answer? = answers := by
  have htold : (told.map Told.output).filterMap Output.answer? = [] := by
    rw [List.filterMap_eq_nil_iff]
    intro output houtput
    obtain ⟨t, -, rfl⟩ := List.mem_map.mp houtput
    cases t <;> rfl
  rw [putOut, List.filterMap_append, htold, List.nil_append, List.filterMap_map]
  exact List.filterMap_some

/-- A view that passes over answers sees what is told. -/
theorem filterMap_putOut {α : Type} {view : Output → Option α}
    (h : ∀ text, view (.answer text) = none) :
    (putOut told answers).filterMap view =
      told.filterMap fun t => view t.output := by
  have hanswers : (answers.map Output.answer).filterMap view = [] := by
    rw [List.filterMap_eq_nil_iff]
    intro output houtput
    obtain ⟨text, -, rfl⟩ := List.mem_map.mp houtput
    exact h text
  rw [putOut, List.filterMap_append, hanswers, List.append_nil,
    List.filterMap_map]
  rfl

/-- No log record is lost in silence. -/
theorem filterMap_record?_kept :
    (told.filter Told.isKept).filterMap (fun t => t.output.record?) =
      told.filterMap fun t => t.output.record? := by
  rw [List.filterMap_filter]
  refine congrArg (fun f => told.filterMap f) (funext fun t => ?_)
  cases t <;> rfl

end Views

/-- In silence the progress is what tools have put out. -/
theorem filterMap_progress?_kept (events : List Event) :
    ((toldOf events).filter Told.isKept).filterMap
        (fun t => t.output.progress?) =
      (events.filterMap Event.toolOutput?).map blockText := by
  induction events with
  | nil => rfl
  | cons event events ih =>
      rw [toldOf, List.flatMap_cons, List.filter_append, List.filterMap_append,
        List.filterMap_cons]
      rw [toldOf] at ih
      rw [ih]
      cases event with
      | note note => cases note <;> rfl
      | _ => rfl

/-! ## Two runs of the command -/

/-- The history of the command: what its preparation puts on record, and then
that of the run, if the command gets to start one. -/
def liftEvents (host : Host σ) (options : CommandOptions) (s : σ) :
    List Event :=
  (prepareLift host options s).notes.map Event.note ++
    (prepareLift host options s).value.toOption.elim [] fun prepared =>
      (run host (liftToolchain host prepared.1 options.symbolMap)
        prepared.2 s).notes

/-- One outcome of the command is the other one in silence; `told` is what there
is to tell. -/
structure Hushed (options : CommandOptions) (told : List Told)
    (loud quiet : Outcome σ Output (Except LiftError Report)) : Prop where
  value : quiet.value = loud.value
  state : quiet.state = loud.state
  /-- Everything is told aloud. -/
  aloud : loud.notes.filter Output.isAside = told.map Told.output
  /-- In silence the lines about stages are left out, and nothing else. -/
  hushed : quiet.notes.filter Output.isAside =
    (told.filter Told.isKept).map Told.output
  records : quiet.notes.filterMap Output.record? =
    loud.notes.filterMap Output.record?
  /-- The progress left is the output of the tool that failed. -/
  progress : quiet.notes.filterMap Output.progress? =
    ((Run.errorOf loud.value).bind LiftError.toolOutput?).toList.map blockText
  /-- A failure is answered alike, and so is a report in full. -/
  answers : options.json = true ∨ (Run.errorOf loud.value).isSome →
    quiet.notes.filterMap Output.answer? = loud.notes.filterMap Output.answer?
  /-- Otherwise the line about the success is left out. -/
  summary : options.json = false → ∀ report, loud.value = .ok report →
    quiet.notes.filterMap Output.answer? = [] ∧
    loud.notes.filterMap Output.answer? =
      [successLine options.imagePath report]

section Command

variable {host : Host σ} {options : CommandOptions} {s : σ}

/-- The texts of the answer to what the command has come to. -/
def answerTexts (options : CommandOptions) (value : Except LiftError Report) :
    List String :=
  value.toOption.elim [] fun report =>
    if options.json then [Json.pretty report.toJson ++ "\n"]
    else if options.silent then []
    else [successLine options.imagePath report]

theorem elim_liftAnswer (options : CommandOptions)
    (value : Except RunFailure Report) (f : RunFailure → LiftError) :
    value.toOption.elim [] (liftAnswer options) =
      (answerTexts options (value.mapError f)).map Output.answer := by
  cases value with
  | error failure => rfl
  | ok report =>
      show liftAnswer options report = (answerTexts options (.ok report)).map _
      simp only [Except.toOption, Option.elim_some, answerTexts, liftAnswer]
      split
      · rfl
      · split <;> rfl

/-- All that the command puts out is its history, told in the style of the
options, and the answer. -/
theorem notes_liftExecutable (host : Host σ) (options : CommandOptions) (s : σ) :
    (liftExecutable host options s).notes =
      (liftEvents host options s).flatMap options.style.render ++
        (answerTexts options (liftExecutable host options s).value).map
          Output.answer := by
  rw [liftEvents, List.flatMap_append, prepareLift_apply,
    flatMap_render_preparationNotes]
  cases hready : readiness host options s with
  | error e =>
      rw [liftExecutable_of_refused hready]
      exact ((List.append_nil _).trans (List.append_nil _)).symm
  | ok prepared =>
      rw [liftExecutable_of_ready hready, elim_liftAnswer _ _ (.run options.imagePath),
        settingsReady_of_ready hready]
      rfl

theorem notes_aloud (host : Host σ) (options : CommandOptions) (s : σ) :
    let loud := liftExecutable host { options with silent := false } s
    loud.notes = putOut (toldOf (liftEvents host options s))
      (answerTexts { options with silent := false } loud.value) := by
  intro loud
  rw [notes_liftExecutable, putOut, ← flatMap_render_console]
  rfl

theorem notes_silent (host : Host σ) (options : CommandOptions) (s : σ) :
    let quiet := liftExecutable host { options with silent := true } s
    quiet.notes =
      putOut ((toldOf (liftEvents host options s)).filter Told.isKept)
        (answerTexts { options with silent := true } quiet.value) := by
  intro quiet
  rw [notes_liftExecutable, putOut, ← flatMap_render_silent]
  rfl

/-- No tool has run when a check refuses. -/
theorem Check.Refuses.toolOutput? {check : Check} {e : LiftError}
    (h : check.Refuses host options s e) : e.toolOutput? = none := by
  cases h <;> rfl

/-- The history shows the output of a tool just if the command fails with it. -/
theorem toolOutputs_liftEvents (host : Host σ) (options : CommandOptions)
    (s : σ) :
    (liftEvents host options s).filterMap Event.toolOutput? =
      ((Run.errorOf (liftExecutable host options s).value).bind
        LiftError.toolOutput?).toList := by
  have hnotes : ∀ notes : List Note,
      (notes.map Event.note).filterMap Event.toolOutput? = [] := by
    intro notes
    rw [List.filterMap_map]
    exact List.filterMap_eq_nil_iff.mpr fun _ _ => rfl
  rw [liftEvents, List.filterMap_append, hnotes, List.nil_append,
    prepareLift_apply]
  cases hready : readiness host options s with
  | error e =>
      have hsettled := settledBy_readiness host options s
      rw [hready] at hsettled
      obtain ⟨check, hfirst⟩ := hsettled
      rw [liftExecutable_of_refused hready]
      show [] = e.toolOutput?.toList
      rw [hfirst.refusal.toolOutput?]
      rfl
  | ok prepared =>
      rw [liftExecutable_of_ready hready]
      refine (Run.toolOutputs_of_run host _ prepared.2 s).trans ?_
      cases (run host (liftToolchain host prepared.1 options.symbolMap)
          prepared.2 s).value with
      | ok report => rfl
      | error failure =>
          show [failure].filterMap (fun failure => failure.error.toolOutput?) =
            failure.error.toolOutput?.toList
          cases hblock : failure.error.toolOutput? <;> simp [hblock]

/-- Of histories that differ in durations only, the one is told aloud and the
other in silence. -/
theorem hushed_of_events
    {loud quiet : Outcome σ Output (Except LiftError Report)}
    {events timed : List Event} (hvalue : quiet.value = loud.value)
    (hstate : quiet.state = loud.state)
    (hloud : loud.notes = putOut (toldOf events)
      (answerTexts { options with silent := false } loud.value))
    (hquiet : quiet.notes = putOut ((toldOf timed).filter Told.isKept)
      (answerTexts { options with silent := true } quiet.value))
    (htimed : timed.map Event.timeless = events.map Event.timeless)
    (houtputs : events.filterMap Event.toolOutput? =
      ((Run.errorOf loud.value).bind LiftError.toolOutput?).toList) :
    Hushed options (toldOf events) loud quiet := by
  rw [hvalue, filter_toldOf_of_timeless htimed] at hquiet
  constructor
  case value => exact hvalue
  case state => exact hstate
  case aloud => rw [hloud, filter_isAside_putOut]
  case hushed => rw [hquiet, filter_isAside_putOut]
  case records =>
    have hanswer : ∀ text, (Output.answer text).record? = none := fun _ => rfl
    rw [hloud, hquiet]
    simp only [filterMap_putOut _ _ hanswer, filterMap_record?_kept]
  case progress =>
    have hanswer : ∀ text, (Output.answer text).progress? = none := fun _ => rfl
    rw [hquiet]
    simp only [filterMap_putOut _ _ hanswer, filterMap_progress?_kept, houtputs]
  case answers =>
    rw [hloud, hquiet, filterMap_answer?_putOut, filterMap_answer?_putOut]
    cases loud.value with
    | error e => exact fun _ => rfl
    | ok report =>
        rintro (hjson | herror)
        · simp [answerTexts, hjson]
        · cases herror
  case summary =>
    intro hjson report hreport
    rw [hloud, hquiet, filterMap_answer?_putOut, filterMap_answer?_putOut,
      hreport]
    simp [answerTexts, hjson, Except.toOption]

/-- By another clock the command comes to the same, and its history differs in
durations only. -/
theorem lift_withClock (host : Host σ) (clock : σ → Nat)
    (options : CommandOptions) (s : σ) :
    let timed := liftExecutable (host.withClock clock)
      { options with silent := true } s
    let outcome := liftExecutable host { options with silent := false } s
    timed.value = outcome.value ∧ timed.state = outcome.state ∧
      (liftEvents (host.withClock clock) options s).map Event.timeless =
        (liftEvents host options s).map Event.timeless := by
  intro timed outcome
  have hready : readiness (host.withClock clock) options s =
      readiness host options s := rfl
  have hnotes : preparationNotes (host.withClock clock) options s =
      preparationNotes host options s := rfl
  rw [liftEvents, liftEvents, prepareLift_apply, prepareLift_apply, hready,
    hnotes]
  cases hanswer : readiness host options s with
  | error e =>
      have hloud : readiness host { options with silent := false } s =
        .error e := hanswer
      have hquiet : readiness (host.withClock clock)
        { options with silent := true } s = .error e := hanswer
      have htimed : timed = _ := liftExecutable_of_refused hquiet
      have houtcome : outcome = _ := liftExecutable_of_refused hloud
      rw [htimed, houtcome]
      simp only [Except.toOption, Option.elim_none, and_self]
  | ok prepared =>
      have hloud : readiness host { options with silent := false } s =
        .ok (prepared.1, prepared.2) := hanswer
      have hquiet : readiness (host.withClock clock)
        { options with silent := true } s = .ok (prepared.1, prepared.2) := hanswer
      obtain ⟨hvalue, hstate, hevents⟩ := Run.run_withClock host clock
        (liftToolchain host prepared.1 options.symbolMap) prepared.2 s
      have htimed : timed = _ := liftExecutable_of_ready hquiet
      have houtcome : outcome = _ := liftExecutable_of_ready hloud
      rw [htimed, houtcome]
      refine ⟨congrArg (Except.mapError (LiftError.run options.imagePath)) hvalue,
        hstate, ?_⟩
      rw [List.map_append, List.map_append]
      exact congrArg _ hevents

end Command

/-- Whatever the options, the host and its tools are, a silent run of the command
is the run told on the console with the lines about stages and the line about
success left out.  The two runs may be timed by different clocks; they come to
the same result and the same state, and start the same processes in the same
states. -/
theorem silent_run (host : Host σ) (clock : σ → Nat) (options : CommandOptions)
    (s : σ) :
    Hushed options (toldOf (liftEvents host options s))
      (liftExecutable host { options with silent := false } s)
      (liftExecutable (host.withClock clock) { options with silent := true } s) ∧
    (liftExecutable (host.withClock clock).watching
        { options with silent := true } (s, [])).state =
      (liftExecutable host.watching
        { options with silent := false } (s, [])).state := by
  obtain ⟨hvalue, hstate, hevents⟩ := lift_withClock host clock options s
  have houtputs := toolOutputs_liftEvents host { options with silent := false } s
  obtain ⟨-, hwatched, -⟩ := lift_withClock host.watching
    (fun seen => clock seen.1) options (s, [])
  exact ⟨hushed_of_events hvalue hstate (notes_aloud host options s)
    (notes_silent (host.withClock clock) options s) hevents houtputs, hwatched⟩

end Relift
