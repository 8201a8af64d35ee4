import Relift.Proofs.Routes
import Relift.Proofs.Run.Dataflow
import Relift.Proofs.Run.Trace

/-!
# What a run leaves behind

A run changes the files of its host by a few steps of its own, all of them in a
scratch directory that it makes, and by calling on its collaborators, which may
do anything.  Every run is therefore a course of own steps and visits.  On a
tidy host the own steps are not seen outside the scratch directory, so that only
visits account for what has changed there; and the scratch directory is removed
last, whichever way the run ends.

A visit accounts for a change at a location in one of two ways.  It has made the
change itself, or it has planted something in the scratch directory that leads
to this very location, such as a link, through which a later step of the run was
led astray.  The second way does occur: `linked_object_overwritten` is a run that
writes its code over the object of an earlier one.

## Main results

* `Course.frame`, `Course.handedOn` — along a course, a location outside changes
  by visits only.
* `wp_worked` — every run that begins is a course, with visits of the stages
  that it came to, and ends with the removal of its directory.
* `scratch_gone` — a recovery removes its scratch directory.
* `run_leaves` — what every run leaves behind.
-/

namespace Relift.Run

open Activity

variable {σ ι α : Type}

/-! ## Own steps and visits -/

/-- A step by which a run itself changes its host: all of them are made in
directories of its own. -/
inductive OwnStep (host : Host σ) (root : String) : σ → σ → Prop where
  | makeDirectories {name : String} {answer : Except SystemError Unit}
      {s s' : σ} (hname : Path.IsName name)
      (h : host.makeDirectories (Path.join root name) s = (answer, s')) :
      OwnStep host root s s'
  | makeScratch {name label : String} {answer : Except SystemError String}
      {s s' : σ} (hname : Path.IsName name) (hlabel : Path.IsName label)
      (h : host.makeScratch (Path.join root name) label s = (answer, s')) :
      OwnStep host root s s'
  | writeBytes {directory name : String} {content : Bytes}
      {answer : Except SystemError Unit} {s s' : σ}
      (howned : host.Owns root directory) (hname : Path.IsName name)
      (h : host.writeBytes (Path.join directory name) content s =
        (answer, s')) :
      OwnStep host root s s'
  | removeDirectory {directory : String} {s : σ}
      (howned : host.Owns root directory) :
      OwnStep host root s (host.removeDirectory directory s)

/-- A collaborator was called, in one state, and left another. -/
structure Visit (σ : Type) where
  stage : Stage
  before : σ
  after : σ

/-- The collaborator of the stage is the one of a toolchain. -/
inductive Visit.Made (tools : Toolchain σ) : Visit σ → Prop where
  | source (pe : Image.Portable) (path : String) (s : σ) :
      Made tools ⟨.extract, s, (tools.source.symbols pe path s).state⟩
  | engine (job : RecoveryJob) (s : σ) :
      Made tools ⟨.recover, s, (tools.engine.recover job s).state⟩
  | lifter (job : LiftingJob) (s : σ) :
      Made tools ⟨.lift, s, (tools.lifter.lift job s).state⟩
  | compiler (job : CompilationJob) (s : σ) :
      Made tools ⟨.recompile, s, (tools.compiler.recompile job s).state⟩

/-- From one state to another by own steps and by visits. -/
inductive Course (host : Host σ) (tools : Toolchain σ) (root : String) :
    σ → List (Visit σ) → σ → Prop where
  | done {s : σ} : Course host tools root s [] s
  | own {s s' s'' : σ} {visits : List (Visit σ)}
      (course : Course host tools root s visits s')
      (step : OwnStep host root s' s'') : Course host tools root s visits s''
  | visit {s : σ} {visits : List (Visit σ)} {visit : Visit σ}
      (course : Course host tools root s visits visit.before)
      (made : visit.Made tools) :
      Course host tools root s (visits ++ [visit]) visit.after

/-- A visit accounts for a change at a location: it has made one there, or has
planted something in the directory of the run that leads there. -/
def Visit.Accounts (visit : Visit σ) (view : View σ ι α) (root : String)
    (i : ι) : Prop :=
  view.look visit.after i ≠ view.look visit.before i ∨
    ¬ view.leads root visit.before i ∧ view.leads root visit.after i

/-- A visit lays a location open to the run: something in the directory of the
run leads there when it is over, or a directory on the way is missing there. -/
def Visit.Exposes (visit : Visit σ) (view : View σ ι α) (root : String) (i : ι) :
    Prop :=
  view.leads root visit.after i ∨
    view.onWay root i ∧ view.look visit.after i = none

/-- What stands at a location is handed on from visit to visit: each finds what
the one before it has left, and nothing is changed there between them. -/
inductive HandedOn (view : View σ ι α) (i : ι) (first : Option α) :
    List (Visit σ) → Option α → Prop where
  | start : HandedOn view i first [] first
  | visit {visits : List (Visit σ)} {visit : Visit σ}
      (h : HandedOn view i first visits (view.look visit.before i)) :
      HandedOn view i first (visits ++ [visit]) (view.look visit.after i)

section Frame

variable {host : Host σ} {tools : Toolchain σ} {view : View σ ι α}
  {root : String}

/-- An own step is not seen at a location outside to which nothing leads, unless
it is that of a missing directory on the way, which may be made again. -/
theorem OwnStep.unmoved (laws : host.Tidy view) (hscratch : host.IsScratch root)
    {s s' : σ} (step : OwnStep host root s s') {i : ι}
    (hi : ¬ view.within root i) (hleads : ¬ view.leads root s i) :
    view.Unmoved root s s' i ∨ view.onWay root i ∧ view.look s i = none := by
  cases step with
  | makeDirectories hname h =>
      exact laws.makeDirectories hscratch hname h i hi hleads
  | makeScratch hname hlabel h =>
      exact .inl (laws.makeScratch hscratch hname hlabel h i hi hleads)
  | writeBytes howned hname h =>
      exact .inl (laws.writeBytes hscratch howned hname h i hi hleads)
  | removeDirectory howned =>
      exact .inl (laws.removeDirectory hscratch howned i hi hleads)

/-- Along a course, a location outside the directory of the run is as it was at
the beginning, unless a visit accounts for the change.  A directory on the way
can be missing, and then be made again, only if a visit has removed it. -/
theorem Course.frame (laws : host.Tidy view) (hscratch : host.IsScratch root)
    {s s' : σ} {visits : List (Visit σ)}
    (course : Course host tools root s visits s') {i : ι}
    (hi : ¬ view.within root i) (hleads : ¬ view.leads root s i)
    (hway : view.onWay root i → view.look s i ≠ none) :
    view.Unmoved root s s' i ∨ ∃ visit ∈ visits, visit.Accounts view root i := by
  induction course with
  | done => exact .inl ⟨rfl, hleads⟩
  | own course step ih =>
      rcases ih with ⟨hsame, hleads'⟩ | haccounts
      · rcases step.unmoved laws hscratch hi hleads' with
          ⟨hlook, hleads''⟩ | ⟨honWay, hnone⟩
        · exact .inl ⟨hlook.trans hsame, hleads''⟩
        · exact absurd (hsame.symm.trans hnone) (hway honWay)
      · exact .inr haccounts
  | @visit visits visit course made ih =>
      rcases ih with ⟨hsame, hleads'⟩ | ⟨earlier, hmem, haccounts⟩
      · by_cases hlook : view.look visit.after i = view.look visit.before i
        · by_cases hplanted : view.leads root visit.after i
          · exact .inr ⟨visit, by simp, .inr ⟨hleads', hplanted⟩⟩
          · exact .inl ⟨hlook.trans hsame, hplanted⟩
        · exact .inr ⟨visit, by simp, .inl hlook⟩
      · exact .inr ⟨earlier, by simp [hmem], haccounts⟩

/-- Along a course, what stands at a location outside that no visit lays open is
changed by the visits only. -/
theorem Course.handedOn (laws : host.Tidy view) (hscratch : host.IsScratch root)
    {s s' : σ} {visits : List (Visit σ)}
    (course : Course host tools root s visits s') {i : ι}
    (hi : ¬ view.within root i) (hleads : ¬ view.leads root s i)
    (hway : view.onWay root i → view.look s i ≠ none)
    (hclosed : ∀ visit ∈ visits, ¬ visit.Exposes view root i) :
    HandedOn view i (view.look s i) visits (view.look s' i) ∧
      ¬ view.leads root s' i ∧ (view.onWay root i → view.look s' i ≠ none) := by
  induction course with
  | done => exact ⟨.start, hleads, hway⟩
  | own course step ih =>
      obtain ⟨hhanded, hleads', hway'⟩ := ih hclosed
      rcases step.unmoved laws hscratch hi hleads' with
        ⟨hlook, hleads''⟩ | ⟨honWay, hnone⟩
      · rw [hlook]
        exact ⟨hhanded, hleads'', hway'⟩
      · exact absurd hnone (hway' honWay)
  | @visit visits visit course made ih =>
      rw [List.forall_mem_append] at hclosed
      obtain ⟨hhanded, -, -⟩ := ih hclosed.1
      have hlast := hclosed.2 visit List.mem_cons_self
      exact ⟨.visit hhanded, fun hplanted => hlast (.inl hplanted),
        fun honWay hnone => hlast (.inr ⟨honWay, hnone⟩)⟩

end Frame

/-! ## Every run is such a course -/

/-- A course that calls on the collaborators of certain stages only. -/
def Reaches (host : Host σ) (tools : Toolchain σ) (root : String)
    (stages : List Stage) (s s' : σ) : Prop :=
  ∃ visits, Course host tools root s visits s' ∧
    ∀ visit ∈ visits, visit.stage ∈ stages

section Reaches

variable {host : Host σ} {tools : Toolchain σ} {root : String}
  {stages : List Stage} {start : σ}

theorem Reaches.refl : Reaches host tools root stages start start :=
  ⟨[], .done, fun _ hmem => absurd hmem List.not_mem_nil⟩

theorem Reaches.mono {more : List Stage} {s : σ}
    (h : Reaches host tools root stages start s)
    (hmore : ∀ stage ∈ stages, stage ∈ more) :
    Reaches host tools root more start s := by
  obtain ⟨visits, course, hstages⟩ := h
  exact ⟨visits, course, fun visit hmem => hmore _ (hstages visit hmem)⟩

theorem Reaches.own {s s' : σ} (h : Reaches host tools root stages start s)
    (step : OwnStep host root s s') :
    Reaches host tools root stages start s' := by
  obtain ⟨visits, course, hstages⟩ := h
  exact ⟨visits, course.own step, hstages⟩

theorem Reaches.visit {visit : Visit σ}
    (h : Reaches host tools root stages start visit.before)
    (made : visit.Made tools) (hstage : visit.stage ∈ stages) :
    Reaches host tools root stages start visit.after := by
  obtain ⟨visits, course, hstages⟩ := h
  refine ⟨visits ++ [visit], course.visit made, fun other hmem => ?_⟩
  rcases List.mem_append.mp hmem with hmem | hmem
  · exact hstages other hmem
  · cases List.mem_singleton.mp hmem
    exact hstage

theorem keeps_exchangeOut {directory name : String} {content : Bytes}
    (howned : host.Owns root directory) (hname : Path.IsName name) :
    (host.exchangeOut (Path.join directory name) content).Keeps
      (Reaches host tools root stages start) :=
  keeps_mapError _ (keeps_perform fun _ hs =>
    hs.own (.writeBytes howned hname rfl))

theorem keeps_extractBody (hstage : .extract ∈ stages) (imagePath : String)
    (extraSeeds : List Address) (policy : CollisionPolicy) :
    (extractBody host tools.source imagePath extraSeeds policy).Keeps
      (Reaches host tools root stages start) := by
  refine keeps_bind (keeps_retell _ ?_) fun found => ?_
  · refine keeps_bind (keeps_mapError _ (keeps_inspect _)) fun bytes => ?_
    cases host.library.readPortable bytes with
    | error text => exact keeps_fail _
    | ok pe =>
        refine keeps_bind (keeps_ofExcept _) fun image => ?_
        have hvisit : (tools.source.symbols pe imagePath).Keeps
            (Reaches host tools root stages start) :=
          fun s hs => hs.visit (.source pe imagePath s) hstage
        refine keeps_bind hvisit fun _ => ?_
        exact keeps_bind (keeps_report _) fun _ => keeps_pure _
  · refine keeps_bind (keeps_ofExcept _) fun correlated => ?_
    exact keeps_bind (keeps_reportAll _) fun _ => keeps_pure _

theorem keeps_recoverIn (hstage : .recover ∈ stages) {scratch : String}
    (howned : host.Owns root scratch) (imagePath : String) (image : CodeImage)
    (seeds : SeedSet) :
    (BlockList.recoverIn host tools.engine imagePath image seeds
      ⟨scratch⟩).Keeps (Reaches host tools root stages start) := by
  have hwrite : (AddressFile.write host (RecoveryArea.mk scratch).seeds
      seeds.members).Keeps (Reaches host tools root stages start) :=
    keeps_bind (keeps_exchangeOut howned (by decide)) fun _ => keeps_report _
  have hread : (AddressFile.read host (RecoveryArea.mk scratch).result).Keeps
      (Reaches host tools root stages start) :=
    keeps_bind (keeps_mapError _ (keeps_inspect _)) fun _ => keeps_ofExcept _
  have hvisit : ∀ job, (tools.engine.recover job).Keeps
      (Reaches host tools root stages start) :=
    fun job s hs => hs.visit (.engine job s) hstage
  refine keeps_bind (keeps_retell _ hwrite) fun _ => ?_
  refine keeps_bind (keeps_bind (keeps_report _) fun _ =>
    keeps_retell _ (hvisit _)) fun _ => ?_
  refine keeps_bind (keeps_retell _ hread) fun emitted => ?_
  exact keeps_bind (keeps_reportAll _) fun _ => keeps_pure _

/-- Recovery takes own steps and calls on the engine.  That its scratch directory
belongs to the run depends on how it was made. -/
theorem keeps_recoverBody (hstage : .recover ∈ stages) (imagePath : String)
    (image : CodeImage) (seeds : SeedSet) :
    (recoverBody host tools.engine imagePath image seeds ⟨root⟩).Keeps
      (Reaches host tools root stages start) := by
  have hname : Path.IsName "recovery" := by decide
  have hlabel : Path.IsName "recover-" := by decide
  refine keeps_bind (keeps_mapError _ (keeps_perform fun s hs =>
    hs.own (.makeDirectories hname rfl))) fun _ => ?_
  rw [keeps_iff_wp]
  intro s hs
  rw [BlockList.recover, wp_bind, wp_mapError, wp_perform]
  constructor
  · intro scratch s' hmade
    have howned : host.Owns root scratch := .scratch hname hlabel hmade
    exact keeps_iff_wp.mp
      (keeps_cleanUp (keeps_recoverIn hstage howned imagePath image seeds)
        fun _ hs => hs.own (.removeDirectory howned))
      s' (hs.own (.makeScratch hname hlabel hmade))
  · intro cause s' hmade
    exact hs.own (.makeScratch hname hlabel hmade)

theorem keeps_writeWorkspace (image : CodeImage) (blocks : BlockList)
    (names : NameMap) :
    (writeWorkspace host ⟨root⟩ image blocks names).Keeps
      (Reaches host tools root stages start) := by
  have hwrite : ∀ name content note, Path.IsName name →
      (host.exchangeOut (Path.join root name) content >>= fun _ =>
        (report note : Activity σ Note Error Unit)).Keeps
          (Reaches host tools root stages start) :=
    fun name content note hname =>
      keeps_bind (keeps_exchangeOut .root hname) fun _ => keeps_report note
  exact keeps_bind (hwrite _ _ _ (by decide)) fun _ =>
    keeps_bind (hwrite _ _ _ (by decide)) fun _ => hwrite _ _ _ (by decide)

/-- A stage takes own steps and calls on its collaborator. -/
theorem keeps_body (request : RunRequest) (imagePath : String) {stage : Stage}
    (hstage : stage ∈ stages) (ledger : Ledger) :
    (Plan.body ⟨host, tools, request, imagePath, ⟨root⟩⟩ stage ledger).Keeps
      (Reaches host tools root stages start) := by
  cases stage with
  | extract =>
      exact keeps_bind (keeps_extractBody hstage _ _ _) fun _ => keeps_pure _
  | recover =>
      exact keeps_bind (keeps_recoverBody hstage _ _ _) fun _ => keeps_pure _
  | serialize =>
      exact keeps_bind (keeps_retell _ (keeps_writeWorkspace _ _ _))
        fun _ => keeps_pure _
  | lift =>
      have hvisit : ∀ job, (tools.lifter.lift job).Keeps
          (Reaches host tools root stages start) :=
        fun job s hs => hs.visit (.lifter job s) hstage
      exact keeps_bind (keeps_bind (keeps_report _) fun _ =>
        keeps_retell _ (hvisit _)) fun _ => keeps_pure _
  | recompile =>
      have hvisit : ∀ job, (tools.compiler.recompile job).Keeps
          (Reaches host tools root stages start) :=
        fun job s hs => hs.visit (.compiler job s) hstage
      exact keeps_bind (keeps_bind (keeps_report _) fun _ =>
        keeps_retell _ (hvisit _)) fun _ => keeps_pure _

end Reaches

/-! ## Whole runs -/

/-- A state after a run that has made no directory. -/
def Unbegun (host : Host σ) (start s : σ) : Prop :=
  s = start ∨ ∃ cause, host.makeScratch (host.temporaryDirectory start)
    "uwin-lift-" start = (.error cause, s)

/-- A state after a run that has worked in a directory of its own and has
removed it. -/
def Worked (host : Host σ) (tools : Toolchain σ) (stages : List Stage)
    (start s : σ) : Prop :=
  ∃ root s₀ s₁, host.makeScratch (host.temporaryDirectory start) "uwin-lift-"
      start = (.ok root, s₀) ∧
    Reaches host tools root stages s₀ s₁ ∧ s = host.removeDirectory root s₁

theorem wp_prepare_begins (host : Host σ) (request : RunRequest) (start : σ) :
    (prepare host request).wp
      (fun opened s₀ => host.makeScratch (host.temporaryDirectory start)
        "uwin-lift-" start = (.ok opened.2.2.root, s₀))
      (fun _ s => Unbegun host start s) start := by
  rw [prepare, wp_bind, wp_inspect]
  refine ⟨fun imagePath _ => ?_, fun _ _ => .inl rfl⟩
  rw [wp_bind, wp_inspect]
  refine ⟨fun objectPath _ => ?_, fun _ _ => .inl rfl⟩
  rw [wp_bind, wp_mapError, wp_perform]
  exact ⟨fun root s₀ hmade => hmade, fun cause s hmade => .inr ⟨cause, hmade⟩⟩

/-- However a run ends, it has not begun, or it has worked in its own directory
with the collaborators of the stages that it came to. -/
theorem wp_worked (host : Host σ) (tools : Toolchain σ) (request : RunRequest)
    (start : σ) :
    (run host tools request).wp
      (fun _ s => Worked host tools Stage.all start s)
      (fun failure s => Unbegun host start s ∨
        Worked host tools failure.stage.upTo start s) start := by
  rw [wp_run]
  refine wp_mono (wp_prepare_begins host request start) ?_
    fun _ _ hunbegun => .inl hunbegun
  rintro ⟨imagePath, objectPath, ⟨root⟩⟩ s₀ hmade
  let invariant (rest : List Stage) (_ : Ledger) (s : σ) :=
    ∃ passed, Stage.all = passed ++ rest ∧ Reaches host tools root passed s₀ s
  let fault (failure : RunFailure) (s : σ) :=
    Reaches host tools root failure.stage.upTo s₀ s
  have hopened : invariant Stage.all (.blank objectPath) s₀ :=
    ⟨[], rfl, .refl⟩
  have hstep : ∀ stage rest ledger s, invariant (stage :: rest) ledger s →
      (Plan.body ⟨host, tools, request, imagePath, ⟨root⟩⟩ stage ledger).wp
        (invariant rest) (fun e => fault ⟨stage, e⟩) s := by
    rintro stage rest ledger s ⟨passed, hall, hreaches⟩
    obtain rfl := Stage.eq_before hall
    have hmore : Reaches host tools root stage.upTo s₀ s :=
      hreaches.mono fun other hother => by simp [Stage.upTo, hother]
    refine wp_mono (keeps_iff_wp.mp
      (keeps_body request imagePath (by simp [Stage.upTo]) ledger) s hmore) ?_
      fun _ _ h => h
    intro ledger' s' hreaches'
    exact ⟨stage.upTo, by simp [Stage.upTo, hall], hreaches'⟩
  refine wp_mono (wp_drive hstep Stage.all [] _ _ hopened) ?_ ?_
  · rintro result s ⟨⟨passed, hall, hreaches⟩, -⟩
    rw [List.append_nil] at hall
    exact ⟨root, s₀, s, hmade, hall ▸ hreaches, rfl⟩
  · intro failure s hreaches
    exact .inr ⟨root, s₀, s, hmade, hreaches, rfl⟩

theorem Course.made {host : Host σ} {tools : Toolchain σ} {root : String}
    {s s' : σ} {visits : List (Visit σ)}
    (course : Course host tools root s visits s') :
    ∀ visit ∈ visits, visit.Made tools := by
  induction course with
  | done => exact fun _ hmem => absurd hmem List.not_mem_nil
  | own _ _ ih => exact ih
  | visit _ made ih =>
      intro visit hmem
      rcases List.mem_append.mp hmem with hmem | hmem
      · exact ih visit hmem
      · cases List.mem_singleton.mp hmem
        exact made

/-- Before the last stage only three collaborators can have been called. -/
theorem Visit.Made.early {tools : Toolchain σ} {visit : Visit σ}
    (made : visit.Made tools) {stage : Stage} (hstage : stage ≠ .recompile)
    (hmem : visit.stage ∈ stage.upTo) :
    visit.stage ∈ [.extract, .recover, .lift] := by
  cases made with
  | source => simp
  | engine => simp
  | lifter => simp
  | compiler => cases stage <;> simp_all [Stage.upTo, Stage.before, Stage.all]

/-- What a run leaves behind: of its own directories nothing, and elsewhere only
what its collaborators account for. -/
structure Leaves (host : Host σ) (view : View σ ι α) (tools : Toolchain σ)
    (start : σ) (outcome : Outcome σ Event (Except RunFailure Report))
    (root : String) (visits : List (Visit σ)) : Prop where
  course : ∃ s₀ s₁, host.makeScratch (host.temporaryDirectory start)
      "uwin-lift-" start = (.ok root, s₀) ∧
    Course host tools root s₀ visits s₁ ∧
    outcome.state = host.removeDirectory root s₁
  /-- Nothing stood where the directory of the run was made. -/
  fresh : ∀ i, view.within root i → view.look start i = none
  gone : ∀ directory, host.Owns root directory →
    host.isDirectory outcome.state directory = false
  frame : ∀ i, ¬ view.within root i →
    view.look outcome.state i = view.look start i ∨
      ∃ visit ∈ visits, visit.Accounts view root i
  /-- Where no visit lays a location open, every change is one of a visit. -/
  handedOn : ∀ i, ¬ view.within root i →
    (∀ visit ∈ visits, ¬ visit.Exposes view root i) →
    HandedOn view i (view.look start i) visits (view.look outcome.state i)
  /-- Only the collaborators of the stages that the run came to are called. -/
  stages : ∀ failure, outcome.value = .error failure →
    ∀ visit ∈ visits, visit.stage ∈ failure.stage.upTo
  /-- Before the last stage the compiler accounts for nothing. -/
  early : ∀ failure, outcome.value = .error failure →
    failure.stage ≠ .recompile → ∀ i, ¬ view.within root i →
    view.look outcome.state i = view.look start i ∨
      ∃ visit ∈ visits, visit.stage ∈ [.extract, .recover, .lift] ∧
        visit.Accounts view root i

theorem Worked.leaves {host : Host σ} {view : View σ ι α}
    (laws : host.Tidy view) {tools : Toolchain σ} {stages : List Stage}
    {start : σ} {outcome : Outcome σ Event (Except RunFailure Report)}
    (h : Worked host tools stages start outcome.state)
    (hstages : ∀ failure, outcome.value = .error failure →
      stages = failure.stage.upTo) :
    ∃ root visits, Leaves host view tools start outcome root visits := by
  obtain ⟨root, s₀, s₁, hmade, ⟨visits, course, hvisits⟩, hfinal⟩ := h
  have hscratch : host.IsScratch root := ⟨_, _, _, _, hmade⟩
  obtain ⟨hfresh, hunmoved, hway⟩ := laws.made hmade
  have hframe : ∀ i, ¬ view.within root i →
      view.look outcome.state i = view.look start i ∨
        ∃ visit ∈ visits, visit.Accounts view root i := by
    intro i hi
    obtain ⟨hopened, hleads⟩ := hunmoved i hi
    rcases course.frame laws hscratch hi hleads (hway i) with
      ⟨hlook, hleads₁⟩ | haccounts
    · have hremoved := (laws.removeDirectory hscratch .root i hi hleads₁).1
      exact .inl (hfinal ▸ hremoved.trans (hlook.trans hopened))
    · exact .inr haccounts
  have hupTo : ∀ failure, outcome.value = .error failure →
      ∀ visit ∈ visits, visit.stage ∈ failure.stage.upTo :=
    fun failure hfailure visit hmem => hstages failure hfailure ▸
      hvisits visit hmem
  refine ⟨root, visits, ⟨s₀, s₁, hmade, course, hfinal⟩, hfresh, ?_, hframe,
    ?_, hupTo, ?_⟩
  · intro directory howned
    rw [hfinal]
    exact laws.removed hscratch howned
  · intro i hi hclosed
    obtain ⟨hopened, hleads⟩ := hunmoved i hi
    obtain ⟨hhanded, hleads₁, -⟩ :=
      course.handedOn laws hscratch hi hleads (hway i) hclosed
    rw [hfinal, (laws.removeDirectory hscratch .root i hi hleads₁).1, ← hopened]
    exact hhanded
  · intro failure hfailure hearly i hi
    rcases hframe i hi with hlook | ⟨visit, hmem, haccounts⟩
    · exact .inl hlook
    · exact .inr ⟨visit, hmem, (course.made visit hmem).early hearly
        (hupTo failure hfailure visit hmem), haccounts⟩

theorem Unbegun.look {host : Host σ} {view : View σ ι α}
    (laws : host.Tidy view) {start s : σ} (h : Unbegun host start s) (i : ι) :
    view.look s i = view.look start i := by
  rcases h with rfl | ⟨cause, hmade⟩
  · rfl
  · exact laws.unmade hmade i

/-- The scratch directory of a recovery is gone when the recovery is over. -/
theorem scratch_gone {host : Host σ} {view : View σ ι α}
    (laws : host.Tidy view) {engine : Engine σ} {imagePath parent : String}
    {image : CodeImage} {seeds : SeedSet} {scratch : String} {s s' : σ}
    (hmade : host.makeScratch parent "recover-" s = (.ok scratch, s')) :
    host.isDirectory
      (BlockList.recover host engine imagePath image seeds parent s).state
      scratch = false := by
  have hscratch : ((perform (host.makeScratch parent "recover-")).mapError
      (Error.io "Failed to create recovery directory") :
        Activity σ Event Error String) s = ⟨.ok scratch, s', []⟩ := by
    rw [mapError_apply, perform_apply, hmade]
    rfl
  rw [BlockList.recover, bind_of_ok hscratch]
  exact laws.removed ⟨_, _, _, _, hmade⟩ .root

/-- Whatever the collaborators do and however it ends, a run leaves nothing of
its own directories, and has itself changed no other location than those to
which a collaborator has planted something in its directories that leads there:
any other location is handed on from one collaborator to the next.  If it has
made no directory, everything is as it was.  The scratch directory of a recovery
is gone as soon as the recovery is over. -/
theorem run_leaves {host : Host σ} {view : View σ ι α} (laws : host.Tidy view)
    (tools : Toolchain σ) (request : RunRequest) (start : σ) :
    let outcome := run host tools request start
    ((Unbegun host start outcome.state ∧
        ∀ i, view.look outcome.state i = view.look start i) ∨
      ∃ root visits, Leaves host view tools start outcome root visits) ∧
    ∀ engine imagePath image seeds parent s scratch s',
      host.makeScratch parent "recover-" s = (.ok scratch, s') →
      host.isDirectory
        (BlockList.recover host engine imagePath image seeds parent s).state
        scratch = false := by
  intro outcome
  refine ⟨?_, fun _ _ _ _ _ _ _ _ hmade => scratch_gone laws hmade⟩
  have hwp := wp_worked host tools request start
  cases hvalue : outcome.value with
  | ok report =>
      rw [wp, hvalue] at hwp
      refine .inr (hwp.leaves laws fun failure hfailure => ?_)
      cases hvalue.symm.trans hfailure
  | error failure =>
      rw [wp, hvalue] at hwp
      rcases hwp with hunbegun | hworked
      · exact .inl ⟨hunbegun, hunbegun.look laws⟩
      · refine .inr (hworked.leaves laws fun other hother => ?_)
        cases hvalue.symm.trans hother
        rfl

/-- A machine on which an object of an earlier run stands at the output path. -/
def staleMachine : Machine :=
  { smallMachine with
    tree := smallMachine.tree.set ["game.o"] (.file [0x4F] false) }

/-- An engine that refuses every job, among tools that change nothing. -/
def refusingTools : Toolchain Machine :=
  { smallTools with
    engine := ⟨"refuser", fun _ => fail (.externalTool "refuser" "exit 1" "")⟩ }

/-- A run that fails leaves the object of an earlier one as it was. -/
theorem stale_object_kept :
    Machine.host.Tidy Machine.places ∧
      ∀ outcome, outcome = run Machine.host refusingTools smallRequest
          staleMachine →
        (∀ report, outcome.value ≠ .ok report) ∧
        outcome.state.tree.node? ["game.o"] = some (.file [0x4F] false) := by
  refine ⟨Machine.tidy, fun outcome hrun => ⟨fun report hok => ?_, ?_⟩⟩
  · obtain ⟨recovery, s₀, -, -, -, -, -, hengine, -⟩ :=
      handovers_of_ok (hrun ▸ hok)
    exact nomatch hengine
  have hstale : staleMachine.tree.node? ["game.o"] =
      some (.file [0x4F] false) := by decide
  have hidle : ∀ visit : Visit Machine, visit.Made refusingTools →
      visit.after = visit.before := by
    intro visit made
    cases made <;> rfl
  have hleaves := run_leaves Machine.tidy refusingTools smallRequest staleMachine
  simp only [← hrun] at hleaves
  rcases hleaves.1 with ⟨-, hsame⟩ | ⟨root, visits, leaves⟩
  · exact (hsame ["game.o"]).trans hstale
  · obtain ⟨m₀, m₁, hmade, course, -⟩ := leaves.course
    have houtside : ¬ Machine.places.within root ["game.o"] := fun hwithin =>
      nomatch hstale.symm.trans (leaves.fresh ["game.o"] hwithin)
    rcases leaves.frame ["game.o"] houtside with hsame |
      ⟨visit, hmem, hlook | ⟨hbefore, hafter⟩⟩
    · exact hsame.trans hstale
    · exact absurd (by rw [hidle visit (course.made visit hmem)]) hlook
    · rw [hidle visit (course.made visit hmem)] at hafter
      exact absurd hafter hbefore

/-- An engine that lists no blocks and gives the object of an earlier run a
second name, under which the run will write its code; and a lifter that refuses
every job. -/
def linkingTools : Toolchain Machine :=
  { smallTools with
    engine := ⟨"linker", fun _ => perform fun m =>
      let listed := m.tree.set ["tmp", "uwin-lift-000000", "recovery",
        "recover-000000", "bbs.txt"] (.file [] false)
      (.ok (), { m with
        tree := listed.link ["game.o"] ["tmp", "uwin-lift-000000", "code.bin"] })⟩
    lifter := ⟨"refuser", fun _ => fail (.externalTool "refuser" "exit 1" "")⟩ }

/-- A run that fails when it comes to the lifter, with collaborators none of
which ever changes the object of an earlier run; and yet that object has become
the code of the executable. -/
theorem linked_object_overwritten :
    let outcome := run Machine.host linkingTools smallRequest staleMachine
    outcome.value = .error ⟨.lift, .externalTool "refuser" "exit 1" ""⟩ ∧
      (∀ visit : Visit Machine, visit.Made linkingTools →
        visit.after.tree.node? ["game.o"] = visit.before.tree.node? ["game.o"]) ∧
      staleMachine.tree.node? ["game.o"] = some (.file [0x4F] false) ∧
      outcome.state.tree.node? ["game.o"] =
        some (.file [0x4D, 0x5A, 0, 0] false) := by
  intro outcome
  have hrun : (outcome.value, outcome.state.tree.node? ["game.o"]) =
      (.error ⟨.lift, .externalTool "refuser" "exit 1" ""⟩,
        some (.file [0x4D, 0x5A, 0, 0] false)) := by decide +kernel
  obtain ⟨hvalue, hnode⟩ := Prod.mk.inj hrun
  refine ⟨hvalue, ?_, by decide, hnode⟩
  intro visit made
  cases made with
  | source pe path m => rfl
  | engine job m =>
      show FileTree.node? (FileTree.link _ ["game.o"] _) ["game.o"] = _
      rw [FileTree.node?_link, FileTree.node?_set, if_neg (by decide)]
  | lifter job m => rfl
  | compiler job m => rfl

end Relift.Run
