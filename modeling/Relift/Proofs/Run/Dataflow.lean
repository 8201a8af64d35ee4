import Relift.Proofs.CodeImage
import Relift.Proofs.Correlation
import Relift.Proofs.Host
import Relift.Proofs.Interchange
import Relift.Proofs.Machine
import Relift.Proofs.Run.Answers

/-!
# What the collaborators find

A run hands over work by way of files.  This module follows the data from the
executable through all stages: what each collaborator finds in its files at the
moment it is called, and what the report says about them.

A `Flow` holds the data themselves.  `Extraction.Starts` says where they come
from, `Flow.Supplies` what a job finds, `Flow.Sums` what a report tells.  The
stages are treated one by one (`reached_extract` to `reached_recompile`), on
states with a record of the jobs handed over; `wp_recorded` chains them.

## Main result

* `run_dataflow` — on a lawful host, with a symbol source and an engine that
  plant no links, every job of a run finds exactly the data of one flow.
-/

namespace Relift.Run

variable {σ : Type}

/-! ## The data of a run -/

/-- What the first stage makes of an executable. -/
structure Extraction where
  imagePath : String
  objectPath : String
  /-- The content of the executable's file. -/
  bytes : Bytes
  pe : Image.Portable
  code : Image.Section
  image : CodeImage
  symbols : SymbolTable
  seeds : List Address
  names : NameMap

/-- The data that go through a run. -/
structure Flow extends Extraction where
  /-- What the engine left in its result file. -/
  emitted : List Address
  blocks : List Address

namespace Extraction

/-- An extraction is that of the executable as it lies in a state. -/
structure Holds (x : Extraction) (host : Host σ) (source : SymbolSource σ)
    (extraSeeds : List Address) (policy : CollisionPolicy) (s : σ) : Prop where
  read : host.readBytes s x.imagePath = .ok x.bytes
  parsed : host.library.readPortable x.bytes = .ok x.pe
  codeSection : Image.codeSection x.pe = .ok x.code
  /-- The code is the raw content of the code section. -/
  content : Image.slice? x.bytes x.code.rawPointer.toNat x.code.rawSize.toNat =
    some x.image.code
  loadAddress : x.image.loadAddress =
    Address.addSaturating x.pe.imageBase x.code.virtualAddress.toUInt64
  symbols : (source.symbols x.pe x.imagePath s).value = .ok x.symbols
  ascending : x.seeds.Pairwise (· < ·)
  seeds : ∀ address, address ∈ x.seeds ↔
    (∃ descriptor ∈ x.symbols.values, descriptor.primary = address) ∨
      address ∈ extraSeeds
  names : ∃ notes, NameMap.ofSymbols x.symbols policy = .ok (x.names, notes)

/-- An extraction is that of a run from a state: the paths are those of the
request, made absolute, and the executable is read once the workspace is
made. -/
structure Starts (x : Extraction) (host : Host σ) (tools : Toolchain σ)
    (request : RunRequest) (s : σ) : Prop where
  imagePath : host.absolute s request.imagePath = .ok x.imagePath
  objectPath : host.absolute s request.outputPath = .ok x.objectPath
  holds : x.Holds host tools.source request.extraSeeds request.policy
    (host.makeScratch (host.temporaryDirectory s) "uwin-lift-" s).2

/-- What an engine finds: the executable, its load address and the seeds. -/
structure Seeded (x : Extraction) (host : Host σ) (job : RecoveryJob)
    (s : σ) : Prop where
  imagePath : job.imagePath = x.imagePath
  loadAddress : job.loadAddress = x.image.loadAddress
  seeds : host.readBytes s job.seedsPath =
    .ok (Text.utf8 (AddressFile.render x.seeds))

end Extraction

/-- What an engine that starts in a state leaves in its result file. -/
def Emits (host : Host σ) (engine : Engine σ) (job : RecoveryJob) (s : σ)
    (emitted : List Address) : Prop :=
  ∃ body, host.readText (engine.recover job s).state job.resultPath = .ok body ∧
    AddressFile.parse job.resultPath body = .ok emitted

namespace Flow

/-- What a lifter finds: the code with its load address, the blocks and the
names. -/
structure Serialized (flow : Flow) (host : Host σ) (job : LiftingJob)
    (s : σ) : Prop where
  loadAddress : job.loadAddress = flow.image.loadAddress
  code : host.readBytes s job.codePath = .ok flow.image.code
  blocks : host.readBytes s job.blocksPath =
    .ok (Text.utf8 (AddressFile.render flow.blocks))
  names : host.readBytes s job.namesPath =
    .ok (Text.utf8 (NameMapFile.render flow.names))

/-- The blocks are the emitted addresses, ascending and each once. -/
structure Normal (flow : Flow) : Prop where
  ascending : flow.blocks.Pairwise (· < ·)
  mem_iff : ∀ address, address ∈ flow.blocks ↔ address ∈ flow.emitted

/-- What a job finds in the state in which it is handed over, after other
jobs. -/
def Supplies (flow : Flow) (host : Host σ) (tools : Toolchain σ)
    (calls : Handovers σ) : Job → σ → Prop
  | .recover job, s => flow.Seeded host job s
  | .lift job, s =>
      flow.Serialized host job s ∧ flow.Normal ∧
      ∃ recovery before, (.recover recovery, before) ∈ calls ∧
        Emits host tools.engine recovery before flow.emitted
  | .recompile job, _ =>
      job.objectPath = flow.objectPath ∧
      ∃ lifting before, (.lift lifting, before) ∈ calls ∧
        (tools.lifter.lift lifting before).value = .ok job.irPath

/-- All jobs of a record find the data of a flow. -/
def SuppliesAll (flow : Flow) (host : Host σ) (tools : Toolchain σ)
    (calls : Handovers σ) : Prop :=
  ∀ job before, (job, before) ∈ calls →
    flow.Supplies host tools calls job before

/-- What a report tells about the data. -/
structure Sums (flow : Flow) (report : Report) : Prop where
  loadAddress : report.loadAddress = flow.image.loadAddress
  codeSize : report.codeSize.toNat = flow.image.code.length
  seedCount : report.seedCount = UInt64.ofNat
    (Text.lines (AddressFile.render flow.seeds).toList).length
  blockCount : report.blockCount = UInt64.ofNat
    (Text.lines (AddressFile.render flow.blocks).toList).length
  nameCount : report.nameCount = UInt64.ofNat flow.names.size
  /-- Names without line feeds take one line each. -/
  nameLines : (∀ name ∈ flow.names.values, '\n' ∉ name.toList) →
    report.nameCount = UInt64.ofNat
      (Text.lines (NameMapFile.render flow.names).toList).length

end Flow

/-- The data flow of a run: no job is handed over and there is no report, or
all jobs and the report have to do with the data of one flow.  A report comes
after a job for each collaborator. -/
def Dataflow (host : Host σ) (tools : Toolchain σ) (request : RunRequest)
    (s : σ) : Prop :=
  let calls := handovers host tools request s
  let answer := (run host tools request s).value
  (calls = [] ∧ ∀ report, answer ≠ .ok report) ∨
  ∃ flow : Flow, flow.Starts host tools request s ∧
    flow.SuppliesAll host tools calls ∧
    ∀ report, answer = .ok report → flow.Sums report ∧
      ∃ recovery s₀ lifting s₁ compilation s₂,
        calls = [(.recover recovery, s₀), (.lift lifting, s₁),
          (.recompile compilation, s₂)]

/-! ## The parts of an extraction -/

/-- The code fits into a section, whose size is a 32-bit word. -/
theorem Extraction.Holds.length_code_lt {x : Extraction} {host : Host σ}
    {source : SymbolSource σ} {extra : List Address} {policy : CollisionPolicy}
    {s : σ} (h : x.Holds host source extra policy s) :
    x.image.code.length < UInt64.size := by
  have hslice := h.content
  unfold Image.slice? at hslice
  split at hslice
  · rw [← Option.some.inj hslice]
    have hsize : x.code.rawSize.toNat < 2 ^ 32 := x.code.rawSize.toNat_lt
    have htake := List.length_take_le x.code.rawSize.toNat
      (x.bytes.drop x.code.rawPointer.toNat)
    have hword : UInt64.size = 2 ^ 64 := rfl
    omega
  · cases hslice

/-! ## The stages one by one -/

section Stages

open Activity

variable {host : Host σ} {tools : Toolchain σ} {sound : σ → Prop}
  {intact : String → σ → Prop}

/-- Extraction hands over nothing.  When it succeeds, it has found what the
executable holds. -/
theorem wp_extractBody
    (hsource : ∀ root pe path,
      (tools.source.symbols pe path).Keeps (intact root))
    (imagePath objectPath : String) (extraSeeds : List Address)
    (policy : CollisionPolicy) (s : σ) (calls : Handovers σ) :
    (extractBody host.recording tools.recording.source imagePath extraSeeds
        policy).wp
      (fun found s' => s'.2 = calls ∧
        (∀ root, intact root s → intact root s'.1) ∧
        ∃ x : Extraction, x.Holds host tools.source extraSeeds policy s ∧
          x.imagePath = imagePath ∧ x.objectPath = objectPath ∧
          found.1 = x.image ∧ found.2.seeds.members = x.seeds ∧
          found.2.names = x.names)
      (fun _ s' => s'.2 = calls) (s, calls) := by
  rw [extractBody, wp_bind, wp_noted, Image.readExecutable,
    wp_bind, wp_mapError, wp_inspect]
  refine ⟨fun bytes hbytes => ?_, fun _ _ => rfl⟩
  cases hpe : host.recording.library.readPortable bytes with
  | error text => exact rfl
  | ok pe =>
      dsimp only
      rw [wp_bind, wp_ofExcept]
      refine ⟨fun image himage => ?_, fun _ _ => rfl⟩
      rw [wp_bind, tools.recording_symbols, wp_recording, wp_iff]
      refine ⟨fun symbols s' notes hsymbols => ?_,
        fun _ _ _ _ => List.append_nil calls⟩
      rw [wp_bind, wp_report, wp_pure, wp_bind, wp_ofExcept]
      refine ⟨?_, fun _ _ => List.append_nil calls⟩
      rintro ⟨correlation, told⟩ hcorrelation
      rw [wp_bind, wp_reportAll, wp_pure]
      obtain ⟨code, hcode, hcontent, hload⟩ :=
        Image.codeImage_eq_ok himage
      obtain ⟨hseeds, hnames⟩ := Correlation.ofSymbols_eq_ok_iff.mp hcorrelation
      refine ⟨List.append_nil calls, fun root hroot => ?_,
        ⟨imagePath, objectPath, bytes, pe, code, image, symbols,
          correlation.seeds.members, correlation.names⟩, ?_, rfl, rfl, rfl,
        rfl, rfl⟩
      · exact (hsource root pe imagePath).of_eq hsymbols hroot
      · exact {
          read := hbytes
          parsed := hpe
          codeSection := hcode
          content := hcontent
          loadAddress := hload
          symbols := by rw [hsymbols]
          ascending := Address.pairwise_members _
          seeds := fun address =>
            hseeds ▸ SeedSet.mem_ofSymbols symbols extraSeeds address
          names := ⟨told, hnames⟩ }

/-- The engine finds the seeds of the extraction, and what it emits becomes the
list of blocks.  Directories that were intact stay so. -/
theorem wp_recoverIn (laws : host.Lawful sound intact)
    (hengine : ∀ root job, (tools.engine.recover job).Keeps (intact root))
    {x : Extraction} {seeds : SeedSet} (hseeds : seeds.members = x.seeds)
    {area : RecoveryArea} {s : σ} (harea : intact area.root s)
    (calls : Handovers σ) :
    (BlockList.recoverIn host.recording tools.recording.engine x.imagePath
        x.image seeds area).wp
      (fun blocks s' => (∀ root, intact root s → intact root s'.1) ∧
        ∃ job before emitted, s'.2 = calls ++ [(.recover job, before)] ∧
          x.Seeded host job before ∧
          Emits host tools.engine job before emitted ∧
          blocks = .ofList emitted)
      (fun _ s' => s'.2 = calls ∨ ∃ job before,
        s'.2 = calls ++ [(.recover job, before)] ∧ x.Seeded host job before)
      (s, calls) := by
  have hname : Path.IsName "extra_code.txt" := by decide
  rw [BlockList.recoverIn, wp_bind, wp_noted, AddressFile.write, wp_bind,
    wp_exchangeOut]
  refine ⟨fun _ s₁ hwritten => ?_, fun _ _ _ => .inl rfl⟩
  have hread := laws.read_written harea hname hwritten
  rw [hseeds] at hread
  have hseeded : x.Seeded host
      ⟨x.imagePath, x.image.loadAddress, area.seeds, area.result, area.root⟩
      s₁ := ⟨rfl, rfl, hread⟩
  rw [wp_report, wp_bind, wp_called, tools.recording_recover, wp_recording,
    wp_iff]
  refine ⟨fun _ s₂ notes hrecovered => ?_,
    fun _ _ _ _ => .inr ⟨_, _, rfl, hseeded⟩⟩
  rw [wp_bind, wp_noted, AddressFile.read, wp_bind, Host.exchangeIn,
    wp_mapError, wp_inspect]
  refine ⟨fun body hbody => ?_, fun _ _ => .inr ⟨_, _, rfl, hseeded⟩⟩
  rw [wp_ofExcept]
  refine ⟨fun emitted hemitted => ?_, fun _ _ => .inr ⟨_, _, rfl, hseeded⟩⟩
  rw [wp_bind, wp_reportAll, wp_pure]
  refine ⟨fun root hroot => ?_, _, _, emitted, rfl, hseeded,
    ⟨body, ?_, hemitted⟩, rfl⟩
  · exact (hengine root _).of_eq hrecovered
      (laws.intact_writeBytes hwritten hroot)
  · rw [hrecovered]
    exact hbody

/-- Recovery in the workspace, which stays intact: only the scratch directory
goes. -/
theorem wp_recoverBody (laws : host.Lawful sound intact)
    (hengine : ∀ root job, (tools.engine.recover job).Keeps (intact root))
    {x : Extraction} {seeds : SeedSet} (hseeds : seeds.members = x.seeds)
    {workspace : Workspace} {s : σ} (hroot : intact workspace.root s)
    (calls : Handovers σ) :
    (recoverBody host.recording tools.recording.engine x.imagePath x.image seeds
        workspace).wp
      (fun blocks s' => intact workspace.root s'.1 ∧
        ∃ job before emitted, s'.2 = calls ++ [(.recover job, before)] ∧
          x.Seeded host job before ∧
          Emits host tools.engine job before emitted ∧
          blocks = .ofList emitted)
      (fun _ s' => s'.2 = calls ∨ ∃ job before,
        s'.2 = calls ++ [(.recover job, before)] ∧ x.Seeded host job before)
      (s, calls) := by
  rw [recoverBody, wp_bind, wp_mapError]
  refine wp_perform_besideRecord.mpr
    ⟨fun _ s₁ hmade => ?_, fun _ _ _ => .inl rfl⟩
  have hroot₁ := laws.intact_makeDirectories hmade hroot
  rw [BlockList.recover, wp_bind, wp_mapError]
  refine wp_perform_besideRecord.mpr
    ⟨fun scratch s₂ hscratch => ?_, fun _ _ _ => .inl rfl⟩
  have hroot₂ := laws.intact_makeScratch hscratch hroot₁
  rw [wp_cleanUp]
  refine wp_mono (wp_recoverIn laws hengine hseeds
    (laws.scratch_intact (laws.sound_of_intact hroot₁) hscratch) calls) ?_
    fun _ _ h => h
  rintro blocks s₃ ⟨hkept, hfound⟩
  exact ⟨laws.intact_removeScratch hscratch hroot₁ (hkept _ hroot₂), hfound⟩

/-- Serialization hands over nothing and leaves three files in the workspace:
each is there when it is written, and the later ones lie beside it. -/
theorem wp_writeWorkspace (laws : host.Lawful sound intact)
    {workspace : Workspace} {s : σ} (hroot : intact workspace.root s) (image : CodeImage)
    (blocks : BlockList) (names : NameMap) (calls : Handovers σ) :
    (writeWorkspace host.recording workspace image blocks names).wp
      (fun _ s' => s'.2 = calls ∧
        host.readBytes s'.1 workspace.code = .ok image.code ∧
        host.readBytes s'.1 workspace.blocks =
          .ok (Text.utf8 (AddressFile.render blocks.addresses)) ∧
        host.readBytes s'.1 workspace.names =
          .ok (Text.utf8 (NameMapFile.render names)))
      (fun _ s' => s'.2 = calls) (s, calls) := by
  have hcode : Path.IsName "code.bin" := by decide
  have hblocks : Path.IsName "bbs.txt" := by decide
  have hnames : Path.IsName "nm.txt" := by decide
  rw [writeWorkspace, wp_bind, CodeFile.write, wp_bind, wp_exchangeOut]
  refine ⟨fun _ s₁ hwritten₁ => ?_, fun _ _ _ => rfl⟩
  have hroot₁ := laws.intact_writeBytes hwritten₁ hroot
  rw [wp_report, wp_bind, AddressFile.write, wp_bind, wp_exchangeOut]
  refine ⟨fun _ s₂ hwritten₂ => ?_, fun _ _ _ => rfl⟩
  have hroot₂ := laws.intact_writeBytes hwritten₂ hroot₁
  rw [wp_report, NameMapFile.write, wp_bind, wp_exchangeOut]
  refine ⟨fun _ s₃ hwritten₃ => ?_, fun _ _ _ => rfl⟩
  rw [wp_report]
  refine ⟨rfl, ?_, ?_, laws.read_written hroot₂ hnames hwritten₃⟩
  · calc host.readBytes s₃ workspace.code
        = host.readBytes s₂ workspace.code :=
          laws.read_beside hroot₂ hnames hcode (by decide) hwritten₃
      _ = host.readBytes s₁ workspace.code :=
          laws.read_beside hroot₁ hblocks hcode (by decide) hwritten₂
      _ = .ok image.code := laws.read_written hroot hcode hwritten₁
  · calc host.readBytes s₃ workspace.blocks
        = host.readBytes s₂ workspace.blocks :=
          laws.read_beside hroot₂ hnames hblocks (by decide) hwritten₃
      _ = .ok (Text.utf8 (AddressFile.render blocks.addresses)) :=
          laws.read_written hroot₁ hblocks hwritten₂

end Stages

/-! ## The stages in a row -/

section Course

open Activity

variable {host : Host σ} {tools : Toolchain σ} {request : RunRequest}
  {sound : σ → Prop} {intact : String → σ → Prop} {start : σ}

/-- What is later handed over takes nothing away from what a job finds. -/
theorem Flow.Supplies.mono {flow : Flow} {calls more : Handovers σ} {job : Job}
    {s : σ} (h : flow.Supplies host tools calls job s)
    (hsub : ∀ call ∈ calls, call ∈ more) :
    flow.Supplies host tools more job s := by
  cases job with
  | recover job => exact h
  | lift job =>
      obtain ⟨hfiles, hnormal, recovery, before, hmem, hemits⟩ := h
      exact ⟨hfiles, hnormal, recovery, before, hsub _ hmem, hemits⟩
  | recompile job =>
      obtain ⟨hobject, lifting, before, hmem, hlifted⟩ := h
      exact ⟨hobject, lifting, before, hsub _ hmem, hlifted⟩

theorem Flow.SuppliesAll.concat {flow : Flow} {calls : Handovers σ}
    (h : flow.SuppliesAll host tools calls) (job : Job) {s : σ}
    (hjob : flow.Supplies host tools calls job s) :
    flow.SuppliesAll host tools (calls ++ [(job, s)]) := by
  have hsub : ∀ call ∈ calls, call ∈ calls ++ [(job, s)] :=
    fun call hcall => List.mem_append_left _ hcall
  intro other before hmem
  rcases List.mem_append.mp hmem with hmem | hmem
  · exact (h other before hmem).mono hsub
  · cases List.mem_singleton.mp hmem
    exact hjob.mono hsub

/-- A ledger holds the data of a flow. -/
structure Flow.Fills (flow : Flow) (ledger : Ledger) : Prop where
  image : ledger.image = flow.image
  seeds : ledger.correlation.seeds.members = flow.seeds
  names : ledger.correlation.names = flow.names
  blocks : ledger.blocks.addresses = flow.blocks

/-- The data of a flow are those of a run, of its ledger and of all jobs handed
over so far. -/
structure Flow.Carries (flow : Flow) (host : Host σ) (tools : Toolchain σ)
    (request : RunRequest) (start : σ) (ledger : Ledger)
    (calls : Handovers σ) : Prop where
  starts : flow.Starts host tools request start
  normal : flow.Normal
  fills : flow.Fills ledger
  supplies : flow.SuppliesAll host tools calls

/-- What a record may hold when a stage fails. -/
def Consistent (host : Host σ) (tools : Toolchain σ) (request : RunRequest)
    (start : σ) (calls : Handovers σ) : Prop :=
  calls = [] ∨ ∃ flow : Flow, flow.Starts host tools request start ∧
    flow.SuppliesAll host tools calls

/-- How far a run has come, by the stages that remain, with its ledger, its
state and the jobs handed over. -/
inductive Reached (plan : Plan σ) (intact : String → σ → Prop) (start s₀ : σ)
    (objectPath : String) : List Stage → Ledger → σ × Handovers σ → Prop where
  | opened (root : intact plan.workspace.root s₀) :
      Reached plan intact start s₀ objectPath Stage.all (.blank objectPath)
        (s₀, [])
  | extracted {ledger : Ledger} {s : σ} (flow : Flow)
      (carries : flow.Carries plan.host plan.tools plan.request start ledger [])
      (object : ledger.objectPath = flow.objectPath)
      (image : plan.imagePath = flow.imagePath)
      (root : intact plan.workspace.root s) :
      Reached plan intact start s₀ objectPath
        [.recover, .serialize, .lift, .recompile] ledger (s, [])
  | recovered {ledger : Ledger} {s before : σ} {job : RecoveryJob} (flow : Flow)
      (carries : flow.Carries plan.host plan.tools plan.request start ledger
        [(.recover job, before)])
      (object : ledger.objectPath = flow.objectPath)
      (emits : Emits plan.host plan.tools.engine job before flow.emitted)
      (root : intact plan.workspace.root s) :
      Reached plan intact start s₀ objectPath [.serialize, .lift, .recompile]
        ledger (s, [(.recover job, before)])
  | serialized {ledger : Ledger} {s before : σ} {job : RecoveryJob}
      (flow : Flow)
      (carries : flow.Carries plan.host plan.tools plan.request start ledger
        [(.recover job, before)])
      (object : ledger.objectPath = flow.objectPath)
      (emits : Emits plan.host plan.tools.engine job before flow.emitted)
      (files : flow.Serialized plan.host ⟨plan.workspace.code,
        flow.image.loadAddress, plan.workspace.blocks, plan.workspace.names,
        plan.workspace.ir⟩ s) :
      Reached plan intact start s₀ objectPath [.lift, .recompile] ledger
        (s, [(.recover job, before)])
  | lifted {ledger : Ledger} {s before beforeLift : σ} {job : RecoveryJob}
      {lifting : LiftingJob} (flow : Flow)
      (carries : flow.Carries plan.host plan.tools plan.request start ledger
        [(.recover job, before), (.lift lifting, beforeLift)])
      (object : ledger.objectPath = flow.objectPath)
      (answer : (plan.tools.lifter.lift lifting beforeLift).value =
        .ok ledger.irPath) :
      Reached plan intact start s₀ objectPath [.recompile] ledger
        (s, [(.recover job, before), (.lift lifting, beforeLift)])
  | compiled {ledger : Ledger} {s : σ} {calls : Handovers σ} (flow : Flow)
      (carries : flow.Carries plan.host plan.tools plan.request start ledger
        calls) :
      Reached plan intact start s₀ objectPath [] ledger (s, calls)

variable {plan : Plan σ} {s₀ : σ} {objectPath : String}

theorem reached_extract (begins : plan.Begins objectPath start s₀)
    (hsource : ∀ root pe path,
      (plan.tools.source.symbols pe path).Keeps (intact root))
    (hroot : intact plan.workspace.root s₀) :
    (plan.recording.body .extract (.blank objectPath)).wp
      (Reached plan intact start s₀ objectPath
        [.recover, .serialize, .lift, .recompile])
      (fun _ s' => Consistent plan.host plan.tools plan.request start s'.2)
      (s₀, []) := by
  refine wp_bind.mpr (wp_mono
    (wp_extractBody hsource plan.imagePath objectPath plan.request.extraSeeds
      plan.request.policy s₀ []) ?_ fun _ _ h => .inl h)
  rintro ⟨image, correlation⟩ ⟨s, calls⟩
    ⟨rfl, hkept, x, hholds, himage, hobject, hcode, hseeds, hnames⟩
  have hstarts : x.Starts plan.host plan.tools plan.request start := {
    imagePath := himage ▸ begins.imagePath
    objectPath := hobject ▸ begins.objectPath
    holds := by
      rw [begins.workspace]
      exact hholds }
  exact .extracted ⟨x, [], []⟩
    { starts := hstarts
      normal := ⟨.nil, fun _ => Iff.rfl⟩
      fills := ⟨hcode, hseeds, hnames, rfl⟩
      supplies := fun _ _ hmem => absurd hmem List.not_mem_nil }
    hobject.symm himage.symm (hkept _ hroot)

theorem reached_recover (laws : plan.host.Lawful sound intact)
    (hengine : ∀ root job,
      (plan.tools.engine.recover job).Keeps (intact root))
    {ledger : Ledger} {s : σ} {flow : Flow}
    (carries : flow.Carries plan.host plan.tools plan.request start ledger [])
    (hobject : ledger.objectPath = flow.objectPath)
    (himage : plan.imagePath = flow.imagePath)
    (hroot : intact plan.workspace.root s) :
    (plan.recording.body .recover ledger).wp
      (Reached plan intact start s₀ objectPath [.serialize, .lift, .recompile])
      (fun _ s' => Consistent plan.host plan.tools plan.request start s'.2)
      (s, []) := by
  have hbody := wp_recoverBody laws hengine carries.fills.seeds hroot []
  rw [← himage, ← carries.fills.image] at hbody
  have hseeded : ∀ {job before}, flow.Seeded plan.host job before →
      ∀ emitted blocks, Flow.SuppliesAll ⟨flow.toExtraction, emitted, blocks⟩
        plan.host plan.tools [(.recover job, before)] := by
    intro job before h emitted blocks other found hmem
    cases List.mem_singleton.mp hmem
    exact h
  refine wp_bind.mpr (wp_mono hbody ?_ ?_)
  · rintro blocks ⟨s', calls⟩ ⟨hroot', job, before, emitted, rfl, hjob, hemits,
      rfl⟩
    exact .recovered ⟨flow.toExtraction, emitted,
        (BlockList.ofList emitted).addresses⟩
      { starts := carries.starts
        normal := ⟨Address.pairwise_members _,
          Ordered.mem_members_ofList emitted⟩
        fills := ⟨carries.fills.image, carries.fills.seeds, carries.fills.names,
          rfl⟩
        supplies := hseeded hjob _ _ }
      hobject hemits hroot'
  · rintro error ⟨s', calls⟩ (hcalls | ⟨job, before, hcalls, hjob⟩)
    · exact .inl hcalls
    · cases hcalls
      exact .inr ⟨flow, carries.starts, hseeded hjob _ _⟩

theorem reached_serialize (laws : plan.host.Lawful sound intact) {ledger : Ledger}
    {s before : σ} {job : RecoveryJob} {flow : Flow}
    (carries : flow.Carries plan.host plan.tools plan.request start ledger
      [(.recover job, before)])
    (hobject : ledger.objectPath = flow.objectPath)
    (hemits : Emits plan.host plan.tools.engine job before flow.emitted)
    (hroot : intact plan.workspace.root s) :
    (plan.recording.body .serialize ledger).wp
      (Reached plan intact start s₀ objectPath [.lift, .recompile])
      (fun _ s' => Consistent plan.host plan.tools plan.request start s'.2)
      (s, [(.recover job, before)]) := by
  refine wp_bind.mpr (wp_noted.mpr (wp_mono
    (wp_writeWorkspace laws hroot ledger.image ledger.blocks
      ledger.correlation.names [(.recover job, before)]) ?_ ?_))
  · rintro _ ⟨s', calls⟩ ⟨rfl, hcode, hblocks, hnames⟩
    rw [carries.fills.image] at hcode
    rw [carries.fills.blocks] at hblocks
    rw [carries.fills.names] at hnames
    exact .serialized flow carries hobject hemits ⟨rfl, hcode, hblocks, hnames⟩
  · rintro error ⟨s', calls⟩ rfl
    exact .inr ⟨flow, carries.starts, carries.supplies⟩

theorem reached_lift {ledger : Ledger} {s before : σ} {job : RecoveryJob}
    {flow : Flow}
    (carries : flow.Carries plan.host plan.tools plan.request start ledger
      [(.recover job, before)])
    (hobject : ledger.objectPath = flow.objectPath)
    (hemits : Emits plan.host plan.tools.engine job before flow.emitted)
    (hfiles : flow.Serialized plan.host ⟨plan.workspace.code,
      flow.image.loadAddress, plan.workspace.blocks, plan.workspace.names,
      plan.workspace.ir⟩ s) :
    (plan.recording.body .lift ledger).wp
      (Reached plan intact start s₀ objectPath [.recompile])
      (fun _ s' => Consistent plan.host plan.tools plan.request start s'.2)
      (s, [(.recover job, before)]) := by
  have hsupplies := carries.supplies.concat (.lift _)
    ⟨hfiles, carries.normal, job, before, List.mem_singleton_self _, hemits⟩
  rw [← carries.fills.image] at hsupplies
  refine wp_bind.mpr (wp_mono (wp_liftBody ledger.image.loadAddress
    plan.workspace s [(.recover job, before)]) ?_ ?_)
  · rintro irPath ⟨s', calls⟩ ⟨rfl, hanswer⟩
    exact .lifted flow
      { starts := carries.starts
        normal := carries.normal
        fills := ⟨carries.fills.image, carries.fills.seeds, carries.fills.names,
          carries.fills.blocks⟩
        supplies := hsupplies }
      hobject hanswer
  · rintro error ⟨s', calls⟩ ⟨rfl, -⟩
    exact .inr ⟨flow, carries.starts, hsupplies⟩

theorem reached_recompile {ledger : Ledger} {s before beforeLift : σ}
    {job : RecoveryJob} {lifting : LiftingJob} {flow : Flow}
    (carries : flow.Carries plan.host plan.tools plan.request start ledger
      [(.recover job, before), (.lift lifting, beforeLift)])
    (hobject : ledger.objectPath = flow.objectPath)
    (hanswer : (plan.tools.lifter.lift lifting beforeLift).value =
      .ok ledger.irPath) :
    (plan.recording.body .recompile ledger).wp
      (Reached plan intact start s₀ objectPath [])
      (fun _ s' => Consistent plan.host plan.tools plan.request start s'.2)
      (s, [(.recover job, before), (.lift lifting, beforeLift)]) := by
  have hsupplies := carries.supplies.concat
    (.recompile ⟨ledger.irPath, ledger.objectPath⟩) (s := s)
    ⟨hobject, lifting, beforeLift, by simp, hanswer⟩
  refine wp_bind.mpr (wp_mono (wp_recompileBody ledger.irPath ledger.objectPath
    s [(.recover job, before), (.lift lifting, beforeLift)]) ?_ ?_)
  · rintro answer ⟨s', calls⟩ ⟨rfl, -⟩
    exact .compiled flow
      { starts := carries.starts
        normal := carries.normal
        fills := ⟨carries.fills.image, carries.fills.seeds, carries.fills.names,
          carries.fills.blocks⟩
        supplies := hsupplies }
  · rintro error ⟨s', calls⟩ ⟨rfl, -⟩
    exact .inr ⟨flow, carries.starts, hsupplies⟩

/-- One stage after the other: from wherever a run has come, the next stage
leads on, or it fails with a consistent record. -/
theorem reached_step (laws : plan.host.Lawful sound intact)
    (begins : plan.Begins objectPath start s₀)
    (hsource : ∀ root pe path,
      (plan.tools.source.symbols pe path).Keeps (intact root))
    (hengine : ∀ root job,
      (plan.tools.engine.recover job).Keeps (intact root))
    (stage : Stage) (rest : List Stage) (ledger : Ledger)
    (s : σ × Handovers σ)
    (h : Reached plan intact start s₀ objectPath (stage :: rest) ledger s) :
    (plan.recording.body stage ledger).wp
      (Reached plan intact start s₀ objectPath rest)
      (fun _ s' => Consistent plan.host plan.tools plan.request start s'.2)
      s := by
  cases h with
  | opened root => exact reached_extract begins hsource root
  | extracted flow carries object image root =>
      exact reached_recover laws hengine carries object image root
  | recovered flow carries object emits root =>
      exact reached_serialize laws carries object emits root
  | serialized flow carries object emits files =>
      exact reached_lift carries object emits files
  | lifted flow carries object answer =>
      exact reached_recompile carries object answer

/-- A ledger that is filled with the data of a flow reports their numbers. -/
theorem Flow.Carries.sums {flow : Flow} {ledger : Ledger}
    {calls : Handovers σ}
    (h : flow.Carries host tools request start ledger calls)
    (completed : List Stage) : flow.Sums (ledger.toReport completed) := by
  obtain ⟨himage, hseeds, hnames, hblocks⟩ := h.fills
  have hlength := h.starts.holds.length_code_lt
  exact {
    loadAddress := congrArg CodeImage.loadAddress himage
    codeSize := by
      show (UInt64.ofNat ledger.image.code.length).toNat = _
      rw [himage]
      exact UInt64.toNat_ofNat_of_lt hlength
    seedCount := by
      rw [AddressFile.length_lines_render, ← hseeds, Ordered.length_members]
      rfl
    blockCount := by
      rw [AddressFile.length_lines_render, ← hblocks]
      rfl
    nameCount := by
      rw [← hnames]
      rfl
    nameLines := by
      intro hfeeds
      have hnone : (flow.names.values.flatMap String.toList).count '\n' = 0 := by
        refine List.count_eq_zero.mpr fun hmem => ?_
        obtain ⟨name, hname, hfeed⟩ := List.mem_flatMap.mp hmem
        exact hfeeds name hname hfeed
      rw [NameMapFile.length_lines_render, hnone, ← hnames]
      rfl }

/-- All jobs of a run find the data of one flow, of which the report gives the
numbers. -/
theorem wp_recorded (laws : host.Lawful sound intact)
    (hsource : ∀ root pe path,
      (tools.source.symbols pe path).Keeps (intact root))
    (hengine : ∀ root job, (tools.engine.recover job).Keeps (intact root))
    (request : RunRequest) (hsound : sound start) :
    (run host.recording tools.recording request).wp
      (fun report s => ∃ flow : Flow, flow.Starts host tools request start ∧
        flow.SuppliesAll host tools s.2 ∧ flow.Sums report)
      (fun _ s => Consistent host tools request start s.2) (start, []) := by
  rw [wp_run]
  refine wp_mono (wp_prepare host tools request start) ?_ fun _ _ h => .inl h
  rintro ⟨imagePath, objectPath, workspace⟩ ⟨s₀, calls⟩ ⟨rfl, begins⟩
  have hroot := laws.scratch_intact hsound begins.workspace
  refine wp_mono (wp_drive
    (reached_step laws begins hsource hengine) Stage.all [] _ _
    (.opened hroot)) ?_ fun _ _ h => h
  rintro ⟨ledger, completed⟩ ⟨s, calls⟩ ⟨hreached, -⟩
  cases hreached with
  | compiled flow carries =>
      exact ⟨flow, carries.starts, carries.supplies, carries.sums completed⟩

/-- On a host that keeps files, with a symbol source and an engine that plant
no links, all jobs of a run find exactly the data of one flow, and the report
gives their numbers. -/
theorem run_dataflow (laws : host.Lawful sound intact)
    (hsource : ∀ root pe path,
      (tools.source.symbols pe path).Keeps (intact root))
    (hengine : ∀ root job, (tools.engine.recover job).Keeps (intact root))
    (request : RunRequest) {s : σ} (hsound : sound s) :
    Dataflow host tools request s := by
  rcases answer_of_recorded (wp_recorded laws hsource hengine request hsound)
    with ⟨report, s', hok, flow, hstarts, hsupplies, hsums⟩ |
      ⟨failure, s', hfailure, hconsistent⟩
  · refine .inr ⟨flow, hstarts, hsupplies, fun other hother => ?_⟩
    cases hok.symm.trans hother
    obtain ⟨recovery, s₀, lifting, s₁, compilation, s₂, hthree, -⟩ :=
      handovers_of_ok hok
    exact ⟨hsums, recovery, s₀, lifting, s₁, compilation, s₂, hthree⟩
  · have hnone : ∀ report, (run host tools request s).value ≠ .ok report :=
      fun report hok => nomatch hok.symm.trans hfailure
    rcases hconsistent with hempty | ⟨flow, hstarts, hsupplies⟩
    · exact .inl ⟨hempty, hnone⟩
    · exact .inr ⟨flow, hstarts, hsupplies,
        fun report hok => absurd hok (hnone report)⟩

end Course

/-! ## On a machine -/

/-- An executable of 128 bytes, the first four of which are its code section. -/
def smallImage : Bytes :=
  [0x4D, 0x5A] ++ List.replicate 58 0 ++ [0x40, 0, 0, 0] ++
    [0x50, 0x45, 0, 0, 0, 0, 1, 0] ++ List.replicate 16 0 ++
    [0x2E, 0x74, 0x65, 0x78, 0x74, 0, 0, 0] ++
    [4, 0, 0, 0, 0, 0x10, 0, 0, 4, 0, 0, 0] ++ List.replicate 20 0

/-- A machine that holds the executable. -/
def smallMachine : Machine where
  tree := (FileTree.empty.set ["tmp"] .directory).set ["game.exe"]
    (.file smallImage false)
  place := []
  environment := []
  temporaryDirectory := "/tmp"
  executable := none

/-- One symbol, an engine that lists two blocks in disorder and one of them
twice, and a lifter and a compiler that have nothing to do. -/
def smallTools : Toolchain Machine where
  source := .static (.ofList [("start", ⟨4096, 0⟩)])
  engine := ⟨"lister", fun job =>
    AddressFile.write Machine.host job.resultPath [8192, 4096, 8192]⟩
  lifter := ⟨"lifter", fun job => pure job.irPath⟩
  compiler := ⟨"compiler", fun job => pure job.objectPath⟩

theorem sound_smallMachine : smallMachine.Sound := by
  have htmp : FileTree.empty.Grows (FileTree.empty.set ["tmp"] .directory) :=
    FileTree.grows_set (by decide) nofun
  have hgame : (FileTree.empty.set ["tmp"] .directory).Grows
      smallMachine.tree :=
    FileTree.grows_set (by decide) nofun
  exact (htmp.trans hgame).sound FileTree.sound_empty

/-- Writing an address file plants no links. -/
theorem keeps_write {host : Host σ} {sound : σ → Prop}
    {intact : String → σ → Prop} (laws : host.Lawful sound intact)
    (root path : String) (addresses : List Address) :
    (AddressFile.write host path addresses).Keeps (intact root) := by
  refine Activity.keeps_bind ?_ fun _ => Activity.keeps_report _
  refine Activity.keeps_mapError _ (Activity.keeps_perform fun s hs => ?_)
  exact laws.intact_writeBytes rfl hs

/-- What is asked of the machine. -/
def smallRequest : RunRequest :=
  ⟨"game.exe", "game.o", [12288, 4096], .reject⟩

/-- The run on the machine succeeds, with two seeds, two blocks and one name. -/
theorem run_smallMachine :
    (run Machine.host smallTools smallRequest smallMachine).value =
      .ok ⟨.done, 4096, 4, 2, 2, 1, "/game.o", Stage.all⟩ := by
  decide +kernel

/-- The data flow of a run on a machine that succeeds and hands over three
jobs. -/
theorem run_dataflow_on_machine :
    Machine.host.Lawful Machine.Sound Machine.Intact ∧ smallMachine.Sound ∧
      Dataflow Machine.host smallTools smallRequest smallMachine ∧
      (run Machine.host smallTools smallRequest smallMachine).value =
        .ok ⟨.done, 4096, 4, 2, 2, 1, "/game.o", Stage.all⟩ ∧
      (handovers Machine.host smallTools smallRequest smallMachine).map
          (fun call => call.1.stage) = [.recover, .lift, .recompile] := by
  have hsource : ∀ root pe path,
      (smallTools.source.symbols pe path).Keeps (Machine.Intact root) :=
    fun _ _ _ _ hs => hs
  have hengine : ∀ root job,
      (smallTools.engine.recover job).Keeps (Machine.Intact root) :=
    fun root job => keeps_write Machine.lawful root job.resultPath _
  exact ⟨Machine.lawful, sound_smallMachine,
    run_dataflow Machine.lawful hsource hengine smallRequest sound_smallMachine,
    run_smallMachine, stages_of_ok run_smallMachine⟩

end Relift.Run
