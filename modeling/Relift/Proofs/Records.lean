import Relift.CommandLine.Program
import Relift.Proofs.CommandLine.Silence
import Relift.Proofs.Json

/-!
# Records as JSON

What is written of a state, a stage, a policy, a descriptor, a list of blocks,
settings or a report is read back as it was, from the compact text and from the
pretty one.  The readers of records see a row of fields, each with a content or
without one; what a writer leaves out is a field without content
(`asRecord?_fields`).

## Main results

* `records_round_trip` — every writer is undone by its reader, and what the
  program answers in full is read back as the report of the run.
* `settings_pinned` — settled locations that are written down settle the same
  locations again, in every environment.
-/

namespace Relift

namespace Json

/-! ## Contents -/

theorem asWord?_nat (word : UInt64) : asWord? (.nat word.toNat) = some word := by
  have hdigits : (Text.decimal word.toNat).all Char.isDigit = true :=
    List.all_eq_true.mpr fun _ hc => Text.isDigit_of_mem_decimal hc
  show (if (Text.decimal word.toNat).all Char.isDigit then
    Text.wordOfDecimal? (Text.decimal word.toNat) else none) = some word
  rw [if_pos hdigits, Text.wordOfDecimal?_decimal]

/-- Where every item is found, all of them are. -/
theorem mapM_map_eq_some {α β γ : Type} {write : α → β} {read? : β → Option γ}
    {seen : α → γ} {items : List α}
    (h : ∀ item ∈ items, read? (write item) = some (seen item)) :
    (items.map write).mapM read? = some (items.map seen) := by
  induction items with
  | nil => rfl
  | cons item items ih =>
      have hrest := ih fun other hother => h other (List.mem_cons_of_mem _ hother)
      rw [List.map_cons, List.mapM_cons, h item List.mem_cons_self, hrest]
      rfl

theorem asList?_map {α : Type} {write : α → Json} {read? : Json → Option α}
    (h : ∀ item, read? (write item) = some item) (items : List α) :
    asList? read? (.array (items.map write)) = some items := by
  have hall : (items.map write).mapM read? = some (items.map id) :=
    mapM_map_eq_some fun item _ => h item
  rw [asList?, hall, List.map_id]

/-! ## Fields -/

/-- A row of fields as a record; a field without content is left out. -/
def ofFields (fields : List (String × Option Json)) : List (String × Json) :=
  fields.filterMap fun field => field.2.map fun value => (field.1, value)

/-- The members of a key that is not among the fields. -/
theorem filter_ofFields_of_not_mem {key : String}
    {fields : List (String × Option Json)} (h : key ∉ fields.map Prod.fst) :
    (ofFields fields).filter (fun member => member.1 == key) = [] := by
  rw [List.filter_eq_nil_iff]
  intro member hmember hkey
  obtain ⟨field, hfield, hvalue⟩ := List.mem_filterMap.mp hmember
  obtain ⟨value, -, rfl⟩ := Option.map_eq_some_iff.mp hvalue
  exact h (eq_of_beq hkey ▸ List.mem_map_of_mem hfield)

/-- The members of the key of a field are its content. -/
theorem filter_ofFields {fields : List (String × Option Json)}
    (h : (fields.map Prod.fst).Nodup) {field : String × Option Json}
    (hfield : field ∈ fields) :
    (ofFields fields).filter (fun member => member.1 == field.1) =
      (field.2.map fun value => (field.1, value)).toList := by
  induction fields with
  | nil => cases hfield
  | cons first rest ih =>
      rw [List.map_cons, List.nodup_cons] at h
      have hsplit : ofFields (first :: rest) =
          (first.2.map fun value => (first.1, value)).toList ++ ofFields rest := by
        cases hfirst : first.2 <;> simp [ofFields, hfirst]
      rw [hsplit, List.filter_append]
      rcases List.mem_cons.mp hfield with rfl | hrest
      · rw [filter_ofFields_of_not_mem h.1, List.append_nil]
        cases field.2 <;> simp
      · have hne : first.1 ≠ field.1 := by
          intro heq
          exact h.1 (heq ▸ List.mem_map_of_mem hrest)
        rw [ih h.2 hrest]
        cases first.2 <;> simp [hne]

/-- A record is read as the contents of its fields, in their order. -/
theorem asRecord?_fields {keys : List String} (h : keys.Nodup)
    (fields : List (String × Option Json)) (hkeys : fields.map Prod.fst = keys) :
    asRecord? keys (.record (ofFields fields)) = some (fields.map Prod.snd) := by
  subst hkeys
  let members := ofFields fields
  have hnamed : (members.map fun member => (some member.1, member.2)).mapM
      (fun member : Option String × Json =>
        member.1.map fun key => (key, member.2)) = some (members.map id) :=
    mapM_map_eq_some fun _ _ => rfl
  rw [List.map_id] at hnamed
  show membersAt? (fields.map Prod.fst)
    (members.map fun member => (some member.1, member.2)) = _
  unfold membersAt?
  refine (congrArg (fun named? => named? >>= _) hnamed).trans ?_
  refine mapM_map_eq_some fun field hfield => ?_
  rw [filter_ofFields h hfield]
  cases field.2 <;> rfl

/-! ## Texts -/

/-- A record of values that are written in digits and texts is one itself. -/
theorem plain_record {members : List (String × Json)}
    (h : ∀ member ∈ members, Plain member.2) : Plain (.record members) := by
  refine .object fun member hmember => ?_
  obtain ⟨named, hnamed, rfl⟩ := List.mem_map.mp hmember
  exact h named hnamed

theorem plain_array {α : Type} {write : α → Json} (h : ∀ item, Plain (write item))
    (items : List α) : Plain (.array (items.map write)) := by
  refine .array fun element helement => ?_
  obtain ⟨item, -, rfl⟩ := List.mem_map.mp helement
  exact h item

variable {α : Type}

/-- What a text gives to a reader. -/
def readText? (read? : Json → Option α) (text : String) : Option α :=
  (parse? text).bind read?

theorem readText?_compact {read? : Json → Option α} {value : Json}
    (h : Plain value) : readText? read? (compact value) = read? value := by
  have hspells : Spells (compact value).toList (row value) := by
    rw [compact, String.toList_ofList]
    exact spells_compact h
  rw [readText?, parse?_of_spells h hspells]
  rfl

/-- The pretty text may be followed by an ending without tokens. -/
theorem readText?_pretty_append {read? : Json → Option α} {value : Json}
    (h : Plain value) (ending : String) (hending : Spells ending.toList [])
    (hbounded : Bounded ending.toList) :
    readText? read? (pretty value ++ ending) = read? value := by
  have hspells : Spells (pretty value ++ ending).toList (row value) := by
    rw [pretty, String.toList_append, String.toList_ofList,
      ← List.append_nil (row value)]
    exact (spells_pretty h 0).append hending hbounded
  rw [readText?, parse?_of_spells h hspells]
  rfl

theorem readText?_pretty {read? : Json → Option α} {value : Json}
    (h : Plain value) : readText? read? (pretty value) = read? value := by
  rw [← String.append_empty (s := pretty value)]
  exact readText?_pretty_append h "" .nil bounded_nil

theorem readText?_pretty_line {read? : Json → Option α} {value : Json}
    (h : Plain value) : readText? read? (pretty value ++ "\n") = read? value := by
  have hgap : ∀ c ∈ ['\n'], isSeparator c = true :=
    List.forall_mem_singleton.mpr rfl
  have hbounded : Bounded ['\n'] := bounded_cons (by decide) []
  exact readText?_pretty_append h "\n" (Spells.after_gap hgap .nil) hbounded

/-- What is written is read back, and so is what was read and written again. -/
structure RoundTrips (write : α → Json) (read? : Json → Option α) : Prop where
  compact : ∀ value, readText? read? (Json.compact (write value)) = some value
  pretty : ∀ value, readText? read? (Json.pretty (write value)) = some value
  again : ∀ text value, readText? read? text = some value →
    readText? read? (Json.compact (write value)) = readText? read? text ∧
    readText? read? (Json.pretty (write value)) = readText? read? text

theorem roundTrips {write : α → Json} {read? : Json → Option α}
    (hplain : ∀ value, Plain (write value))
    (hread : ∀ value, read? (write value) = some value) :
    RoundTrips write read? := by
  have hcompact : ∀ value,
      readText? read? (compact (write value)) = some value := by
    intro value
    rw [readText?_compact (hplain value), hread]
  have hpretty : ∀ value,
      readText? read? (pretty (write value)) = some value := by
    intro value
    rw [readText?_pretty (hplain value), hread]
  refine ⟨hcompact, hpretty, fun text value htext => ?_⟩
  rw [htext]
  exact ⟨hcompact value, hpretty value⟩

end Json

open Json (Plain plain_record plain_array asRecord?_fields asWord?_nat asList?_map)

/-! ## Choices -/

namespace Stage

theorem ofName?_name (stage : Stage) : ofName? stage.name = some stage := by
  cases stage <;> decide +kernel

theorem plain_toJson (stage : Stage) : Plain stage.toJson :=
  .string _

theorem ofJson?_toJson (stage : Stage) : ofJson? stage.toJson = some stage :=
  ofName?_name stage

end Stage

namespace RunState

theorem plain_toJson (state : RunState) : Plain state.toJson := by
  cases state with
  | init => exact .string _
  | done => exact .string _
  | running stage => exact plain_record (by simpa using stage.plain_toJson)
  | failed stage => exact plain_record (by simpa using stage.plain_toJson)

theorem ofJson?_toJson (state : RunState) : ofJson? state.toJson = some state := by
  cases state with
  | init => rfl
  | done => rfl
  | running stage =>
      show (Stage.ofJson? stage.toJson).map running = _
      rw [stage.ofJson?_toJson]
      rfl
  | failed stage =>
      show (Stage.ofJson? stage.toJson).map failed = _
      rw [stage.ofJson?_toJson]
      rfl

end RunState

namespace CollisionPolicy

theorem plain_toJson (policy : CollisionPolicy) : Plain policy.toJson :=
  .string _

theorem ofJson?_toJson (policy : CollisionPolicy) :
    ofJson? policy.toJson = some policy := by
  cases policy <;> decide +kernel

end CollisionPolicy

/-! ## Numbers -/

namespace Descriptor

theorem plain_toJson (d : Descriptor) : Plain d.toJson := by
  apply plain_record
  simp only [List.forall_mem_cons]
  exact ⟨.nat _, .nat _, List.forall_mem_nil _⟩

theorem ofJson?_toJson (d : Descriptor) : ofJson? d.toJson = some d := by
  have hrecord : Json.asRecord? ["primary", "secondary"] d.toJson =
      some [some (.nat d.primary.toNat), some (.nat d.secondary.toNat)] :=
    asRecord?_fields (by decide) [(_, some _), (_, some _)] rfl
  rw [ofJson?, hrecord]
  simp [Json.required?, asWord?_nat]

end Descriptor

namespace BlockList

theorem plain_toJson (blocks : BlockList) : Plain blocks.toJson := by
  refine plain_record fun member hmember => ?_
  rw [List.mem_singleton] at hmember
  subst hmember
  exact plain_array (fun address => .nat address.toNat) blocks.addresses

theorem ofJson?_toJson (blocks : BlockList) :
    ofJson? blocks.toJson = some blocks := by
  have hrecord : Json.asRecord? ["addresses"] blocks.toJson =
      some [some (.array (blocks.addresses.map fun a => .nat a.toNat))] :=
    asRecord?_fields (by decide) [(_, some _)] rfl
  rw [ofJson?, hrecord]
  simp [Json.required?, asList?_map asWord?_nat]

end BlockList

/-! ## Settings -/

namespace SettingsFile

theorem plain_toJson (file : SettingsFile) : Plain (toJson file) := by
  refine plain_record fun member hmember => ?_
  obtain ⟨location, -, hpath⟩ := List.mem_filterMap.mp hmember
  obtain ⟨path, -, rfl⟩ := Option.map_eq_some_iff.mp hpath
  exact .string _

/-- A settings file is the record of its paths, as far as it gives them. -/
theorem toJson_eq (file : SettingsFile) :
    toJson file = .record (Json.ofFields (Location.all.map fun location =>
      (location.field, (Locations.get file location).map Json.text))) := by
  rw [toJson, Json.ofFields, List.filterMap_map]
  simp [Function.comp_def]

theorem optional?_text (path : Option String) :
    Json.optional? Json.asText? (path.map Json.text) = some path := by
  cases path <;> rfl

theorem asRecord?_toJson (file : SettingsFile) :
    Json.asRecord? (Location.all.map Location.field) (toJson file) =
      some (Location.all.map fun location =>
        (Locations.get file location).map Json.text) := by
  have hnodup : (Location.all.map Location.field).Nodup := by decide
  rw [toJson_eq]
  exact asRecord?_fields hnodup _ rfl

theorem ofJson?_toJson (file : SettingsFile) : ofJson? (toJson file) = some file := by
  rw [ofJson?, asRecord?_toJson]
  simp [Location.all, optional?_text, Locations.get, Locations.ofList?]

/-- The settings file that gives every path of settled locations. -/
def pinning (settings : ToolSettings) : SettingsFile :=
  ⟨settings.ghidra, settings.scripts, settings.lifter, settings.compiler,
    settings.semantics, settings.intrinsics⟩

theorem get_pinning (settings : ToolSettings) (location : Location) :
    Locations.get (pinning settings) location =
      some (Locations.get settings location) := by
  cases location <;> rfl

end SettingsFile

namespace ToolSettings

/-- Settled locations are written as the settings file that gives them all. -/
theorem toJson_eq_pinning (settings : ToolSettings) :
    toJson settings = SettingsFile.toJson (SettingsFile.pinning settings) :=
  rfl

theorem plain_toJson (settings : ToolSettings) : Plain (toJson settings) :=
  SettingsFile.plain_toJson (SettingsFile.pinning settings)

theorem ofJson?_toJson (settings : ToolSettings) :
    ofJson? (toJson settings) = some settings := by
  rw [ofJson?, toJson_eq_pinning, SettingsFile.asRecord?_toJson]
  rfl

/-- Where the file gives every path, nothing else is looked at. -/
theorem ofSources_pinning (settings : ToolSettings) (package : Option String)
    (lookup : String → Option String) :
    ofSources (SettingsFile.pinning settings) package lookup = .ok settings := by
  rw [ofSources, Locations.build_eq_ok_iff]
  intro location
  exact settle_of_sourced (.entry (SettingsFile.get_pinning settings location))

end ToolSettings

/-! ## Reports -/

namespace Report

theorem plain_toJson (report : Report) : Plain report.toJson := by
  apply plain_record
  simp only [fields, List.zip_cons_cons, List.zip_nil_left, List.forall_mem_cons]
  exact ⟨report.state.plain_toJson, .nat _, .nat _, .nat _, .nat _, .nat _,
    .string _, plain_array Stage.plain_toJson report.stagesCompleted,
    List.forall_mem_nil _⟩

theorem ofJson?_toJson (report : Report) : ofJson? report.toJson = some report := by
  have hrecord : Json.asRecord? fields report.toJson =
      some [some report.state.toJson, some (.nat report.loadAddress.toNat),
        some (.nat report.codeSize.toNat), some (.nat report.seedCount.toNat),
        some (.nat report.blockCount.toNat), some (.nat report.nameCount.toNat),
        some (.text report.objectPath),
        some (.array (report.stagesCompleted.map Stage.toJson))] :=
    asRecord?_fields (by decide)
      [(_, some _), (_, some _), (_, some _), (_, some _), (_, some _),
        (_, some _), (_, some _), (_, some _)] rfl
  rw [ofJson?, hrecord]
  simp [Json.required?, RunState.ofJson?_toJson, asWord?_nat, Json.asText?,
    Json.text, asList?_map Stage.ofJson?_toJson]

end Report

/-! ## The answer of the program -/

/-- What goes to the stream for answers is the answers. -/
theorem join_answerText_putOut (told : List Told) (answers : List String) :
    String.join ((putOut told answers).map Output.answerText) =
      String.join answers := by
  have htold : ∀ told : List Told,
      String.join ((told.map Told.output).map Output.answerText) = "" := by
    intro told
    induction told with
    | nil => rfl
    | cons first rest ih =>
        have hfirst : first.output.answerText = "" := by cases first <;> rfl
        rw [List.map_cons, List.map_cons, String.join_cons, hfirst, ih]
        rfl
  have hanswers : (answers.map Output.answer).map Output.answerText = answers := by
    rw [List.map_map]
    exact List.map_id _
  rw [putOut, List.map_append, String.join_append, htold, hanswers,
    String.empty_append]

section Answer

variable {σ : Type} {host : Host σ} {options : CommandOptions} {s : σ}
  {report : Report}

theorem exists_flatMap_render (style : ProgressStyle) (events : List Event) :
    ∃ told : List Told, events.flatMap style.render = told.map Told.output := by
  cases style with
  | console => exact ⟨_, flatMap_render_console events⟩
  | silent => exact ⟨_, flatMap_render_silent events⟩

/-- A command that succeeds ends with the answer to its report. -/
theorem exists_putOut (h : (liftExecutable host options s).value = .ok report) :
    ∃ told, (liftExecutable host options s).notes =
      putOut told (answerTexts options (.ok report)) := by
  obtain ⟨told, htold⟩ := exists_flatMap_render options.style
    (liftEvents host options s)
  refine ⟨told, ?_⟩
  rw [notes_liftExecutable, htold, h, putOut]

/-- Asked for the whole report, the program writes it as JSON and a line
break. -/
theorem output_of_json {words : List String} {verbose : Bool}
    (hwords : Invocation.ofArguments? words = some (.lift options verbose))
    (hjson : options.json = true)
    (h : (liftExecutable host options s).value = .ok report) :
    (runProgram host words s).1.output = Json.pretty report.toJson ++ "\n" := by
  obtain ⟨told, htold⟩ := exists_putOut h
  rw [runProgram, hwords]
  simp only [h, htold, join_answerText_putOut]
  simp [answerTexts, hjson, Except.toOption, String.join_cons]

end Answer

/-- For every kind of record, what is written of a value is read as that value,
in the compact form and in the pretty one, so that whatever was read can be
written and read again; and when a run succeeds, the text that the program
answers in full is read as the report of the run. -/
theorem records_round_trip :
    Json.RoundTrips Report.toJson Report.ofJson? ∧
    Json.RoundTrips RunState.toJson RunState.ofJson? ∧
    Json.RoundTrips Stage.toJson Stage.ofJson? ∧
    Json.RoundTrips ToolSettings.toJson ToolSettings.ofJson? ∧
    Json.RoundTrips SettingsFile.toJson SettingsFile.ofJson? ∧
    Json.RoundTrips Descriptor.toJson Descriptor.ofJson? ∧
    Json.RoundTrips BlockList.toJson BlockList.ofJson? ∧
    Json.RoundTrips CollisionPolicy.toJson CollisionPolicy.ofJson? ∧
    ∀ (σ : Type) (host : Host σ) (words : List String)
      (options : CommandOptions) (verbose : Bool) (s : σ) (report : Report),
      Invocation.ofArguments? words = some (.lift options verbose) →
      options.json = true →
      (liftExecutable host options s).value = .ok report →
      Json.readText? Report.ofJson? (runProgram host words s).1.output =
        some report := by
  refine ⟨Json.roundTrips Report.plain_toJson Report.ofJson?_toJson,
    Json.roundTrips RunState.plain_toJson RunState.ofJson?_toJson,
    Json.roundTrips Stage.plain_toJson Stage.ofJson?_toJson,
    Json.roundTrips ToolSettings.plain_toJson ToolSettings.ofJson?_toJson,
    Json.roundTrips SettingsFile.plain_toJson SettingsFile.ofJson?_toJson,
    Json.roundTrips Descriptor.plain_toJson Descriptor.ofJson?_toJson,
    Json.roundTrips BlockList.plain_toJson BlockList.ofJson?_toJson,
    Json.roundTrips CollisionPolicy.plain_toJson CollisionPolicy.ofJson?_toJson,
    ?_⟩
  intro σ host words options verbose s report hwords hjson hreport
  rw [output_of_json hwords hjson hreport,
    Json.readText?_pretty_line report.plain_toJson]
  exact report.ofJson?_toJson

/-- A host on which everything is there and every tool succeeds. -/
def Run.furnished : Host (List String) :=
  { shelf with
    environment := fun _ key => some key
    isFile := fun _ _ => true
    isDirectory := fun _ _ => true }

/-- A settings file written as a list with a null is read, written as an object
and read again; and the answer to a run on a furnished host is read back. -/
theorem answered_report_read :
    let file : SettingsFile := ⟨some "a", none, none, none, none, none⟩
    let words := ["--json", "game.exe", "game.o"]
    Json.readText? SettingsFile.ofJson? (Json.compact (SettingsFile.toJson file)) =
      Json.readText? SettingsFile.ofJson? "[\"a\", null]" ∧
    ∃ report, report.objectPath = "/game.o" ∧
      Json.readText? Report.ofJson? (runProgram Run.furnished words []).1.output =
        some report := by
  intro file words
  obtain ⟨-, -, -, -, hfile, -, -, -, hanswer⟩ := records_round_trip
  have hlist : Json.readText? SettingsFile.ofJson? "[\"a\", null]" = some file := by
    decide +kernel
  refine ⟨(hfile.again _ file hlist).1, ?_⟩
  let options : CommandOptions :=
    ⟨"game.exe", "game.o", none, none, none, default, false, true⟩
  have hwords : Invocation.ofArguments? words = some (.lift options false) := by
    have hflag : "--json".toList = ['-', '-', 'j', 's', 'o', 'n'] := by decide
    have himage : "game.exe".toList = ['g', 'a', 'm', 'e', '.', 'e', 'x', 'e'] := by
      decide
    have hobject : "game.o".toList = ['g', 'a', 'm', 'e', '.', 'o'] := by decide
    have hname : Arguments.flag? (String.ofList ['j', 's', 'o', 'n']) =
        some .json := by decide +kernel
    have hvalue : Arguments.valueOption? (String.ofList ['j', 's', 'o', 'n']) =
        none := by decide +kernel
    simp [words, options, Invocation.ofArguments?, Arguments.read, hflag, himage,
      hobject, hname, hvalue, Arguments.addFlag, Arguments.addWord,
      Arguments.invocation?]
  have hpath : (liftExecutable Run.furnished options []).value.toOption.map
      Report.objectPath = some "/game.o" := by decide +kernel
  obtain ⟨report, hreport, hobject⟩ := Option.map_eq_some_iff.mp hpath
  have hvalue : (liftExecutable Run.furnished options []).value = .ok report := by
    revert hreport
    cases (liftExecutable Run.furnished options []).value with
    | error e => intro h; cases h
    | ok found => intro h; cases h; rfl
  exact ⟨report, hobject, hanswer _ Run.furnished words options false [] report
    hwords rfl hvalue⟩

/-- Whatever locations are settled, the text written of them is accepted as a
settings file, and that file settles the same locations in every environment
and with every package directory or none. -/
theorem settings_pinned (settings : ToolSettings) :
    ∃ file : SettingsFile,
      Json.readText? SettingsFile.ofJson?
        (Json.compact (ToolSettings.toJson settings)) = some file ∧
      Json.readText? SettingsFile.ofJson?
        (Json.pretty (ToolSettings.toJson settings)) = some file ∧
      ∀ (package : Option String) (lookup : String → Option String),
        ToolSettings.ofSources file package lookup = .ok settings := by
  have hread := SettingsFile.ofJson?_toJson (SettingsFile.pinning settings)
  have hplain := ToolSettings.plain_toJson settings
  refine ⟨SettingsFile.pinning settings, ?_, ?_, ?_⟩
  · rw [Json.readText?_compact hplain, ToolSettings.toJson_eq_pinning, hread]
  · rw [Json.readText?_pretty hplain, ToolSettings.toJson_eq_pinning, hread]
  · exact ToolSettings.ofSources_pinning settings

end Relift
