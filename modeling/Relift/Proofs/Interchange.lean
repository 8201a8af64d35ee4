import Mathlib.Data.List.Basic
import Mathlib.Data.List.Forall2
import Mathlib.Data.List.ReduceOption
import Relift.Interchange.AddressFile
import Relift.Interchange.NameMapFile
import Relift.Proofs.Ordered
import Relift.Proofs.Text

/-!
# Interchange files read back

A name map is written one entry a line and read back line by line.  A name may
hold anything, so a name with line feeds may pretend to be further entries; this
module settles exactly which name maps survive.

Reading is described by two facts about rows of lines: `readEntries_eq_ok_iff`
says what a row gives when it is accepted, and `readEntries_eq_error_iff` that a
refusal names the first malformed line.  They also hold in terms of a grammar of
lines, once a relation is known to describe the reader (`Describes`).  Of each
written entry the first line is known (`lines_renderEntry`), which is enough for
both directions: a clean entry is nothing but its first line, and any other
entry loses something there.

## Main results

* `NameMapFile.parse_render_iff_clean` — a name map reads back as it was
  written, in ascending order, exactly when all of its names are clean.
* `NameMapFile.parse_render_of_parse` — what is left of symbols that are read
  from a file, written and read again.
* `NameMapFile.length_lines_render`, `AddressFile.lines_render` — which lines
  there are for the entries of a file.
-/

namespace Relift

variable {α : Type}

/-! ## Rows of lines -/

/-- The entry that a line gives. -/
def LineReading.value? : LineReading α → Option α
  | entry value => some value
  | _ => none

theorem map_eq_ok_iff {ε β : Type} {x : Except ε α} {f : α → β} {b : β} :
    x.map f = .ok b ↔ ∃ a, x = .ok a ∧ f a = b := by
  cases x with
  | error e => simp [Except.map]
  | ok a => simp [Except.map]

theorem map_eq_error_iff {ε β : Type} {x : Except ε α} {f : α → β} {e : ε} :
    x.map f = .error e ↔ x = .error e := by
  cases x with
  | error e' => simp [Except.map]
  | ok a => simp [Except.map]

/-- A row of lines is accepted when none of them is malformed, and then gives
the entries in their order. -/
theorem readEntries_eq_ok_iff {readLine : List Char → LineReading α}
    {path : String} {rows : List (List Char)} {values : List α} {number : Nat} :
    readEntries readLine path number rows = .ok values ↔
      (∀ line ∈ rows, readLine line ≠ .malformed) ∧
        rows.filterMap (fun line => (readLine line).value?) = values := by
  induction rows generalizing values number with
  | nil => simp [readEntries]
  | cons line rest ih =>
      rw [readEntries, List.forall_mem_cons, List.filterMap_cons]
      cases hline : readLine line with
      | blank => simp [ih, LineReading.value?]
      | entry value =>
          simp only [map_eq_ok_iff, ih, LineReading.value?]
          constructor
          · rintro ⟨others, ⟨hrest, hothers⟩, hvalues⟩
            exact ⟨⟨nofun, hrest⟩, hothers ▸ hvalues⟩
          · rintro ⟨⟨-, hrest⟩, hvalues⟩
            exact ⟨_, ⟨hrest, rfl⟩, hvalues⟩
      | malformed => simp

/-- A line that is not malformed has no part in a refusal. -/
theorem readEntries_cons_eq_error_iff {readLine : List Char → LineReading α}
    {path : String} {line : List Char} {rest : List (List Char)} {e : Error}
    {number : Nat} (h : readLine line ≠ .malformed) :
    readEntries readLine path number (line :: rest) = .error e ↔
      readEntries readLine path (number + 1) rest = .error e := by
  rw [readEntries]
  cases hline : readLine line with
  | blank => rfl
  | entry value => exact map_eq_error_iff
  | malformed => exact absurd hline h

/-- A row of lines is refused for the first of them that is malformed. -/
theorem readEntries_eq_error_iff {readLine : List Char → LineReading α}
    {path : String} {rows : List (List Char)} {e : Error} {number : Nat} :
    readEntries readLine path number rows = .error e ↔
      ∃ before line after, rows = before ++ line :: after ∧
        (∀ earlier ∈ before, readLine earlier ≠ .malformed) ∧
        readLine line = .malformed ∧
        e = .malformedLine path (number + before.length)
          (String.ofList line) := by
  constructor
  · intro h
    induction rows generalizing number with
    | nil => cases h
    | cons line rest ih =>
        by_cases hline : readLine line = .malformed
        · rw [readEntries, hline] at h
          cases h
          exact ⟨[], line, rest, rfl, by simp, hline, rfl⟩
        · rw [readEntries_cons_eq_error_iff hline] at h
          obtain ⟨before, bad, after, rfl, hbefore, hbad, rfl⟩ := ih h
          refine ⟨line :: before, bad, after, rfl,
            List.forall_mem_cons.mpr ⟨hline, hbefore⟩, hbad, ?_⟩
          rw [List.length_cons, Nat.add_assoc, Nat.add_comm 1]
  · rintro ⟨before, line, after, rfl, hbefore, hline, rfl⟩
    induction before generalizing number with
    | nil => rw [List.nil_append, readEntries, hline]; rfl
    | cons first before ih =>
        obtain ⟨hfirst, hbefore⟩ := List.forall_mem_cons.mp hbefore
        rw [List.cons_append, readEntries_cons_eq_error_iff hfirst, ih hbefore,
          List.length_cons, Nat.add_assoc, Nat.add_comm 1]

theorem readEntries_error {readLine : List Char → LineReading α}
    {path : String} {rows : List (List Char)} {error : Error} {number : Nat}
    (h : readEntries readLine path number rows = .error error) :
    ∃ line content, error = .malformedLine path line content := by
  obtain ⟨before, line, after, -, -, -, herror⟩ := readEntries_eq_error_iff.mp h
  exact ⟨_, _, herror⟩

/-! ## Grammars of lines -/

/-- A relation between lines and what they hold, nothing or an entry, describes
a reader: the lines that hold something are those which it does not refuse. -/
def Describes (Holds : List Char → Option α → Prop)
    (readLine : List Char → LineReading α) : Prop :=
  ∀ line content, Holds line content ↔
    readLine line ≠ .malformed ∧ (readLine line).value? = content

section Grammar

variable {Holds : List Char → Option α → Prop}
  {readLine : List Char → LineReading α} {path : String}
  {rows : List (List Char)} {number : Nat}

theorem Describes.exists_iff (h : Describes Holds readLine) (line : List Char) :
    (∃ content, Holds line content) ↔ readLine line ≠ .malformed := by
  simp [h line]

/-- A row of lines is accepted exactly if each line holds something, and gives
what they hold, blank lines left out. -/
theorem Describes.readEntries_eq_ok_iff (h : Describes Holds readLine)
    {values : List α} :
    readEntries readLine path number rows = .ok values ↔
      ∃ contents, List.Forall₂ Holds rows contents ∧
        contents.reduceOption = values := by
  have hcontents : ∀ contents, List.Forall₂ Holds rows contents ↔
      (∀ line ∈ rows, readLine line ≠ .malformed) ∧
        rows.map (fun line => (readLine line).value?) = contents := by
    intro contents
    have hHolds : Holds = fun line content =>
        readLine line ≠ .malformed ∧ (readLine line).value? = content := by
      funext line content
      exact propext (h line content)
    rw [hHolds, List.forall₂_and_left, ← List.forall₂_eq_eq_eq,
      List.forall₂_map_left_iff]
  rw [Relift.readEntries_eq_ok_iff]
  simp only [hcontents]
  constructor
  · rintro ⟨hgood, hvalues⟩
    refine ⟨_, ⟨hgood, rfl⟩, ?_⟩
    rw [List.reduceOption, List.filterMap_map]
    exact hvalues
  · rintro ⟨contents, ⟨hgood, rfl⟩, hvalues⟩
    rw [List.reduceOption, List.filterMap_map] at hvalues
    exact ⟨hgood, hvalues⟩

/-- A row of lines is refused for the first line that holds nothing of the
kind. -/
theorem Describes.readEntries_eq_error_iff (h : Describes Holds readLine)
    {e : Error} :
    readEntries readLine path number rows = .error e ↔
      ∃ before line after, rows = before ++ line :: after ∧
        (∀ earlier ∈ before, ∃ content, Holds earlier content) ∧
        (∀ content, ¬ Holds line content) ∧
        e = .malformedLine path (number + before.length)
          (String.ofList line) := by
  simp only [Relift.readEntries_eq_error_iff, h.exists_iff, ← not_exists,
    ne_eq, not_not]

end Grammar

/-! ## Lines of a name map -/

namespace NameMapFile

/-- A name that one line can hold: not empty, without line feeds, and with no
carriage return at its end. -/
def Clean (name : String) : Prop :=
  name ≠ "" ∧ '\n' ∉ name.toList ∧ name.toList.getLast? ≠ some '\r'

instance (name : String) : Decidable (Clean name) :=
  inferInstanceAs (Decidable (_ ∧ _))

/-- The part of a line before the name. -/
def leading (descriptor : Descriptor) : List Char :=
  Text.decimal descriptor.primary.toNat ++
    ' ' :: Text.decimal descriptor.secondary.toNat ++ [' ']

/-- The part of a name that its first line holds. -/
def firstPart (name : String) : List Char :=
  Text.trimReturn (name.toList.takeWhile (· ≠ '\n'))

theorem renderEntry_eq (entry : Descriptor × String) :
    renderEntry entry = leading entry.1 ++ entry.2.toList ++ ['\n'] := by
  simp [renderEntry, leading]

theorem closed_renderEntry (entry : Descriptor × String) :
    Text.Closed (renderEntry entry) :=
  .inr ⟨_, renderEntry_eq entry⟩

theorem splitAtSpace_append {before : List Char} (h : ' ' ∉ before)
    (after : List Char) :
    splitAtSpace (before ++ ' ' :: after) = some (before, after) := by
  induction before with
  | nil => rfl
  | cons c before ih =>
      have hc : c ≠ ' ' := fun hc => h (hc ▸ List.mem_cons_self)
      have hbefore : ' ' ∉ before := fun hmem => h (List.mem_cons_of_mem c hmem)
      rw [List.cons_append, splitAtSpace, if_neg hc, ih hbefore]
      rfl

theorem eq_of_splitAtSpace {text before after : List Char}
    (h : splitAtSpace text = some (before, after)) :
    text = before ++ ' ' :: after := by
  induction text generalizing before with
  | nil => cases h
  | cons c rest ih =>
      rw [splitAtSpace] at h
      by_cases hc : c = ' '
      · rw [if_pos hc] at h
        cases h
        rw [hc, List.nil_append]
      · rw [if_neg hc] at h
        obtain ⟨parts, hrest, hparts⟩ := Option.map_eq_some_iff.mp h
        cases hparts
        rw [ih hrest, List.cons_append]

theorem space_not_mem_of_numeral {text : List Char} {n : Nat}
    (h : Text.Numeral text n) : ' ' ∉ text := by
  intro hspace
  cases h.visible.2 ' ' hspace

/-- A line gives a symbol exactly if it consists of the numerals of the two
words and of the name, which is not empty, with single spaces between them. -/
theorem entry?_eq_some_iff {line : List Char} {entry : Descriptor × String} :
    entry? line = some entry ↔
      ∃ first second, Text.Numeral first entry.1.primary.toNat ∧
        Text.Numeral second entry.1.secondary.toNat ∧ entry.2 ≠ "" ∧
        line = first ++ ' ' :: second ++ ' ' :: entry.2.toList := by
  unfold entry?
  constructor
  · intro h
    simp only [Option.bind_eq_bind, Option.bind_eq_some_iff] at h
    obtain ⟨⟨first, afterFirst⟩, hfirst, ⟨second, name⟩, hsecond, primary,
      hprimary, secondary, hsecondary, hname⟩ := h
    by_cases hempty : name.isEmpty
    · simp [hempty] at hname
    · simp only [hempty, Bool.false_eq_true, if_false, Option.some.injEq] at hname
      subst hname
      have hafter : afterFirst = second ++ ' ' :: name :=
        eq_of_splitAtSpace hsecond
      refine ⟨first, second, Text.wordOfDecimal?_eq_some_iff.mp hprimary,
        Text.wordOfDecimal?_eq_some_iff.mp hsecondary, by simpa using hempty, ?_⟩
      rw [eq_of_splitAtSpace hfirst, hafter, String.toList_ofList]
      simp
  · rintro ⟨first, second, hfirst, hsecond, hname, rfl⟩
    rw [List.append_assoc, List.cons_append]
    simp only [splitAtSpace_append (space_not_mem_of_numeral hfirst),
      splitAtSpace_append (space_not_mem_of_numeral hsecond),
      Text.wordOfDecimal?_eq_some_iff.mpr hfirst,
      Text.wordOfDecimal?_eq_some_iff.mpr hsecond, Option.bind_eq_bind,
      Option.bind_some, String.ofList_toList]
    simp [hname]

/-- A line that gives a symbol ends with its name, which is not empty. -/
theorem eq_of_entry? {line : List Char} {entry : Descriptor × String}
    (h : entry? line = some entry) :
    entry.2 ≠ "" ∧ ∃ before, line = before ++ entry.2.toList := by
  obtain ⟨first, second, -, -, hname, rfl⟩ := entry?_eq_some_iff.mp h
  exact ⟨hname, first ++ ' ' :: second ++ [' '], by simp⟩

theorem entry?_leading (descriptor : Descriptor) (name : List Char) :
    entry? (leading descriptor ++ name) =
      if name.isEmpty then none else some (descriptor, String.ofList name) := by
  have hspace : (' ' : Char).isDigit = false := by decide
  have hline : leading descriptor ++ name =
      Text.decimal descriptor.primary.toNat ++
        ' ' :: (Text.decimal descriptor.secondary.toNat ++ ' ' :: name) := by
    simp [leading]
  unfold entry?
  rw [hline]
  simp only [splitAtSpace_append (Text.not_mem_decimal hspace),
    Text.wordOfDecimal?_decimal, Option.bind_eq_bind, Option.bind_some]

/-- A line that begins with digits is not blank. -/
theorem not_blank_leading (descriptor : Descriptor) (name : List Char) :
    (leading descriptor ++ name).all Text.isBlank = false := by
  obtain ⟨digit, hdigit⟩ :=
    List.exists_mem_of_ne_nil _ (Text.decimal_ne_nil descriptor.primary.toNat)
  have hvisible : Text.isBlank digit = false :=
    Text.isBlank_of_isDigit (Text.isDigit_of_mem_decimal hdigit)
  rw [List.all_eq_false]
  refine ⟨digit, ?_, by simp [hvisible]⟩
  simp [leading, hdigit]

/-- What the first line of a written entry is read as. -/
theorem readLine_leading (descriptor : Descriptor) (name : List Char) :
    readLine (leading descriptor ++ name) =
      if name.isEmpty then .malformed
      else .entry (descriptor, String.ofList name) := by
  rw [readLine, not_blank_leading, entry?_leading]
  cases name.isEmpty <;> rfl

theorem feed_not_mem_leading (descriptor : Descriptor) :
    '\n' ∉ leading descriptor := by
  have hfeed : ('\n' : Char).isDigit = false := by decide
  simp [leading, Text.not_mem_decimal hfeed]

theorem trimReturn_leading (descriptor : Descriptor) (name : List Char) :
    Text.trimReturn (leading descriptor ++ name) =
      leading descriptor ++ Text.trimReturn name := by
  refine Text.trimReturn_append fun _ => ?_
  rw [leading, List.getLast?_concat]
  decide

/-- The first line of a written entry holds the first part of its name; there
are others only if the name has line feeds. -/
theorem lines_renderEntry (descriptor : Descriptor) (name : String) :
    ∃ others, Text.lines (renderEntry (descriptor, name)) =
        (leading descriptor ++ firstPart name) :: others ∧
      ('\n' ∉ name.toList → others = []) := by
  have hfirst : '\n' ∉ leading descriptor ++
      name.toList.takeWhile (· ≠ '\n') := by
    rw [List.mem_append, not_or]
    exact ⟨feed_not_mem_leading descriptor, Text.feed_not_mem_takeWhile _⟩
  rw [renderEntry_eq, firstPart, ← trimReturn_leading]
  rcases Text.feed_cases name.toList with ⟨hnone, hall⟩ | ⟨rest, hrest⟩
  · rw [hall] at hfirst ⊢
    exact ⟨[], Text.lines_feed hfirst [], fun _ => rfl⟩
  · generalize name.toList.takeWhile (· ≠ '\n') = part at hfirst hrest ⊢
    refine ⟨Text.lines (rest ++ ['\n']), ?_, fun hnone => ?_⟩
    · rw [← Text.lines_feed hfirst, hrest]
      simp
    · rw [hrest] at hnone
      simp at hnone

theorem firstPart_of_feedless {name : String} (h : '\n' ∉ name.toList) :
    firstPart name = Text.trimReturn name.toList := by
  rcases Text.feed_cases name.toList with ⟨-, hall⟩ | ⟨rest, hrest⟩
  · rw [firstPart, hall]
  · rw [hrest] at h
    simp at h

theorem firstPart_of_clean {name : String} (h : Clean name) :
    firstPart name = name.toList := by
  obtain ⟨-, hfeed, hreturn⟩ := h
  rw [firstPart_of_feedless hfeed, Text.trimReturn_of_getLast? hreturn]

/-- Only a clean name is all on its first line: nothing of it gets lost, neither
at a line feed nor at the end of the line. -/
theorem clean_of_firstPart {name : String} (hne : firstPart name ≠ [])
    (h : firstPart name = name.toList) : Clean name := by
  have hlength : name.toList.length ≤
      (name.toList.takeWhile (· ≠ '\n')).length := by
    calc name.toList.length
        = (firstPart name).length := by rw [h]
      _ ≤ (name.toList.takeWhile (· ≠ '\n')).length :=
          Text.length_trimReturn_le _
  have hwhole : name.toList.takeWhile (· ≠ '\n') = name.toList :=
    (List.takeWhile_prefix _).eq_of_length_le hlength
  refine ⟨?_, ?_, ?_⟩
  · rintro rfl
    exact hne h
  · rw [← hwhole]
    exact Text.feed_not_mem_takeWhile _
  · intro hlast
    obtain ⟨before, hbefore⟩ := List.getLast?_eq_some_iff.mp hlast
    rw [firstPart, hwhole, hbefore, Text.trimReturn_concat, if_pos rfl] at h
    simpa using congrArg List.length h

/-! ## Name maps -/

section FlatMap

variable {f : α → α} {g : α → List α}

private theorem length_le_flatMap (entries : List α) :
    entries.length ≤ (entries.flatMap fun a => f a :: g a).length := by
  induction entries with
  | nil => exact Nat.le_refl 0
  | cons a rest ih =>
      simp only [List.flatMap_cons, List.length_append, List.length_cons]
      omega

/-- Where each element is turned into at least one, a list that stays the same
has all of its elements stay the same. -/
private theorem eq_of_flatMap_eq_self {entries : List α}
    (h : entries.flatMap (fun a => f a :: g a) = entries) :
    ∀ a ∈ entries, f a = a := by
  induction entries with
  | nil => intro a ha; cases ha
  | cons a rest ih =>
      rw [List.flatMap_cons, List.cons_append] at h
      obtain ⟨hhead, htail⟩ := List.cons.inj h
      have hlength : (g a).length + rest.length ≤ rest.length := by
        calc (g a).length + rest.length
            ≤ (g a ++ rest.flatMap fun a => f a :: g a).length := by
              rw [List.length_append]
              exact Nat.add_le_add_left (length_le_flatMap rest) _
          _ = rest.length := by rw [htail]
      have hnone : g a = [] := List.eq_nil_of_length_eq_zero (by omega)
      rw [hnone, List.nil_append] at htail
      intro b hb
      rcases List.mem_cons.mp hb with rfl | hb
      · exact hhead
      · exact ih htail b hb

end FlatMap

/-- A written name map is read line by line, entry after entry. -/
theorem parse_render_eq (names : NameMap) (path : String) :
    parse path (render names) =
      readEntries readLine path 1
        (names.toList.flatMap fun entry => Text.lines (renderEntry entry)) := by
  rw [parse, readText, render, String.toList_ofList,
    Text.lines_flatMap closed_renderEntry]

/-- Names without line feeds take one line each, and each is read back as far
as its line holds it. -/
theorem parse_render_of_feedless {names : NameMap} {path : String}
    {entries : List (Descriptor × String)}
    (h : ∀ entry ∈ names.toList, '\n' ∉ entry.2.toList) :
    parse path (render names) = .ok entries ↔
      (∀ entry ∈ names.toList, firstPart entry.2 ≠ []) ∧
        names.toList.map (fun entry =>
          (entry.1, String.ofList (firstPart entry.2))) = entries := by
  have hlines : ∀ entry ∈ names.toList, Text.lines (renderEntry entry) =
      [leading entry.1 ++ firstPart entry.2] := by
    intro entry hentry
    obtain ⟨others, hlines, hothers⟩ := lines_renderEntry entry.1 entry.2
    rw [hothers (h entry hentry)] at hlines
    exact hlines
  have hgood : ∀ entry : Descriptor × String,
      readLine (leading entry.1 ++ firstPart entry.2) ≠ .malformed ↔
        firstPart entry.2 ≠ [] := by
    intro entry
    rw [readLine_leading]
    by_cases hpart : firstPart entry.2 = [] <;> simp [hpart]
  rw [parse_render_eq, List.flatMap_congr hlines, ← List.map_eq_flatMap,
    readEntries_eq_ok_iff, List.forall_mem_map, List.filterMap_map]
  simp only [hgood]
  refine and_congr_right fun hparts => ?_
  have hvalue : ∀ entry ∈ names.toList,
      (readLine (leading entry.1 ++ firstPart entry.2)).value? =
        some (entry.1, String.ofList (firstPart entry.2)) := by
    intro entry hentry
    rw [readLine_leading, if_neg (by simpa using hparts entry hentry)]
    rfl
  have hvalues : names.toList.filterMap ((fun line => (readLine line).value?) ∘
      fun entry => leading entry.1 ++ firstPart entry.2) =
        names.toList.map fun entry =>
          (entry.1, String.ofList (firstPart entry.2)) := by
    rw [← List.filterMap_eq_map']
    exact List.filterMap_congr hvalue
  rw [hvalues]

theorem parse_render_of_clean {names : NameMap} (path : String)
    (h : ∀ entry ∈ names.toList, Clean entry.2) :
    parse path (render names) = .ok names.toList := by
  have hpart : ∀ entry ∈ names.toList, firstPart entry.2 = entry.2.toList :=
    fun entry hentry => firstPart_of_clean (h entry hentry)
  rw [parse_render_of_feedless fun entry hentry => (h entry hentry).2.1]
  constructor
  · intro entry hentry
    rw [hpart entry hentry]
    simpa using (h entry hentry).1
  · have hself : ∀ entry ∈ names.toList,
        (entry.1, String.ofList (firstPart entry.2)) = entry := by
      intro entry hentry
      rw [hpart entry hentry, String.ofList_toList]
    rw [List.map_congr_left hself, List.map_id']

/-- Only clean names are read back: a first line without a name is malformed. -/
theorem clean_of_parse_render {names : NameMap} {path : String}
    (h : parse path (render names) = .ok names.toList) :
    ∀ entry ∈ names.toList, Clean entry.2 := by
  rw [parse_render_eq, readEntries_eq_ok_iff] at h
  obtain ⟨hgood, hvalues⟩ := h
  have hpart : ∀ entry ∈ names.toList, firstPart entry.2 ≠ [] := by
    intro entry hentry hnil
    obtain ⟨others, hlines, -⟩ := lines_renderEntry entry.1 entry.2
    refine hgood (leading entry.1 ++ firstPart entry.2) ?_ ?_
    · exact List.mem_flatMap.mpr ⟨entry, hentry, hlines ▸ List.mem_cons_self⟩
    · rw [readLine_leading, hnil]
      rfl
  have hread : ∀ entry ∈ names.toList, (Text.lines (renderEntry entry)).filterMap
      (fun line => (readLine line).value?) =
        (entry.1, String.ofList (firstPart entry.2)) ::
          (Text.lines (renderEntry entry)).tail.filterMap
            (fun line => (readLine line).value?) := by
    intro entry hentry
    obtain ⟨others, hlines, -⟩ := lines_renderEntry entry.1 entry.2
    have hfirst : readLine (leading entry.1 ++ firstPart entry.2) =
        .entry (entry.1, String.ofList (firstPart entry.2)) := by
      rw [readLine_leading, if_neg (by simpa using hpart entry hentry)]
    rw [hlines, List.filterMap_cons, hfirst]
    rfl
  rw [List.filterMap_flatMap, List.flatMap_congr hread] at hvalues
  intro entry hentry
  have hsame := eq_of_flatMap_eq_self hvalues entry hentry
  refine clean_of_firstPart (hpart entry hentry) ?_
  rw [← String.toList_ofList (l := firstPart entry.2)]
  exact congrArg (fun e => e.2.toList) hsame

/-- The entries of a name map ascend by primary word, then by secondary
word. -/
theorem ascending_toList (names : NameMap) :
    names.toList.Pairwise fun a b => a.1.primary < b.1.primary ∨
      a.1.primary = b.1.primary ∧ a.1.secondary < b.1.secondary :=
  names.ordered.imp Descriptor.compare_eq_lt.mp

/-- A name map reads back as it was written, in ascending order, exactly when
all of its names are clean.  Otherwise the file is refused, for a malformed
line, or gives other entries. -/
theorem parse_render_iff_clean (names : NameMap) (path : String) :
    (parse path (render names) = .ok names.toList ↔
      ∀ entry ∈ names.toList, Clean entry.2) ∧
    (names.toList.Pairwise fun a b => a.1.primary < b.1.primary ∨
      a.1.primary = b.1.primary ∧ a.1.secondary < b.1.secondary) ∧
    ((∃ entry ∈ names.toList, ¬ Clean entry.2) →
      (∃ line content,
        parse path (render names) = .error (.malformedLine path line content)) ∨
      ∃ entries, parse path (render names) = .ok entries ∧
        entries ≠ names.toList) := by
  refine ⟨⟨clean_of_parse_render, parse_render_of_clean path⟩,
    ascending_toList names, ?_⟩
  rintro ⟨entry, hentry, hunclean⟩
  cases hparse : parse path (render names) with
  | error e =>
      obtain ⟨line, content, rfl⟩ := readEntries_error hparse
      exact .inl ⟨line, content, rfl⟩
  | ok entries =>
      refine .inr ⟨entries, rfl, ?_⟩
      rintro rfl
      exact hunclean (clean_of_parse_render hparse entry hentry)

/-- A name with a line feed may pretend to be two entries. -/
example :
    parse "nm.txt" (render (.ofList [(⟨1, 0⟩, "a\n2 0 b")])) =
      .ok [(⟨1, 0⟩, "a"), (⟨2, 0⟩, "b")] := by
  rfl

/-! ## Reading what was written from a reading

A reader drops one carriage return before a line feed, a writer adds none.  So
a name whose line ended with two of them comes back with fewer.
-/

/-- A name without the carriage return at its end. -/
def dropReturn (name : String) : String :=
  String.ofList (Text.trimReturn name.toList)

/-- A name that was read from a file is not empty and has no line feed. -/
theorem names_of_parse {path body : String}
    {entries : List (Descriptor × String)} (h : parse path body = .ok entries) :
    ∀ entry ∈ entries, entry.2 ≠ "" ∧ '\n' ∉ entry.2.toList := by
  intro entry hentry
  obtain ⟨-, hvalues⟩ := readEntries_eq_ok_iff.mp h
  rw [← hvalues] at hentry
  obtain ⟨line, hline, hvalue⟩ := List.mem_filterMap.mp hentry
  have hread : entry? line = some entry := by
    unfold readLine at hvalue
    split at hvalue
    · cases hvalue
    · split at hvalue
      next found hfound => exact hfound.trans hvalue
      next => cases hvalue
  obtain ⟨hne, before, hbefore⟩ := eq_of_entry? hread
  refine ⟨hne, fun hfeed => ?_⟩
  refine Text.feed_not_mem_of_mem_lines hline ?_
  rw [hbefore]
  exact List.mem_append_right before hfeed

/-- Symbols with distinct descriptors that were read from one file and written
to another are read from that one, in ascending order, exactly if none of their
names ends with a carriage return.  Otherwise each such name loses one, and a
name that is nothing else has the file refused. -/
theorem parse_render_of_parse {path body : String}
    {entries : List (Descriptor × String)}
    (hread : parse path body = .ok entries)
    (hdistinct : (entries.map Prod.fst).Nodup) (path' : String) :
    let names : NameMap := .ofList entries
    names.toList.Perm entries ∧
    (names.toList.Pairwise fun a b => a.1.primary < b.1.primary ∨
      a.1.primary = b.1.primary ∧ a.1.secondary < b.1.secondary) ∧
    (parse path' (render names) = .ok names.toList ↔
      ∀ entry ∈ entries, entry.2.toList.getLast? ≠ some '\r') ∧
    ∀ again, parse path' (render names) = .ok again ↔
      (∀ entry ∈ entries, entry.2 ≠ "\r") ∧
        again = names.toList.map fun entry => (entry.1, dropReturn entry.2) := by
  intro names
  have hperm : names.toList.Perm entries := Ordered.toList_ofList_perm hdistinct
  have hnames : ∀ entry ∈ names.toList,
      entry.2 ≠ "" ∧ '\n' ∉ entry.2.toList := by
    intro entry hentry
    exact names_of_parse hread entry (hperm.mem_iff.mp hentry)
  refine ⟨hperm, ascending_toList names, ?_, fun again => ?_⟩
  · constructor
    · intro hsame entry hentry
      exact (clean_of_parse_render hsame entry (hperm.mem_iff.mpr hentry)).2.2
    · intro hreturn
      refine parse_render_of_clean path' fun entry hentry => ?_
      obtain ⟨hne, hfeed⟩ := hnames entry hentry
      exact ⟨hne, hfeed, hreturn entry (hperm.mem_iff.mp hentry)⟩
  · have hpart : ∀ entry ∈ names.toList,
        firstPart entry.2 = Text.trimReturn entry.2.toList :=
      fun entry hentry => firstPart_of_feedless (hnames entry hentry).2
    have hlost : ∀ entry ∈ names.toList,
        (firstPart entry.2 ≠ [] ↔ entry.2 ≠ "\r") := by
      intro entry hentry
      have hreturn : entry.2 = "\r" ↔ entry.2.toList = ['\r'] := by
        rw [← String.toList_inj]
        rfl
      rw [hpart entry hentry, ne_eq, ne_eq, hreturn,
        Text.trimReturn_eq_nil_iff]
      simp [(hnames entry hentry).1]
    have hmap : names.toList.map (fun entry =>
        (entry.1, String.ofList (firstPart entry.2))) =
          names.toList.map fun entry => (entry.1, dropReturn entry.2) := by
      refine List.map_congr_left fun entry hentry => ?_
      rw [hpart entry hentry, dropReturn]
    rw [parse_render_of_feedless fun entry hentry => (hnames entry hentry).2,
      hmap]
    refine and_congr ?_ eq_comm
    constructor
    · intro hparts entry hentry
      have hmem := hperm.mem_iff.mpr hentry
      exact (hlost entry hmem).mp (hparts entry hmem)
    · intro hlines entry hentry
      exact (hlost entry hentry).mpr (hlines entry (hperm.mem_iff.mp hentry))

/-- A line that ends with two carriage returns gives a name that does not come
back. -/
theorem doubled_return_lost :
    parse "symbols.txt" "16 0 main\r\r\n" = .ok [(⟨16, 0⟩, "main\r")] ∧
    parse "nm.txt" (render (.ofList [(⟨16, 0⟩, "main\r")])) ≠
      .ok [(⟨16, 0⟩, "main\r")] ∧
    parse "nm.txt" (render (.ofList [(⟨16, 0⟩, "main\r")])) =
      .ok [(⟨16, 0⟩, "main")] := by
  have hread : parse "symbols.txt" "16 0 main\r\r\n" =
      .ok [(⟨16, 0⟩, "main\r")] := rfl
  obtain ⟨-, -, hsame, hagain⟩ :=
    parse_render_of_parse hread (by simp) "nm.txt"
  refine ⟨hread, fun hback => ?_, (hagain _).mpr ⟨by simp, rfl⟩⟩
  exact absurd (hsame.mp hback _ List.mem_cons_self) (by decide)

/-- A name-map file has a line for each entry, and one more for each line feed
in a name. -/
theorem length_lines_render (names : NameMap) :
    (Text.lines (render names).toList).length =
      names.size + (names.values.flatMap String.toList).count '\n' := by
  have hentry : ∀ entry : Descriptor × String,
      (Text.lines (renderEntry entry)).length =
        1 + entry.2.toList.count '\n' := by
    intro entry
    have hleading : (leading entry.1).count '\n' = 0 :=
      List.count_eq_zero.mpr (feed_not_mem_leading entry.1)
    rw [Text.length_lines (closed_renderEntry entry), renderEntry_eq,
      List.count_append, List.count_append, hleading, List.count_singleton_self]
    omega
  rw [render, String.toList_ofList, Text.lines_flatMap closed_renderEntry,
    Ordered.Map.size, Ordered.Map.values]
  induction names.toList with
  | nil => rfl
  | cons entry rest ih =>
      simp only [List.flatMap_cons, List.length_append, List.length_cons,
        List.map_cons, List.count_append, ih, hentry]
      omega

end NameMapFile

/-- A written address file has a line for each address, with its digits. -/
theorem AddressFile.lines_render (addresses : List Address) :
    Text.lines (AddressFile.render addresses).toList =
      addresses.map fun address => Text.decimal address.toNat := by
  have hclosed : ∀ address : Address,
      Text.Closed (Text.decimal address.toNat ++ ['\n']) :=
    fun address => .inr ⟨_, rfl⟩
  have hline : ∀ address : Address,
      Text.lines (Text.decimal address.toNat ++ ['\n']) =
        [Text.decimal address.toNat] := by
    intro address
    have hreturn : (Text.decimal address.toNat).getLast? ≠ some '\r' :=
      fun hlast => Text.not_mem_decimal (by decide) (List.mem_of_getLast? hlast)
    rw [Text.lines_feed (Text.not_mem_decimal (by decide)) [],
      Text.trimReturn_of_getLast? hreturn]
    rfl
  rw [AddressFile.render, String.toList_ofList, Text.lines_flatMap hclosed]
  simp only [hline]
  exact List.map_eq_flatMap.symm

/-- An address file has a line for each address. -/
theorem AddressFile.length_lines_render (addresses : List Address) :
    (Text.lines (AddressFile.render addresses).toList).length =
      addresses.length := by
  rw [lines_render, List.length_map]

end Relift
