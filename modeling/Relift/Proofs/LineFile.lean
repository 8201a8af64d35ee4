import Relift.Proofs.Interchange

/-!
# Files of lines as a whole

A reader of an interchange file looks at one line at a time and knows of the
others only how many there were.  Two laws follow for whole texts, whatever the
reader makes of a line.

A text that is closed may be followed by another one, and is read as it would be
alone; so is the other, but for the numbers of its lines (`Joined`).  On rows of
lines this is a reading that starts at a later number (`readEntries_append`,
`readEntries_later`), and a closed text is a row of lines to which the lines of
the other are added (`Text.lines_append`).

How lines end is of no account: a carriage return before each line feed belongs
to the end of the line and is never seen by the reader.

## Main results

* `readings_joined` — what is read from a text followed by another.
* `readings_withReturns` — what is read from a text with carriage returns before
  its line feeds.
-/

namespace Relift

variable {α : Type} {readLine : List Char → LineReading α} {path : String}

/-! ## Texts that follow one another -/

/-- How the readings of two texts make the reading of both, if the first has a
given number of lines: the first refusal counts, one of the second text with a
later line number, and without refusals the entries follow one another. -/
inductive Joined (count : Nat) :
    Except Error (List α) → Except Error (List α) → Except Error (List α) →
      Prop where
  | first (e : Error) (second : Except Error (List α)) :
      Joined count (.error e) second (.error e)
  | second (entries : List α) (path : String) (line : Nat) (content : String) :
      Joined count (.ok entries) (.error (.malformedLine path line content))
        (.error (.malformedLine path (line + count) content))
  | both (entries more : List α) :
      Joined count (.ok entries) (.ok more) (.ok (entries ++ more))

/-- The readings of two texts leave no choice for the reading of both. -/
theorem Joined.unique {count : Nat} {first second both both' :
    Except Error (List α)} (h : Joined count first second both)
    (h' : Joined count first second both') : both = both' := by
  cases h <;> cases h' <;> rfl

/-- Lines after others are read from a later number on, and only if the others
are accepted. -/
theorem readEntries_append (rows others : List (List Char)) :
    ∀ number, readEntries readLine path number (rows ++ others) =
      (readEntries readLine path number rows).bind fun entries =>
        (readEntries readLine path (number + rows.length) others).map
          (entries ++ ·) := by
  induction rows with
  | nil =>
      intro number
      show readEntries readLine path number others =
        (readEntries readLine path number others).map fun more => [] ++ more
      cases readEntries readLine path number others <;> rfl
  | cons line rest ih =>
      intro number
      have hnumber : number + (line :: rest).length = number + 1 + rest.length := by
        rw [List.length_cons]
        omega
      rw [hnumber, List.cons_append, readEntries, readEntries]
      cases readLine line with
      | blank => exact ih (number + 1)
      | entry value =>
          show (readEntries readLine path (number + 1) (rest ++ others)).map _ = _
          rw [ih]
          cases readEntries readLine path (number + 1) rest with
          | error e => rfl
          | ok entries =>
              cases readEntries readLine path (number + 1 + rest.length) others <;>
                rfl
      | malformed => rfl

/-- The number at which a reading starts only moves the line of a refusal. -/
theorem readEntries_later (rows : List (List Char)) (number count : Nat) :
    Joined count (.ok []) (readEntries readLine path number rows)
      (readEntries readLine path (number + count) rows) := by
  cases hread : readEntries readLine path number rows with
  | ok values =>
      have hlater : readEntries readLine path (number + count) rows =
          .ok values :=
        readEntries_eq_ok_iff.mpr (readEntries_eq_ok_iff.mp hread)
      rw [hlater]
      exact .both [] values
  | error e =>
      obtain ⟨before, line, after, hrows, hbefore, hline, rfl⟩ :=
        readEntries_eq_error_iff.mp hread
      have hlater : readEntries readLine path (number + count) rows =
          .error (.malformedLine path (number + before.length + count)
            (String.ofList line)) := by
        refine readEntries_eq_error_iff.mpr
          ⟨before, line, after, hrows, hbefore, hline, ?_⟩
        rw [Nat.add_right_comm]
      rw [hlater]
      exact .second [] path _ _

theorem joined_readEntries (rows others : List (List Char)) (number : Nat) :
    Joined rows.length (readEntries readLine path number rows)
      (readEntries readLine path number others)
      (readEntries readLine path number (rows ++ others)) := by
  rw [readEntries_append]
  cases readEntries readLine path number rows with
  | error e => exact .first e _
  | ok entries =>
      have hlater : Joined rows.length (.ok [])
          (readEntries readLine path number others)
          (readEntries readLine path (number + rows.length) others) :=
        readEntries_later others number rows.length
      generalize readEntries readLine path number others = second at hlater ⊢
      generalize readEntries readLine path (number + rows.length) others = later
        at hlater ⊢
      cases hlater with
      | second _ path line content => exact .second entries path line content
      | both _ more => exact .both entries more

/-- A closed text and the text after it are read one after the other. -/
theorem joined_readText {text : String} (h : Text.Closed text.toList)
    (rest : String) :
    Joined (Text.lines text.toList).length (readText readLine path text)
      (readText readLine path rest) (readText readLine path (text ++ rest)) := by
  unfold readText
  rw [String.toList_append, Text.lines_append h]
  exact joined_readEntries _ _ 1

/-- What is read from a closed text followed by another: the refusal of the
first, or else the refusal of the second with the lines of the first counted in,
or else the entries of both. -/
theorem readings_joined (path : String) {text : String}
    (h : Text.Closed text.toList) (rest : String) :
    Joined (Text.lines text.toList).length (AddressFile.parse path text)
      (AddressFile.parse path rest) (AddressFile.parse path (text ++ rest)) ∧
    Joined (Text.lines text.toList).length (NameMapFile.parse path text)
      (NameMapFile.parse path rest) (NameMapFile.parse path (text ++ rest)) :=
  ⟨joined_readText h rest, joined_readText h rest⟩

/-- The blank line at the end of the first text is counted, and its carriage
return does not reach into the second. -/
theorem joined_refusal_counted :
    Text.Closed "16\r\n\r\n".toList ∧
    AddressFile.parse "seeds.txt" "main" =
      .error (.malformedLine "seeds.txt" 1 "main") ∧
    AddressFile.parse "seeds.txt" ("16\r\n\r\n" ++ "main") =
      .error (.malformedLine "seeds.txt" 3 "main") ∧
    Text.Closed "16 0 main\r\n\r\n".toList ∧
    NameMapFile.parse "nm.txt" " 32 0 helper" =
      .error (.malformedLine "nm.txt" 1 " 32 0 helper") ∧
    NameMapFile.parse "nm.txt" ("16 0 main\r\n\r\n" ++ " 32 0 helper") =
      .error (.malformedLine "nm.txt" 3 " 32 0 helper") := by
  have hseeds : Text.Closed "16\r\n\r\n".toList :=
    .inr ⟨"16\r\n\r".toList, rfl⟩
  have hseed : AddressFile.parse "seeds.txt" "16\r\n\r\n" = .ok [16] := rfl
  have hnoSeed : AddressFile.parse "seeds.txt" "main" =
      .error (.malformedLine "seeds.txt" 1 "main") := rfl
  obtain ⟨hlisted, -⟩ := readings_joined "seeds.txt" hseeds "main"
  rw [hseed, hnoSeed] at hlisted
  have hclosed : Text.Closed "16 0 main\r\n\r\n".toList :=
    .inr ⟨"16 0 main\r\n\r".toList, rfl⟩
  have hfirst : NameMapFile.parse "nm.txt" "16 0 main\r\n\r\n" =
      .ok [(⟨16, 0⟩, "main")] := rfl
  have hsecond : NameMapFile.parse "nm.txt" " 32 0 helper" =
      .error (.malformedLine "nm.txt" 1 " 32 0 helper") := rfl
  obtain ⟨-, hjoined⟩ := readings_joined "nm.txt" hclosed " 32 0 helper"
  rw [hfirst, hsecond] at hjoined
  exact ⟨hseeds, hnoSeed, hlisted.unique (.second _ "seeds.txt" 1 _), hclosed,
    hsecond, hjoined.unique (.second _ "nm.txt" 1 _)⟩

/-- A text that is not closed runs into the one after it. -/
example : AddressFile.parse "seeds.txt" ("1" ++ "2\n") = .ok [12] := by
  rfl

/-! ## Line ends -/

namespace Text

/-- A text with a carriage return put before each line feed. -/
def withReturns (text : List Char) : List Char :=
  text.flatMap fun c => if c = '\n' then ['\r', '\n'] else [c]

theorem withReturns_of_feedless {text : List Char} (h : '\n' ∉ text) :
    withReturns text = text := by
  induction text with
  | nil => rfl
  | cons c text ih =>
      have hc : c ≠ '\n' := fun hc => h (hc ▸ List.mem_cons_self)
      have htext : '\n' ∉ text := fun hmem => h (List.mem_cons_of_mem c hmem)
      show (if c = '\n' then ['\r', '\n'] else [c]) ++ withReturns text = c :: text
      rw [if_neg hc, ih htext]
      rfl

theorem withReturns_feed {line : List Char} (h : '\n' ∉ line)
    (rest : List Char) :
    withReturns (line ++ '\n' :: rest) =
      line ++ '\r' :: '\n' :: withReturns rest := by
  have hline : withReturns line = line := withReturns_of_feedless h
  unfold withReturns at hline ⊢
  rw [List.flatMap_append, hline, List.flatMap_cons, if_pos rfl]
  rfl

/-- Each line that ended with a line feed alone now ends with both. -/
theorem SplitsInto.withReturns {text : List Char} {rows : List (List Char)}
    (h : SplitsInto text rows) (hreturn : '\r' ∉ text) :
    SplitsInto (withReturns text) rows := by
  induction h with
  | nil => exact .nil
  | last hne hfeed =>
      rw [withReturns_of_feedless hfeed]
      exact .last hne hfeed
  | @feed line rest rows hfeed _ _ ih =>
      rw [withReturns_feed hfeed]
      apply SplitsInto.returnFeed hfeed
      apply ih
      intro hmem
      exact hreturn (by simp [hmem])
  | returnFeed => simp at hreturn

theorem lines_withReturns {text : List Char} (h : '\r' ∉ text) :
    lines (withReturns text) = lines text :=
  ((splitsInto_lines text).withReturns h).lines_eq

end Text

/-- It does not matter whether the lines of a text end with line feeds or with
carriage returns and line feeds: the same is read from it, or the same line is
refused. -/
theorem readings_withReturns (path : String) {body : String}
    (h : '\r' ∉ body.toList) :
    AddressFile.parse path (String.ofList (Text.withReturns body.toList)) =
      AddressFile.parse path body ∧
    NameMapFile.parse path (String.ofList (Text.withReturns body.toList)) =
      NameMapFile.parse path body := by
  have hlines : Text.lines
      (String.ofList (Text.withReturns body.toList)).toList =
        Text.lines body.toList := by
    rw [String.toList_ofList, Text.lines_withReturns h]
  constructor
  · rw [AddressFile.parse, AddressFile.parse, readText, readText, hlines]
  · rw [NameMapFile.parse, NameMapFile.parse, readText, readText, hlines]

/-- Addresses are read alike; names keep their blanks and get no carriage
returns. -/
theorem returned_map_read :
    '\r' ∉ "16\n\n32".toList ∧
    AddressFile.parse "seeds.txt" "16\r\n\r\n32" = .ok [16, 32] ∧
    '\r' ∉ "16 0 main \n\n32 0 helper".toList ∧
    NameMapFile.parse "nm.txt" "16 0 main \r\n\r\n32 0 helper" =
      .ok [(⟨16, 0⟩, "main "), (⟨32, 0⟩, "helper")] := by
  have hseeds : '\r' ∉ "16\n\n32".toList := by decide
  have hreturnedSeeds :
      String.ofList (Text.withReturns "16\n\n32".toList) = "16\r\n\r\n32" := by
    decide
  have hlisted : AddressFile.parse "seeds.txt" "16\n\n32" = .ok [16, 32] := rfl
  obtain ⟨hsameSeeds, -⟩ := readings_withReturns "seeds.txt" hseeds
  rw [hreturnedSeeds, hlisted] at hsameSeeds
  have hnone : '\r' ∉ "16 0 main \n\n32 0 helper".toList := by decide
  have hreturned :
      String.ofList (Text.withReturns "16 0 main \n\n32 0 helper".toList) =
        "16 0 main \r\n\r\n32 0 helper" := by decide
  have hread : NameMapFile.parse "nm.txt" "16 0 main \n\n32 0 helper" =
      .ok [(⟨16, 0⟩, "main "), (⟨32, 0⟩, "helper")] := rfl
  obtain ⟨-, hsame⟩ := readings_withReturns "nm.txt" hnone
  rw [hreturned, hread] at hsame
  exact ⟨hseeds, hsameSeeds, hnone, hsame⟩

/-- Where a carriage return stands before a line feed already, the name gets
one. -/
example :
    NameMapFile.parse "nm.txt"
        (String.ofList (Text.withReturns "16 0 main\r\n".toList)) =
      .ok [(⟨16, 0⟩, "main\r")] := by
  rfl

end Relift
