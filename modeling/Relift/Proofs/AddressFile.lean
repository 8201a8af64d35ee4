import Relift.Proofs.Interchange

/-!
# Address files

An address file is read line by line.  A line may be blank, or it may hold one
address, as a numeral with blanks around it; `AddressFile.Holds` says so without
reference to the reader, and `AddressFile.describes_holds` that the reader
agrees.  From this the grammar of whole files follows, with the place of the
first line that breaks it.

What is written has one numeral a line and nothing else, so it is in the
grammar, and each address comes back.

## Main results

* `AddressFile.parse_iff_holds` — the grammar of address files.
* `AddressFile.written_read_back` — addresses come back as they were written.
-/

namespace Relift.AddressFile

/-! ## What a line holds -/

/-- What a line of an address file holds: nothing if all of it is blank, and an
address if a numeral with its value stands between blanks. -/
inductive Holds : List Char → Option Address → Prop where
  | blank {line : List Char} (h : ∀ c ∈ line, Text.isBlank c = true) :
      Holds line none
  | address {before numeral after : List Char} {address : Address}
      (hbefore : ∀ c ∈ before, Text.isBlank c = true)
      (hnumeral : Text.Numeral numeral address.toNat)
      (hafter : ∀ c ∈ after, Text.isBlank c = true) :
      Holds (before ++ numeral ++ after) (some address)

theorem readLine_of_trim_eq_nil {line : List Char} (h : Text.trim line = []) :
    readLine line = .blank := by
  rw [readLine, h]
  rfl

theorem readLine_of_trim_ne_nil {line : List Char} (h : Text.trim line ≠ []) :
    readLine line =
      (Text.wordOfDecimal? (Text.trim line)).elim .malformed .entry := by
  have hvisible : (Text.trim line).isEmpty = false := by simpa using h
  rw [readLine]
  simp only [hvisible, Bool.false_eq_true, if_false]
  cases Text.wordOfDecimal? (Text.trim line) <;> rfl

theorem readLine_of_holds {line : List Char} {content : Option Address}
    (h : Holds line content) :
    readLine line ≠ .malformed ∧ (readLine line).value? = content := by
  cases h with
  | blank hline =>
      rw [readLine_of_trim_eq_nil (Text.trim_of_blank hline)]
      exact ⟨by simp, rfl⟩
  | @address before numeral after address hbefore hnumeral hafter =>
      have htrim : Text.trim (before ++ numeral ++ after) = numeral :=
        Text.trim_between hbefore hnumeral.visible hafter
      have hne : Text.trim (before ++ numeral ++ after) ≠ [] := by
        rw [htrim]
        exact hnumeral.visible.1
      rw [readLine_of_trim_ne_nil hne, htrim,
        Text.wordOfDecimal?_eq_some_iff.mpr hnumeral]
      exact ⟨by simp, rfl⟩

theorem holds_of_readLine {line : List Char} (h : readLine line ≠ .malformed) :
    Holds line (readLine line).value? := by
  obtain ⟨before, after, hline, hbefore, hafter⟩ := Text.exists_trim line
  by_cases hempty : Text.trim line = []
  · rw [readLine_of_trim_eq_nil hempty]
    refine .blank fun c hc => ?_
    rw [hline, hempty, List.append_nil] at hc
    rcases List.mem_append.mp hc with hc | hc
    · exact hbefore c hc
    · exact hafter c hc
  · rw [readLine_of_trim_ne_nil hempty] at h ⊢
    cases hword : Text.wordOfDecimal? (Text.trim line) with
    | none =>
        rw [hword] at h
        exact absurd rfl h
    | some address =>
        have hnumeral := Text.wordOfDecimal?_eq_some_iff.mp hword
        have hholds := Holds.address hbefore hnumeral hafter
        rw [← hline] at hholds
        exact hholds

/-- The grammar of lines describes the reader. -/
theorem describes_holds : Describes Holds readLine := by
  intro line content
  constructor
  · exact readLine_of_holds
  · rintro ⟨hgood, rfl⟩
    exact holds_of_readLine hgood

/-- An address file is accepted exactly if each of its lines is blank or holds
an address; the addresses are given in the order of the lines, blank lines left
out.  Otherwise the first line of another form is reported as it stands, with
its number, which counts from 1 and counts blank lines. -/
theorem parse_iff_holds (path body : String) :
    (∀ addresses, parse path body = .ok addresses ↔
      ∃ rows contents, Text.SplitsInto body.toList rows ∧
        List.Forall₂ Holds rows contents ∧
        contents.reduceOption = addresses) ∧
    ∀ e, parse path body = .error e ↔
      ∃ before line after,
        Text.SplitsInto body.toList (before ++ line :: after) ∧
        (∀ earlier ∈ before, ∃ content, Holds earlier content) ∧
        (∀ content, ¬ Holds line content) ∧
        e = .malformedLine path (before.length + 1) (String.ofList line) := by
  constructor
  · intro addresses
    rw [parse, readText, describes_holds.readEntries_eq_ok_iff]
    simp only [Text.splitsInto_iff, exists_eq_left', exists_and_left]
  · intro e
    rw [parse, readText, describes_holds.readEntries_eq_error_iff]
    simp only [Text.splitsInto_iff, Nat.add_comm 1]

/-- The blank second line is counted, and the line is reported with its blank. -/
example :
    parse "seeds.txt" "1\r\n\t\n +0022\n0x3 \n" =
      .error (.malformedLine "seeds.txt" 4 "0x3 ") := by
  rfl

/-- A text lists an address: one of its lines holds it. -/
def Lists (body : String) (address : Address) : Prop :=
  ∃ rows, Text.SplitsInto body.toList rows ∧
    ∃ line ∈ rows, Holds line (some address)

/-- The addresses of an address file are those that it lists. -/
theorem mem_iff_lists {path body : String} {addresses : List Address}
    (h : parse path body = .ok addresses) (address : Address) :
    address ∈ addresses ↔ Lists body address := by
  obtain ⟨hgood, rfl⟩ := readEntries_eq_ok_iff.mp h
  have hline : ∀ line ∈ Text.lines body.toList,
      (Holds line (some address) ↔ (readLine line).value? = some address) := by
    intro line hmem
    rw [describes_holds line]
    exact and_iff_right (hgood line hmem)
  simp only [Lists, Text.splitsInto_iff, exists_eq_left', List.mem_filterMap]
  exact exists_congr fun line => and_congr_right fun hmem => (hline line hmem).symm

/-! ## What is written -/

/-- The digits of an address are a line that holds it. -/
theorem holds_decimal (address : Address) :
    Holds (Text.decimal address.toNat) (some address) := by
  have hholds : Holds ([] ++ Text.decimal address.toNat ++ []) (some address) :=
    .address (by simp) (Text.numeral_decimal address.toNat) (by simp)
  rwa [List.nil_append, List.append_nil] at hholds

theorem parse_render (addresses : List Address) (path : String) :
    parse path (render addresses) = .ok addresses := by
  have hlines : List.Forall₂ Holds (Text.lines (render addresses).toList)
      (addresses.map some) := by
    rw [lines_render, List.forall₂_map_left_iff, List.forall₂_map_right_iff,
      List.forall₂_same]
    exact fun address _ => holds_decimal address
  have hvalues : (addresses.map some).reduceOption = addresses := by
    rw [List.reduceOption, List.filterMap_map]
    exact List.filterMap_some
  exact describes_holds.readEntries_eq_ok_iff.mpr ⟨_, hlines, hvalues⟩

/-- Addresses come back as they were written, in their order and with their
repetitions; so what was read from one file may be written to another and is
read again from there. -/
theorem written_read_back (path : String) :
    (∀ addresses, parse path (render addresses) = .ok addresses) ∧
    ∀ source body addresses, parse source body = .ok addresses →
      parse path (render addresses) = .ok addresses := by
  have hback : ∀ addresses, parse path (render addresses) = .ok addresses :=
    fun addresses => parse_render addresses path
  exact ⟨hback, fun _ _ addresses _ => hback addresses⟩

end Relift.AddressFile
