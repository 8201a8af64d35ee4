import Relift.Proofs.Interchange

/-!
# Name-map files

A name-map file is read line by line, like an address file, but blanks are not
forgiven in it: a line that is not blank as a whole begins with the numeral of
the primary word, and all that separates it from the second numeral and this
from the name is one space each.  What follows the second space is the name,
blanks included.  `NameMapFile.Holds` says so without reference to the reader,
and `NameMapFile.describes_holds` that the reader agrees.

## Main result

* `NameMapFile.parse_iff_symbol_lines` — the grammar of name-map files.
-/

namespace Relift.NameMapFile

/-- What a line of a name-map file holds: nothing if all of it is blank, and a
symbol if it consists of the two words of a descriptor, as numerals, and of a
name that is not empty, with single spaces between them. -/
inductive Holds : List Char → Option (Descriptor × String) → Prop where
  | blank {line : List Char} (h : ∀ c ∈ line, Text.isBlank c = true) :
      Holds line none
  | symbol {first second : List Char} {descriptor : Descriptor} {name : String}
      (hfirst : Text.Numeral first descriptor.primary.toNat)
      (hsecond : Text.Numeral second descriptor.secondary.toNat)
      (hname : name ≠ "") :
      Holds (first ++ ' ' :: second ++ ' ' :: name.toList)
        (some (descriptor, name))

theorem readLine_of_blank {line : List Char}
    (h : ∀ c ∈ line, Text.isBlank c = true) : readLine line = .blank := by
  rw [readLine, if_pos (List.all_eq_true.mpr h)]

theorem readLine_of_visible {line : List Char} {c : Char} (hc : c ∈ line)
    (h : Text.isBlank c = false) {found : Option (Descriptor × String)}
    (hfound : entry? line = found) :
    readLine line = found.elim .malformed .entry := by
  have hvisible : ¬ line.all Text.isBlank = true := by
    intro hall
    rw [List.all_eq_true.mp hall c hc] at h
    cases h
  rw [readLine, if_neg hvisible, hfound]
  cases found <;> rfl

theorem readLine_of_holds {line : List Char}
    {content : Option (Descriptor × String)} (h : Holds line content) :
    readLine line ≠ .malformed ∧ (readLine line).value? = content := by
  cases h with
  | blank hline =>
      rw [readLine_of_blank hline]
      exact ⟨by simp, rfl⟩
  | @symbol first second descriptor name hfirst hsecond hname =>
      have hentry : entry? (first ++ ' ' :: second ++ ' ' :: name.toList) =
          some (descriptor, name) :=
        entry?_eq_some_iff.mpr ⟨first, second, hfirst, hsecond, hname, rfl⟩
      obtain ⟨hne, hvisible⟩ := hfirst.visible
      obtain ⟨c, hc⟩ := List.exists_mem_of_ne_nil first hne
      have hmem : c ∈ first ++ ' ' :: second ++ ' ' :: name.toList := by
        simp [hc]
      rw [readLine_of_visible hmem (hvisible c hc) hentry]
      exact ⟨by simp, rfl⟩

theorem holds_of_readLine {line : List Char} (h : readLine line ≠ .malformed) :
    Holds line (readLine line).value? := by
  by_cases hblank : ∀ c ∈ line, Text.isBlank c = true
  · rw [readLine_of_blank hblank]
    exact .blank hblank
  · obtain ⟨c, hc, hvisible⟩ : ∃ c ∈ line, Text.isBlank c = false := by
      simpa using hblank
    cases hentry : entry? line with
    | none =>
        rw [readLine_of_visible hc hvisible hentry] at h
        exact absurd rfl h
    | some entry =>
        rw [readLine_of_visible hc hvisible hentry]
        obtain ⟨first, second, hfirst, hsecond, hname, rfl⟩ :=
          entry?_eq_some_iff.mp hentry
        exact .symbol hfirst hsecond hname

/-- The grammar of lines describes the reader. -/
theorem describes_holds : Describes Holds readLine := by
  intro line content
  constructor
  · exact readLine_of_holds
  · rintro ⟨hgood, rfl⟩
    exact holds_of_readLine hgood

/-- A name-map file is accepted exactly if each of its lines is blank or holds a
symbol; the symbols are given in the order of the lines, with repetitions and
without the blank lines.  Otherwise the first line of another form is reported
as it stands, with its number, which counts from 1 and counts blank lines. -/
theorem parse_iff_symbol_lines (path body : String) :
    (∀ entries, parse path body = .ok entries ↔
      ∃ rows contents, Text.SplitsInto body.toList rows ∧
        List.Forall₂ Holds rows contents ∧
        contents.reduceOption = entries) ∧
    ∀ e, parse path body = .error e ↔
      ∃ before line after,
        Text.SplitsInto body.toList (before ++ line :: after) ∧
        (∀ earlier ∈ before, ∃ content, Holds earlier content) ∧
        (∀ content, ¬ Holds line content) ∧
        e = .malformedLine path (before.length + 1) (String.ofList line) := by
  constructor
  · intro entries
    rw [parse, readText, describes_holds.readEntries_eq_ok_iff]
    simp only [Text.splitsInto_iff, exists_eq_left', exists_and_left]
  · intro e
    rw [parse, readText, describes_holds.readEntries_eq_error_iff]
    simp only [Text.splitsInto_iff, Nat.add_comm 1]

/-- A name keeps its blanks; a second space before a number is not forgiven. -/
example :
    parse "nm.txt" "+16 007  operator new \r\n \t\n16 0 main" =
        .ok [(⟨16, 7⟩, " operator new "), (⟨16, 0⟩, "main")] ∧
      parse "nm.txt" "16 0 main\n\n16  0 main\n" =
        .error (.malformedLine "nm.txt" 3 "16  0 main") := by
  exact ⟨rfl, rfl⟩

end Relift.NameMapFile
