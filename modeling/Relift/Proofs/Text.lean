import Mathlib.Data.List.Induction
import Mathlib.Data.Nat.Digits.Defs
import Relift.Text.Blank
import Relift.Text.Decimal
import Relift.Text.Lines

/-!
# Numbers and lines in texts

What the readers of interchange files need to know about their texts: which
texts spell a number, that decimal digits read back as the number they were
written for, what trimming takes off, and that a text which is cut after a line
feed falls apart into the lines of its two parts.

## Main results

* `wordOfDecimal?_decimal` — a 64-bit number is read back from its digits.
* `wordOfDecimal?_eq_some_iff` — a text is read as a 64-bit number exactly if it
  spells that number.
* `exists_trim`, `trim_between` — trimming takes off blanks at both ends.
* `lines_append` — the lines of a closed text followed by another.
* `lines_feed` — the first line of a text, up to its line feed.
* `splitsInto_iff` — where the lines of a text begin and end.
* `feed_not_mem_of_mem_lines` — no line holds a line feed.
-/

namespace Relift.Text

/-! ## Decimal numbers -/

theorem isDigit_of_mem_decimal {n : Nat} {c : Char} (h : c ∈ decimal n) :
    c.isDigit = true :=
  Nat.isDigit_of_mem_toDigits (by decide) (by decide) h

theorem decimal_ne_nil (n : Nat) : decimal n ≠ [] :=
  Nat.toDigits_ne_nil

/-- A digit is none of the characters below or above the digits. -/
theorem not_mem_decimal {n : Nat} {c : Char} (h : c.isDigit = false) :
    c ∉ decimal n := by
  intro hmem
  rw [isDigit_of_mem_decimal hmem] at h
  cases h

theorem isBlank_of_isDigit {c : Char} (h : c.isDigit = true) :
    isBlank c = false := by
  have hbounds : 48 ≤ c.toNat ∧ c.toNat ≤ 57 := by
    simpa [Char.isDigit, UInt32.le_iff_toNat_le] using h
  simp only [isBlank, inRanges, blankRanges, List.any_cons, List.any_nil,
    Bool.or_eq_false_iff, Bool.and_eq_false_iff, decide_eq_false_iff_not,
    and_true]
  omega

/-! ## Numerals -/

/-- A row of decimal digits, at least one, with its value; the last digit counts
ones. -/
structure Digits (row : List Char) (n : Nat) : Prop where
  ne_nil : row ≠ []
  isDigit : ∀ c ∈ row, c.isDigit = true
  value : Nat.ofDigits 10 (row.reverse.map digitValue) = n

/-- A text that spells a number: digits, after at most one plus sign. -/
inductive Numeral : List Char → Nat → Prop where
  | unsigned {row : List Char} {n : Nat} (h : Digits row n) : Numeral row n
  | signed {row : List Char} {n : Nat} (h : Digits row n) : Numeral ('+' :: row) n

theorem digitsValue_eq_ofDigits (row : List Char) :
    digitsValue row = Nat.ofDigits 10 (row.reverse.map digitValue) := by
  induction row using List.reverseRecOn with
  | nil => rfl
  | append_singleton row c ih =>
      rw [List.reverse_append, List.reverse_singleton, List.singleton_append,
        List.map_cons, Nat.ofDigits_cons, ← ih, Nat.add_comm, digitsValue,
        List.foldl_append]
      rfl

theorem natOfDigits?_eq_some_iff {row : List Char} {n : Nat} :
    natOfDigits? row = some n ↔ Digits row n := by
  unfold natOfDigits?
  constructor
  · intro h
    split at h
    next => cases h
    next hrow =>
      simp only [Bool.or_eq_true, List.isEmpty_iff, Bool.not_eq_true', not_or,
        Bool.not_eq_false] at hrow
      refine ⟨hrow.1, List.all_eq_true.mp hrow.2, ?_⟩
      rw [← digitsValue_eq_ofDigits]
      exact Option.some.inj h
  · rintro ⟨hne, hdigits, hvalue⟩
    have hall : row.all Char.isDigit = true := List.all_eq_true.mpr hdigits
    rw [← digitsValue_eq_ofDigits] at hvalue
    simp [hne, hall, hvalue]

/-- No digit is a sign. -/
theorem Digits.ne_plus {row : List Char} {n : Nat} (h : Digits row n)
    (rest : List Char) : row ≠ '+' :: rest := by
  rintro rfl
  exact absurd (h.isDigit '+' List.mem_cons_self) (by decide)

theorem natOfDecimal?_eq_some_iff {text : List Char} {n : Nat} :
    natOfDecimal? text = some n ↔ Numeral text n := by
  constructor
  · intro h
    unfold natOfDecimal? at h
    split at h
    · exact .signed (natOfDigits?_eq_some_iff.mp h)
    · exact .unsigned (natOfDigits?_eq_some_iff.mp h)
  · intro h
    cases h with
    | unsigned hrow =>
        rw [natOfDecimal?]
        · exact natOfDigits?_eq_some_iff.mpr hrow
        · exact hrow.ne_plus
    | signed hrow => exact natOfDigits?_eq_some_iff.mpr hrow

/-- A text is read as a 64-bit number exactly if it spells that number. -/
theorem wordOfDecimal?_eq_some_iff {text : List Char} {word : UInt64} :
    wordOfDecimal? text = some word ↔ Numeral text word.toNat := by
  rw [← natOfDecimal?_eq_some_iff, wordOfDecimal?]
  cases natOfDecimal? text with
  | none => simp
  | some n =>
      dsimp only
      by_cases hn : n < UInt64.size
      · rw [if_pos hn, Option.some.injEq, Option.some.injEq]
        constructor
        · rintro rfl
          exact (UInt64.toNat_ofNat_of_lt' hn).symm
        · rintro rfl
          exact UInt64.ofNat_toNat
      · rw [if_neg hn, Option.some.injEq]
        constructor
        · intro h
          cases h
        · rintro rfl
          exact absurd word.toNat_lt hn

/-- The digits of a number spell it. -/
theorem numeral_decimal (n : Nat) : Numeral (decimal n) n := by
  refine .unsigned ⟨decimal_ne_nil n, fun c hc => isDigit_of_mem_decimal hc, ?_⟩
  rw [← digitsValue_eq_ofDigits]
  show Nat.ofDigitChars 10 (Nat.toDigits 10 n) 0 = n
  exact Nat.ofDigitChars_ten_toDigits

/-- A 64-bit number is read back from its digits. -/
theorem wordOfDecimal?_decimal (word : UInt64) :
    wordOfDecimal? (decimal word.toNat) = some word :=
  wordOfDecimal?_eq_some_iff.mpr (numeral_decimal word.toNat)

/-- A numeral is not empty and has no blanks. -/
theorem Numeral.visible {text : List Char} {n : Nat} (h : Numeral text n) :
    text ≠ [] ∧ ∀ c ∈ text, isBlank c = false := by
  cases h with
  | unsigned hrow =>
      exact ⟨hrow.ne_nil, fun c hc => isBlank_of_isDigit (hrow.isDigit c hc)⟩
  | signed hrow =>
      refine ⟨List.cons_ne_nil _ _, fun c hc => ?_⟩
      rcases List.mem_cons.mp hc with rfl | hc
      · rfl
      · exact isBlank_of_isDigit (hrow.isDigit c hc)

/-! ## Blanks -/

theorem trim_of_blank {text : List Char} (h : ∀ c ∈ text, isBlank c = true) :
    trim text = [] := by
  have hdrop : text.dropWhile isBlank = [] := by
    rw [← List.append_nil text, List.dropWhile_append_of_pos h]
    rfl
  rw [trim, hdrop]
  rfl

private theorem dropWhile_visible {core : List Char} (hne : core ≠ [])
    (h : ∀ c ∈ core, isBlank c = false) (rest : List Char) :
    (core ++ rest).dropWhile isBlank = core ++ rest := by
  cases core with
  | nil => exact absurd rfl hne
  | cons c core =>
      rw [List.cons_append, List.dropWhile_cons_of_neg]
      simp [h c List.mem_cons_self]

/-- Blanks around a text without blanks are what trimming takes off. -/
theorem trim_between {before core after : List Char}
    (hbefore : ∀ c ∈ before, isBlank c = true)
    (hcore : core ≠ [] ∧ ∀ c ∈ core, isBlank c = false)
    (hafter : ∀ c ∈ after, isBlank c = true) :
    trim (before ++ core ++ after) = core := by
  obtain ⟨hne, hvisible⟩ := hcore
  have hend : core.reverse.dropWhile isBlank = core.reverse := by
    have h := dropWhile_visible (by simpa using hne)
      (fun c hc => hvisible c (List.mem_reverse.mp hc)) []
    rwa [List.append_nil] at h
  rw [trim, List.append_assoc, List.dropWhile_append_of_pos hbefore,
    dropWhile_visible hne hvisible, List.reverse_append,
    List.dropWhile_append_of_pos fun c hc => hafter c (List.mem_reverse.mp hc),
    hend, List.reverse_reverse]

/-- Trimming takes off nothing but blanks. -/
theorem exists_trim (text : List Char) :
    ∃ before after, text = before ++ trim text ++ after ∧
      (∀ c ∈ before, isBlank c = true) ∧ ∀ c ∈ after, isBlank c = true := by
  have hblank : ∀ row : List Char, ∀ c ∈ row.takeWhile isBlank,
      isBlank c = true :=
    fun row => List.all_eq_true.mp List.all_takeWhile
  refine ⟨text.takeWhile isBlank,
    ((text.dropWhile isBlank).reverse.takeWhile isBlank).reverse, ?_,
    hblank text, fun c hc => hblank _ c (List.mem_reverse.mp hc)⟩
  rw [trim, List.append_assoc, ← List.reverse_append,
    List.takeWhile_append_dropWhile, List.reverse_reverse,
    List.takeWhile_append_dropWhile]

/-! ## Lines -/

/-- A line up to its line feed, without the carriage return at its end. -/
def trimReturn (line : List Char) : List Char :=
  closeLine line.reverse

private theorem closeLine_cons (c : Char) (before : List Char) :
    closeLine (c :: before) =
      if c = '\r' then before.reverse else before.reverse ++ [c] := by
  by_cases hc : c = '\r'
  · rw [if_pos hc, hc, closeLine]
  · rw [if_neg hc, closeLine, List.reverse_cons]
    intro rest h
    exact hc (List.cons.inj h).1

theorem trimReturn_concat (before : List Char) (c : Char) :
    trimReturn (before ++ [c]) =
      if c = '\r' then before else before ++ [c] := by
  simp [trimReturn, closeLine_cons]

theorem trimReturn_of_getLast? {line : List Char}
    (h : line.getLast? ≠ some '\r') : trimReturn line = line := by
  rcases List.eq_nil_or_concat line with rfl | ⟨before, c, rfl⟩
  · rfl
  · rw [List.concat_eq_append] at h ⊢
    have hc : c ≠ '\r' := by simpa using h
    rw [trimReturn_concat, if_neg hc]

/-- What stands before a line with a visible end is not touched. -/
theorem trimReturn_append {left right : List Char}
    (h : right = [] → left.getLast? ≠ some '\r') :
    trimReturn (left ++ right) = left ++ trimReturn right := by
  rcases List.eq_nil_or_concat right with rfl | ⟨before, c, rfl⟩
  · rw [List.append_nil, trimReturn_of_getLast? (h rfl)]
    exact (List.append_nil left).symm
  · rw [List.concat_eq_append, ← List.append_assoc, trimReturn_concat,
      trimReturn_concat]
    by_cases hc : c = '\r'
    · rw [if_pos hc, if_pos hc]
    · rw [if_neg hc, if_neg hc, List.append_assoc]

/-- At most the last character is dropped. -/
theorem length_trimReturn_le (line : List Char) :
    (trimReturn line).length ≤ line.length := by
  rcases List.eq_nil_or_concat line with rfl | ⟨before, c, rfl⟩
  · exact Nat.le_refl 0
  · rw [List.concat_eq_append, trimReturn_concat]
    by_cases hc : c = '\r'
    · rw [if_pos hc]
      simp
    · exact Nat.le_of_eq (congrArg List.length (if_neg hc))

theorem trimReturn_eq_nil_iff {line : List Char} :
    trimReturn line = [] ↔ line = [] ∨ line = ['\r'] := by
  rcases List.eq_nil_or_concat line with rfl | ⟨before, c, rfl⟩
  · simp [trimReturn, closeLine]
  · rw [List.concat_eq_append, trimReturn_concat]
    by_cases hc : c = '\r'
    · simp [hc]
    · simp [hc, List.append_eq_singleton_iff]

private theorem mem_of_mem_closeLine {c : Char} {current : List Char}
    (h : c ∈ closeLine current) : c ∈ current := by
  cases current with
  | nil => cases h
  | cons last before =>
      rw [closeLine_cons] at h
      by_cases hlast : last = '\r'
      · rw [if_pos hlast, List.mem_reverse] at h
        exact List.mem_cons_of_mem last h
      · rw [if_neg hlast, ← List.reverse_cons, List.mem_reverse] at h
        exact h

private theorem feed_not_mem_linesFrom (text : List Char) :
    ∀ current, '\n' ∉ current → ∀ line ∈ linesFrom current text,
      '\n' ∉ line := by
  induction text with
  | nil =>
      intro current hcurrent line hline
      by_cases hnil : current = []
      · simp [linesFrom, hnil] at hline
      · have hwhole : line = current.reverse := by
          simpa [linesFrom, hnil] using hline
        simpa [hwhole] using hcurrent
  | cons c text ih =>
      intro current hcurrent line hline
      rw [linesFrom] at hline
      by_cases hc : c = '\n'
      · rw [if_pos hc] at hline
        rcases List.mem_cons.mp hline with rfl | hline
        · exact fun hmem => hcurrent (mem_of_mem_closeLine hmem)
        · exact ih [] List.not_mem_nil line hline
      · rw [if_neg hc] at hline
        have hlonger : '\n' ∉ c :: current := by
          simp [Ne.symm hc, hcurrent]
        exact ih (c :: current) hlonger line hline

/-- No line holds a line feed. -/
theorem feed_not_mem_of_mem_lines {text line : List Char}
    (h : line ∈ lines text) : '\n' ∉ line :=
  feed_not_mem_linesFrom text [] List.not_mem_nil line h

private theorem linesFrom_append_of_not_mem {text : List Char}
    (h : '\n' ∉ text) (rest : List Char) :
    ∀ current, linesFrom current (text ++ rest) =
      linesFrom (text.reverse ++ current) rest := by
  induction text with
  | nil => intro current; rfl
  | cons c text ih =>
      intro current
      have hc : c ≠ '\n' := fun hc => h (hc ▸ List.mem_cons_self)
      have htext : '\n' ∉ text := fun hmem => h (List.mem_cons_of_mem c hmem)
      rw [List.cons_append, linesFrom, if_neg hc, ih htext]
      simp

/-- The first line of a text, up to its line feed. -/
theorem lines_feed {line : List Char} (h : '\n' ∉ line) (rest : List Char) :
    lines (line ++ '\n' :: rest) = trimReturn line :: lines rest := by
  rw [lines, linesFrom_append_of_not_mem h, linesFrom, if_pos rfl,
    List.append_nil]
  rfl

private theorem linesFrom_feed_append (text rest : List Char) :
    ∀ current, linesFrom current (text ++ '\n' :: rest) =
      linesFrom current (text ++ ['\n']) ++ lines rest := by
  induction text with
  | nil => intro current; simp [linesFrom, lines]
  | cons c text ih =>
      intro current
      by_cases hc : c = '\n'
      · simp only [List.cons_append, linesFrom, if_pos hc, ih]
      · simp only [List.cons_append, linesFrom, if_neg hc, ih]

/-- A text either has no line feed or begins with a line that has one. -/
theorem feed_cases (text : List Char) :
    ('\n' ∉ text ∧ text.takeWhile (· ≠ '\n') = text) ∨
      ∃ rest, text = text.takeWhile (· ≠ '\n') ++ '\n' :: rest := by
  induction text with
  | nil => exact .inl ⟨List.not_mem_nil, rfl⟩
  | cons c text ih =>
      by_cases hc : c = '\n'
      · exact .inr ⟨text, by simp [hc]⟩
      · have htake : (c :: text).takeWhile (· ≠ '\n') =
            c :: text.takeWhile (· ≠ '\n') :=
          List.takeWhile_cons_of_pos (by simpa using hc)
        rw [htake]
        rcases ih with ⟨hnone, hall⟩ | ⟨rest, hrest⟩
        · refine .inl ⟨?_, congrArg (c :: ·) hall⟩
          simp [hnone, Ne.symm hc]
        · exact .inr ⟨rest, congrArg (c :: ·) hrest⟩

theorem feed_not_mem_takeWhile (text : List Char) :
    '\n' ∉ text.takeWhile (· ≠ '\n') := by
  intro hmem
  simpa using List.all_eq_true.mp List.all_takeWhile _ hmem

/-- A text without line feeds is one line, unless it is empty. -/
theorem lines_of_feedless {text : List Char} (h : '\n' ∉ text) :
    lines text = if text = [] then [] else [text] := by
  have hlines : lines text = linesFrom text.reverse [] := by
    have hfrom := linesFrom_append_of_not_mem h [] []
    rwa [List.append_nil, List.append_nil] at hfrom
  rw [hlines, linesFrom, List.reverse_reverse]
  cases text <;> simp

/-- A text and its lines.  A line ends before a line feed, or before a carriage
return that a line feed follows; the end of the last line may be missing. -/
inductive SplitsInto : List Char → List (List Char) → Prop where
  | nil : SplitsInto [] []
  | last {line : List Char} (hne : line ≠ []) (hfeed : '\n' ∉ line) :
      SplitsInto line [line]
  | feed {line rest : List Char} {rows : List (List Char)}
      (hfeed : '\n' ∉ line) (hreturn : line.getLast? ≠ some '\r')
      (hrest : SplitsInto rest rows) :
      SplitsInto (line ++ '\n' :: rest) (line :: rows)
  | returnFeed {line rest : List Char} {rows : List (List Char)}
      (hfeed : '\n' ∉ line) (hrest : SplitsInto rest rows) :
      SplitsInto (line ++ '\r' :: '\n' :: rest) (line :: rows)

theorem SplitsInto.lines_eq {text : List Char} {rows : List (List Char)}
    (h : SplitsInto text rows) : lines text = rows := by
  induction h with
  | nil => rfl
  | last hne hfeed => rw [lines_of_feedless hfeed, if_neg hne]
  | feed hfeed hreturn _ ih =>
      rw [lines_feed hfeed, trimReturn_of_getLast? hreturn, ih]
  | @returnFeed line rest rows hfeed _ ih =>
      have hline : '\n' ∉ line ++ ['\r'] := by simp [hfeed]
      have htext : line ++ '\r' :: '\n' :: rest =
          line ++ ['\r'] ++ '\n' :: rest := by simp
      rw [htext, lines_feed hline, trimReturn_concat, if_pos rfl, ih]

theorem splitsInto_lines (text : List Char) : SplitsInto text (lines text) := by
  induction hlength : text.length using Nat.strongRecOn generalizing text with
  | ind n ih =>
      rcases feed_cases text with ⟨hnone, -⟩ | ⟨rest, htext⟩
      · rw [lines_of_feedless hnone]
        by_cases hnil : text = []
        · rw [if_pos hnil, hnil]
          exact .nil
        · rw [if_neg hnil]
          exact .last hnil hnone
      · have hpart := feed_not_mem_takeWhile text
        generalize text.takeWhile (· ≠ '\n') = part at htext hpart
        subst htext
        have hrest : SplitsInto rest (lines rest) := by
          refine ih rest.length ?_ rest rfl
          rw [← hlength, List.length_append, List.length_cons]
          omega
        rw [lines_feed hpart]
        by_cases hreturn : part.getLast? = some '\r'
        · obtain ⟨line, rfl⟩ := List.getLast?_eq_some_iff.mp hreturn
          have hline : '\n' ∉ line :=
            fun hmem => hpart (List.mem_append_left _ hmem)
          rw [trimReturn_concat, if_pos rfl, List.append_assoc]
          exact .returnFeed hline hrest
        · rw [trimReturn_of_getLast? hreturn]
          exact .feed hpart hreturn hrest

/-- The lines of a text are those it splits into. -/
theorem splitsInto_iff {text : List Char} {rows : List (List Char)} :
    SplitsInto text rows ↔ lines text = rows := by
  constructor
  · exact SplitsInto.lines_eq
  · rintro rfl
    exact splitsInto_lines text

/-- A text is closed when it is empty or ends with a line feed. -/
def Closed (text : List Char) : Prop :=
  text = [] ∨ ∃ before, text = before ++ ['\n']

/-- The lines of a closed text do not mingle with those that follow. -/
theorem lines_append {text : List Char} (h : Closed text) (rest : List Char) :
    lines (text ++ rest) = lines text ++ lines rest := by
  rcases h with rfl | ⟨before, rfl⟩
  · rfl
  · rw [List.append_assoc, lines]
    exact linesFrom_feed_append before rest []

theorem lines_flatMap {α : Type} {render : α → List Char}
    (h : ∀ a, Closed (render a)) (entries : List α) :
    lines (entries.flatMap render) = entries.flatMap fun a => lines (render a) := by
  induction entries with
  | nil => rfl
  | cons a rest ih =>
      rw [List.flatMap_cons, List.flatMap_cons, lines_append (h a), ih]

private theorem length_linesFrom_feed (text : List Char) :
    ∀ current, (linesFrom current (text ++ ['\n'])).length =
      text.count '\n' + 1 := by
  induction text with
  | nil => intro current; rfl
  | cons c text ih =>
      intro current
      by_cases hc : c = '\n'
      · rw [List.cons_append, linesFrom, if_pos hc, List.length_cons, ih, hc,
          List.count_cons_self]
      · rw [List.cons_append, linesFrom, if_neg hc, ih,
          List.count_cons_of_ne hc]

/-- A closed text has as many lines as line feeds. -/
theorem length_lines {text : List Char} (h : Closed text) :
    (lines text).length = text.count '\n' := by
  rcases h with rfl | ⟨before, rfl⟩
  · rfl
  · rw [lines, length_linesFrom_feed, List.count_append]
    rfl

end Relift.Text
