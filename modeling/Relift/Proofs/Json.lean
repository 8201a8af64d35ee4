import Relift.Json.Printer
import Relift.Json.Reader
import Relift.Proofs.Text

/-!
# Reading JSON texts back

A value is written in two layouts, which differ in the separators between their
tokens and in nothing else.  So writing and reading meet at the row of tokens of
a value (`row`): both layouts spell it (`spells_compact`, `spells_pretty`), and
the machine that reads tokens makes the value out of it (`steps?_row`).

A number has no closing mark, and what follows it must not go on with it.
`Spells` therefore speaks of a text in front of any `Bounded` rest, and then
texts may be put one after another.

## Main results

* `stringUnits?_written`, `spelled?_units` — every text comes back from its
  escapes.
* `magnitude?_decimal` — a whole number is read up to its last digit.
* `parse?_of_spells` — a text that spells the tokens of a value is read as that
  value.
-/

namespace Relift.Json

/-! ## Tokens in front of a rest -/

/-- Whether a character can go on with a number. -/
def continuesNumber (c : Char) : Bool :=
  c.isDigit || c == '.' || c == 'e' || c == 'E'

/-- A text does not go on with a number that stands before it. -/
def Bounded (text : List Char) : Prop :=
  ∀ c ∈ text.head?, continuesNumber c = false

theorem bounded_nil : Bounded [] := by
  intro c hc
  cases hc

theorem bounded_cons {c : Char} (h : continuesNumber c = false)
    (rest : List Char) : Bounded (c :: rest) := by
  intro first hfirst
  cases hfirst
  exact h

theorem Bounded.append {text rest : List Char} (h : Bounded text)
    (hrest : Bounded rest) : Bounded (text ++ rest) := by
  cases text with
  | nil => exact hrest
  | cons c text => exact h

theorem tokens?_separator {c : Char} (h : isSeparator c = true)
    (rest : List Char) : tokens? (c :: rest) = tokens? rest := by
  rw [tokens?, if_pos h]

theorem tokens?_token {c : Char} {rest after : List Char} {token : Token}
    (hc : isSeparator c = false)
    (h : nextToken? c rest = some (token, after)) :
    tokens? (c :: rest) = (tokens? after).map fun row => token :: row := by
  rw [tokens?, hc, if_neg Bool.false_ne_true]
  split
  next hnone => cases hnone.symm.trans h
  next token' after' hsome =>
    cases hsome.symm.trans h
    rfl

/-- A text spells a row of tokens, whatever stands after it. -/
def Spells (text : List Char) (row : List Token) : Prop :=
  ∀ rest, Bounded rest →
    tokens? (text ++ rest) = (tokens? rest).map fun following => row ++ following

namespace Spells

variable {text other : List Char} {row others : List Token}

theorem nil : Spells [] [] := by
  intro rest _
  simp

/-- One text after another spells one row after the other. -/
theorem append (h : Spells text row) (hother : Spells other others)
    (hbounded : Bounded other) : Spells (text ++ other) (row ++ others) := by
  intro rest hrest
  rw [List.append_assoc, h _ (hbounded.append hrest), hother rest hrest]
  simp [Function.comp_def]

/-- Separators spell nothing. -/
theorem after_gap {gap : List Char} (hgap : ∀ c ∈ gap, isSeparator c = true)
    (h : Spells text row) : Spells (gap ++ text) row := by
  induction gap with
  | nil => exact h
  | cons c gap ih =>
      have htext := ih fun c hc => hgap c (List.mem_cons_of_mem _ hc)
      intro rest hrest
      rw [List.cons_append, List.cons_append,
        tokens?_separator (hgap c List.mem_cons_self)]
      exact htext rest hrest

/-- The tokens of a whole text. -/
theorem tokens?_eq (h : Spells text row) : tokens? text = some row := by
  have hwhole := h [] bounded_nil
  simpa [tokens?] using hwhole

end Spells

/-- A character is a token of its own and ends a number. -/
structure Mark (c : Char) (token : Token) : Prop where
  separator : isSeparator c = false
  next : ∀ rest, nextToken? c rest = some (token, rest)
  bounds : continuesNumber c = false

theorem mark_openBrace : Mark '\x7b' .openBrace := ⟨rfl, fun _ => rfl, rfl⟩
theorem mark_closeBrace : Mark '\x7d' .closeBrace := ⟨rfl, fun _ => rfl, rfl⟩
theorem mark_openBracket : Mark '[' .openBracket := ⟨rfl, fun _ => rfl, rfl⟩
theorem mark_closeBracket : Mark ']' .closeBracket := ⟨rfl, fun _ => rfl, rfl⟩
theorem mark_comma : Mark ',' .comma := ⟨rfl, fun _ => rfl, rfl⟩
theorem mark_colon : Mark ':' .colon := ⟨rfl, fun _ => rfl, rfl⟩

/-- After a mark any text may follow. -/
theorem Mark.spells {c : Char} {token : Token} (h : Mark c token)
    {text : List Char} {row : List Token} (htext : Spells text row) :
    Spells (c :: text) (token :: row) := by
  intro rest hrest
  rw [List.cons_append, tokens?_token h.separator (h.next _), htext rest hrest]
  simp [Function.comp_def]

/-! ## Strings -/

/-- The part of a string as which a written character is read.  A control
without a short escape comes back as a unit. -/
def unitOf (c : Char) : StringUnit :=
  if (escapeChar c).length = 6 then .unit c.toNat else .char c

theorem hexValue?_hexDigit : ∀ n < 16, hexValue? (hexDigit n) = some n := by
  decide

theorem unitOfHex?_control {n : Nat} (h : n < 0x20) :
    unitOfHex? '0' '0' (hexDigit (n / 16)) (hexDigit (n % 16)) = some n := by
  have hzero : hexValue? '0' = some 0 := by decide
  have hhigh := hexValue?_hexDigit (n / 16) (by omega)
  have hlow := hexValue?_hexDigit (n % 16) (by omega)
  simp only [unitOfHex?, hzero, hhigh, hlow, Option.bind_eq_bind,
    Option.bind_some, Option.some.injEq]
  omega

/-- A character that needs no escape stands for itself. -/
theorem stringUnits?_plain {c : Char} (hquote : c ≠ '"') (hslash : c ≠ '\\')
    (hcontrol : ¬ c.toNat < 0x20) (rest : List Char) :
    stringUnits? (c :: rest) =
      (stringUnits? rest).map fun read => (.char c :: read.1, read.2) := by
  rw [stringUnits?]
  · simp only [hslash, hcontrol, decide_false, Bool.or_self,
      Bool.false_eq_true, if_false]
    cases stringUnits? rest <;> rfl
  · exact hquote
  · intro a b c d tail hc
    exact absurd hc hslash
  · intro e tail hc
    exact absurd hc hslash

theorem stringUnits?_short {e c : Char} (h : shortEscape? e = some c)
    (rest : List Char) :
    stringUnits? ('\\' :: e :: rest) =
      (stringUnits? rest).map fun read => (.char c :: read.1, read.2) := by
  have hunit : e ≠ 'u' := by
    rintro rfl
    cases h
  rw [stringUnits?]
  · rw [h]
    cases stringUnits? rest <;> rfl
  · intro a b c d tail he
    exact absurd he hunit

/-- A written character is read as one part of its string. -/
theorem stringUnits?_escapeChar (c : Char) (rest : List Char) :
    stringUnits? (escapeChar c ++ rest) =
      (stringUnits? rest).map fun read => (unitOf c :: read.1, read.2) := by
  rw [unitOf, escapeChar.eq_def]
  split
  case h_8 hquote hslash hb hf hn hr ht =>
    by_cases hcontrol : c.toNat < 0x20
    · simp only [if_pos hcontrol, List.cons_append, List.nil_append,
        stringUnits?, unitOfHex?_control hcontrol]
      cases stringUnits? rest <;> rfl
    · rw [if_neg hcontrol, List.cons_append, List.nil_append,
        stringUnits?_plain hquote hslash hcontrol]
      rfl
  all_goals exact stringUnits?_short rfl rest

/-- A written text is read part by part, up to the closing quote. -/
theorem stringUnits?_written (text rest : List Char) :
    stringUnits? (text.flatMap escapeChar ++ '"' :: rest) =
      some (text.map unitOf, rest) := by
  induction text with
  | nil => rfl
  | cons c text ih =>
      rw [List.flatMap_cons, List.append_assoc, stringUnits?_escapeChar, ih]
      rfl

theorem spelled?_unit {code : Nat} (h : code < 0xD800)
    (units : List StringUnit) :
    spelled? (.unit code :: units) =
      (spelled? units).map fun text => Char.ofNat code :: text := by
  have hhigh : isHighSurrogate code = false := by
    simp [isHighSurrogate]
    omega
  have hlow : isLowSurrogate code = false := by
    simp [isLowSurrogate]
    omega
  cases units with
  | nil => simp [spelled?, hhigh, hlow]
  | cons unit units =>
    cases unit with
    | char c => simp [spelled?, hhigh, hlow]
    | unit low => simp [spelled?, hhigh, hlow]

/-- Only controls come back as units. -/
theorem unitOf_cases (c : Char) :
    unitOf c = .char c ∨ unitOf c = .unit c.toNat ∧ c.toNat < 0x20 := by
  by_cases hlength : (escapeChar c).length = 6
  · refine .inr ⟨if_pos hlength, ?_⟩
    rw [escapeChar.eq_def] at hlength
    split at hlength
    case h_8 =>
      by_cases hcontrol : c.toNat < 0x20
      · exact hcontrol
      · simp [hcontrol] at hlength
    all_goals simp at hlength
  · exact .inl (if_neg hlength)

/-- The parts of a written text spell the text. -/
theorem spelled?_units (text : List Char) :
    spelled? (text.map unitOf) = some text := by
  induction text with
  | nil => rfl
  | cons c text ih =>
      rw [List.map_cons]
      rcases unitOf_cases c with hchar | ⟨hunit, hcontrol⟩
      · rw [hchar, spelled?, ih]
        rfl
      · rw [hunit, spelled?_unit (by omega), ih, Option.map_some,
          Char.ofNat_toNat]

/-- A string that spells no text is written as half a pair, and that spells no
text either. -/
theorem nextToken?_unspelled (rest : List Char) :
    nextToken? '"' (['\\', 'u', 'd', '8', '0', '0', '"'] ++ rest) =
      some (.string none, rest) := by
  have hcode : unitOfHex? 'd' '8' '0' '0' = some 0xD800 := by decide
  have hspelled : spelled? [.unit 0xD800] = none := by decide
  simp [nextToken?, stringUnits?, hcode, hspelled]

theorem spells_string (text : Option String) :
    Spells (spellString text) [.string text] := by
  intro rest _
  cases text with
  | none => exact tokens?_token rfl (nextToken?_unspelled rest)
  | some text =>
      have hnext : nextToken? '"' (text.toList.flatMap escapeChar ++ '"' :: rest) =
          some (.string (some text), rest) := by
        simp [nextToken?, stringUnits?_written, spelled?_units]
      have htext : spellString (some text) ++ rest =
          '"' :: (text.toList.flatMap escapeChar ++ '"' :: rest) := by
        simp [spellString]
      rw [htext]
      exact tokens?_token rfl hnext

/-! ## Numbers -/

/-- The digits of a number begin with a zero only if it is zero. -/
theorem decimal_ne_zero_cons {n : Nat} (h : n ≠ 0) (tail : List Char) :
    Text.decimal n ≠ '0' :: tail := by
  induction n using Nat.strongRecOn generalizing tail with
  | ind n ih =>
    by_cases hsmall : n < 10
    · have hdigit : ∀ m < 10, m ≠ 0 → Nat.digitChar m ≠ '0' := by decide
      rw [Text.decimal, Nat.toDigits_of_lt_base hsmall]
      intro htail
      exact hdigit n hsmall h (List.cons.inj htail).1
    · have hlast : Text.decimal n =
          Text.decimal (n / 10) ++ [Nat.digitChar (n % 10)] :=
        Nat.toDigits_of_base_le (by decide) (by omega)
      intro htail
      cases hfirst : Text.decimal (n / 10) with
      | nil => exact Text.decimal_ne_nil _ hfirst
      | cons c digits =>
          rw [hlast, hfirst, List.cons_append] at htail
          cases (List.cons.inj htail).1
          exact ih (n / 10) (by omega) (by omega) digits hfirst

theorem someDigits?_decimal (n : Nat) {rest : List Char} (h : Bounded rest) :
    someDigits? (Text.decimal n ++ rest) = some (Text.decimal n, rest) := by
  have hdigits : ∀ c ∈ Text.decimal n, c.isDigit = true :=
    fun c hc => Text.isDigit_of_mem_decimal hc
  have hends : rest.takeWhile Char.isDigit = [] ∧
      rest.dropWhile Char.isDigit = rest := by
    cases rest with
    | nil => exact ⟨rfl, rfl⟩
    | cons c rest =>
        have hc : c.isDigit = false := by
          have hbound := h c rfl
          simp only [continuesNumber, Bool.or_eq_false_iff] at hbound
          exact hbound.1.1.1
        simp [hc]
  rw [someDigits?, List.takeWhile_append_of_pos hdigits,
    List.dropWhile_append_of_pos hdigits, hends.1, hends.2]
  simp [Text.decimal_ne_nil]

theorem wholePart?_decimal (n : Nat) {rest : List Char} (h : Bounded rest) :
    wholePart? (Text.decimal n ++ rest) = some (Text.decimal n, rest) := by
  by_cases hzero : n = 0
  · subst hzero
    rfl
  · rw [wholePart?]
    · exact someDigits?_decimal n h
    · intro tail htail
      cases hfirst : Text.decimal n with
      | nil => exact Text.decimal_ne_nil n hfirst
      | cons c digits =>
          rw [hfirst, List.cons_append] at htail
          cases (List.cons.inj htail).1
          exact decimal_ne_zero_cons hzero digits hfirst

/-- A whole number is read up to its last digit. -/
theorem magnitude?_decimal (n : Nat) {rest : List Char} (h : Bounded rest) :
    magnitude? (Text.decimal n ++ rest) = some (Text.decimal n, rest) := by
  have hfraction : fractionPart? rest = some ([], rest) := by
    rw [fractionPart?]
    intro tail htail
    have hpoint := h '.' (by rw [htail]; rfl)
    exact absurd hpoint (by decide)
  have hexponent : exponentPart? rest = some ([], rest) := by
    cases rest with
    | nil => rfl
    | cons c rest =>
        have hbound := h c rfl
        simp only [continuesNumber, Bool.or_eq_false_iff, beq_eq_false_iff_ne]
          at hbound
        simp [exponentPart?, hbound.1.2, hbound.2]
  simp [magnitude?, wholePart?_decimal n h, hfraction, hexponent]

theorem isSeparator_of_isDigit {c : Char} (h : c.isDigit = true) :
    isSeparator c = false := by
  rw [Bool.eq_false_iff]
  intro hseparator
  simp only [isSeparator, Bool.or_eq_true, beq_iff_eq] at hseparator
  rcases hseparator with ((rfl | rfl) | rfl) | rfl <;> exact absurd h (by decide)

theorem nextToken?_digit {c : Char} (h : c.isDigit = true) (rest : List Char) :
    nextToken? c rest =
      (magnitude? (c :: rest)).map fun read => (.number read.1, read.2) := by
  rw [nextToken?.eq_def]
  split
  case h_12 => rfl
  all_goals exact absurd h (by decide)

theorem spells_nat (n : Nat) : Spells (Text.decimal n) [.number (Text.decimal n)] := by
  intro rest hrest
  have hread := magnitude?_decimal n hrest
  cases hdigits : Text.decimal n with
  | nil => exact absurd hdigits (Text.decimal_ne_nil n)
  | cons c digits =>
      have hc : c.isDigit = true :=
        Text.isDigit_of_mem_decimal (hdigits ▸ List.mem_cons_self)
      rw [hdigits, List.cons_append] at hread
      rw [List.cons_append]
      refine tokens?_token (isSeparator_of_isDigit hc) ?_
      rw [nextToken?_digit hc, hread]
      rfl

/-! ## Values -/

mutual

/-- The tokens of a value. -/
def row : Json → List Token
  | .null => [.null]
  | .boolean value => [.boolean value]
  | .number literal => [.number literal]
  | .string text => [.string text]
  | .array elements =>
    .openBracket :: [Token.comma].intercalate (elementRows elements) ++
      [.closeBracket]
  | .object members =>
    .openBrace :: [Token.comma].intercalate (memberRows members) ++ [.closeBrace]

/-- The tokens of the elements of an array. -/
def elementRows : List Json → List (List Token)
  | [] => []
  | element :: rest => row element :: elementRows rest

/-- The tokens of the members of an object. -/
def memberRows : List (Option String × Json) → List (List Token)
  | [] => []
  | (key, value) :: rest => (.string key :: .colon :: row value) :: memberRows rest

end

/-- The tokens of a member of an object. -/
def memberRow (member : Option String × Json) : List Token :=
  .string member.1 :: .colon :: row member.2

/-- The text of a member of an object, for a text of its value. -/
def spellMember (gap : List Char) (spell : Json → List Char)
    (member : Option String × Json) : List Char :=
  spellString member.1 ++ ':' :: (gap ++ spell member.2)

theorem elementRows_eq_map (elements : List Json) :
    elementRows elements = elements.map row := by
  induction elements with
  | nil => simp [elementRows]
  | cons element rest ih => simp [elementRows, ih]

theorem memberRows_eq_map (members : List (Option String × Json)) :
    memberRows members = members.map memberRow := by
  induction members with
  | nil => simp [memberRows]
  | cons member rest ih => simp [memberRows, memberRow, ih]

theorem compactElements_eq_map (elements : List Json) :
    compactElements elements = elements.map spellCompact := by
  induction elements with
  | nil => simp [compactElements]
  | cons element rest ih => simp [compactElements, ih]

theorem compactMembers_eq_map (members : List (Option String × Json)) :
    compactMembers members = members.map (spellMember [] spellCompact) := by
  induction members with
  | nil => simp [compactMembers]
  | cons member rest ih => simp [compactMembers, spellMember, ih]

theorem prettyElements_eq_map (level : Nat) (elements : List Json) :
    prettyElements level elements = elements.map (spellPretty level) := by
  induction elements with
  | nil => simp [prettyElements]
  | cons element rest ih => simp [prettyElements, ih]

theorem prettyMembers_eq_map (level : Nat)
    (members : List (Option String × Json)) :
    prettyMembers level members =
      members.map (spellMember [' '] (spellPretty level)) := by
  induction members with
  | nil => simp [prettyMembers]
  | cons member rest ih => simp [prettyMembers, spellMember, ih]

/-- A value whose numbers are whole and written with the digits of their
values. -/
inductive Plain : Json → Prop where
  | null : Plain .null
  | boolean (value : Bool) : Plain (.boolean value)
  | nat (n : Nat) : Plain (.nat n)
  | string (text : Option String) : Plain (.string text)
  | array {elements : List Json} (h : ∀ element ∈ elements, Plain element) :
      Plain (.array elements)
  | object {members : List (Option String × Json)}
      (h : ∀ member ∈ members, Plain member.2) : Plain (.object members)

/-! ## Layouts

A layout is settled by what stands between a comma and the next part and inside
of the brackets.  Whatever that is, as long as it is made of separators the
tokens are the same.
-/

theorem spells_null : Spells ['n', 'u', 'l', 'l'] [.null] :=
  fun _ _ => tokens?_token rfl rfl

theorem spells_true : Spells ['t', 'r', 'u', 'e'] [.boolean true] :=
  fun _ _ => tokens?_token rfl rfl

theorem spells_false : Spells ['f', 'a', 'l', 's', 'e'] [.boolean false] :=
  fun _ _ => tokens?_token rfl rfl

section Layout

variable {α : Type} {items : List α} {spell : α → List Char}
  {rowOf : α → List Token}

theorem spells_joinWith {gap : List Char}
    (hgap : ∀ c ∈ gap, isSeparator c = true)
    (h : ∀ item ∈ items, Spells (spell item) (rowOf item)) :
    Spells (joinWith (',' :: gap) (items.map spell))
      ([Token.comma].intercalate (items.map rowOf)) := by
  induction items with
  | nil => exact .nil
  | cons item rest ih =>
    have hitem := h item List.mem_cons_self
    cases rest with
    | nil => simpa [joinWith] using hitem
    | cons next rest =>
        have hrest := ih fun item hmem => h item (List.mem_cons_of_mem _ hmem)
        have hnext := mark_comma.spells (hrest.after_gap hgap)
        have hboth := hitem.append hnext (bounded_cons mark_comma.bounds _)
        simpa [joinWith, List.intercalate_cons_cons] using hboth

/-- Parts between two marks, with separators on both sides. -/
theorem spells_enclosed {opening closing : Char} {first last : Token}
    (hopening : Mark opening first) (hclosing : Mark closing last)
    {before after text : List Char} {inner : List Token}
    (hbefore : ∀ c ∈ before, isSeparator c = true)
    (hafter : ∀ c ∈ after, isSeparator c = true)
    (hbounded : Bounded after) (h : Spells text inner) :
    Spells (opening :: (before ++ (text ++ (after ++ [closing]))))
      (first :: inner ++ [last]) := by
  have hclose : Spells (after ++ [closing]) [last] :=
    (hclosing.spells .nil).after_gap hafter
  have hends : Bounded (after ++ [closing]) :=
    hbounded.append (bounded_cons hclosing.bounds [])
  exact hopening.spells ((h.append hclose hends).after_gap hbefore)

theorem isSeparator_of_mem_lineBreak {level : Nat} {c : Char}
    (h : c ∈ lineBreak level) : isSeparator c = true := by
  rcases List.mem_cons.mp h with rfl | hspace
  · rfl
  · rw [List.eq_of_mem_replicate hspace]
    rfl

theorem spells_indented {opening closing : Char} {first last : Token}
    (hopening : Mark opening first) (hclosing : Mark closing last) (level : Nat)
    (h : ∀ item ∈ items, Spells (spell item) (rowOf item)) :
    Spells (indented opening closing level (items.map spell))
      (first :: [Token.comma].intercalate (items.map rowOf) ++ [last]) := by
  cases items with
  | nil => exact hopening.spells (hclosing.spells .nil)
  | cons item rest =>
      have hbreak : ∀ n, ∀ c ∈ lineBreak n, isSeparator c = true :=
        fun n c hc => isSeparator_of_mem_lineBreak hc
      have hjoined := spells_joinWith (hbreak (level + 1)) h
      have hall := spells_enclosed hopening hclosing (hbreak (level + 1))
        (hbreak level) (bounded_cons rfl _) hjoined
      simpa [indented] using hall

theorem spells_member {member : Option String × Json} {gap : List Char}
    {spell : Json → List Char} (hgap : ∀ c ∈ gap, isSeparator c = true)
    (h : Spells (spell member.2) (row member.2)) :
    Spells (spellMember gap spell member) (memberRow member) :=
  (spells_string member.1).append (mark_colon.spells (h.after_gap hgap))
    (bounded_cons mark_colon.bounds _)

end Layout

/-- Without separators, a value spells its tokens. -/
theorem spells_compact {value : Json} (h : Plain value) :
    Spells (spellCompact value) (row value) := by
  have hnothing : ∀ c ∈ ([] : List Char), isSeparator c = true := by simp
  induction h with
  | null => simpa [row, spellCompact] using spells_null
  | boolean b =>
      cases b with
      | true => simpa [row, spellCompact] using spells_true
      | false => simpa [row, spellCompact] using spells_false
  | nat n =>
      simpa [row, spellCompact, Json.nat, Text.decimal] using spells_nat n
  | string text => simpa [row, spellCompact] using spells_string text
  | array h ih =>
      have hinner := spells_joinWith hnothing ih
      have hall := spells_enclosed mark_openBracket mark_closeBracket
        hnothing hnothing bounded_nil hinner
      simpa [row, spellCompact, compactElements_eq_map, elementRows_eq_map]
        using hall
  | object h ih =>
      have hinner := spells_joinWith hnothing fun member hmem =>
        spells_member hnothing (ih member hmem)
      have hall := spells_enclosed mark_openBrace mark_closeBrace
        hnothing hnothing bounded_nil hinner
      simpa [row, spellCompact, compactMembers_eq_map, memberRows_eq_map]
        using hall

/-- With line breaks, at any level, it spells the same tokens. -/
theorem spells_pretty {value : Json} (h : Plain value) :
    ∀ level, Spells (spellPretty level value) (row value) := by
  induction h with
  | null => intro level; simpa [row, spellPretty] using spells_null
  | boolean b =>
      intro level
      cases b with
      | true => simpa [row, spellPretty] using spells_true
      | false => simpa [row, spellPretty] using spells_false
  | nat n =>
      intro level
      simpa [row, spellPretty, Json.nat, Text.decimal] using spells_nat n
  | string text =>
      intro level
      simpa [row, spellPretty] using spells_string text
  | array h ih =>
      intro level
      have hall := spells_indented mark_openBracket mark_closeBracket level
        fun element hmem => ih element hmem (level + 1)
      simpa [row, spellPretty, prettyElements_eq_map, elementRows_eq_map]
        using hall
  | object h ih =>
      intro level
      have hspace : ∀ c ∈ [' '], isSeparator c = true :=
        List.forall_mem_singleton.mpr rfl
      have hall := spells_indented mark_openBrace mark_closeBrace level
        fun member hmem => spells_member hspace (ih member hmem (level + 1))
      simpa [row, spellPretty, prettyMembers_eq_map, memberRows_eq_map]
        using hall

/-! ## The machine -/

theorem steps?_append (first second : List Token) :
    ∀ position, steps? position (first ++ second) =
      (steps? position first).bind fun next => steps? next second := by
  induction first with
  | nil => intro position; rfl
  | cons token rest ih =>
      intro position
      rw [List.cons_append, steps?, steps?]
      cases step? position token with
      | none => rfl
      | some next => exact ih next

/-- The machine makes a value out of a row, wherever it stands. -/
def Builds (tokens : List Token) (value : Json) : Prop :=
  ∀ frames, steps? ⟨.value, frames⟩ tokens = some ⟨.after value, frames⟩

theorem Builds.append {tokens : List Token} {value : Json}
    (h : Builds tokens value) (frames : List Frame) (rest : List Token) :
    steps? ⟨.value, frames⟩ (tokens ++ rest) =
      steps? ⟨.after value, frames⟩ rest := by
  rw [steps?_append, h frames, Option.bind_some]

/-- The first part of a joined row stands at its beginning. -/
theorem intercalate_cons (separator first : List Token)
    (rows : List (List Token)) :
    ∃ tail, separator.intercalate (first :: rows) = first ++ tail := by
  cases rows with
  | nil => exact ⟨[], by simp⟩
  | cons next rows =>
      exact ⟨separator ++ separator.intercalate (next :: rows), by
        rw [List.intercalate_cons_cons, List.append_assoc]⟩

/-- No value begins with a closing bracket, so the first element of an array is
read like the others. -/
theorem steps?_firstElement (value : Json) (frames : List Frame)
    (rest : List Token) :
    steps? ⟨.firstElement, .array [] :: frames⟩ (row value ++ rest) =
      steps? ⟨.value, .array [] :: frames⟩ (row value ++ rest) := by
  cases value <;> simp [row, steps?, step?]

/-- The first key of an object is read like the others. -/
theorem steps?_firstKey (member : Option String × Json) (frames : List Frame)
    (rest : List Token) :
    steps? ⟨.firstKey, frames⟩ (memberRow member ++ rest) =
      steps? ⟨.key [], frames⟩ (memberRow member ++ rest) := by
  simp [memberRow, steps?, step?]

theorem steps?_elements {elements : List Json} (hne : elements ≠ [])
    (h : ∀ element ∈ elements, Builds (row element) element)
    (frames : List Frame) :
    ∀ before, steps? ⟨.value, .array before :: frames⟩
        ([Token.comma].intercalate (elements.map row) ++ [.closeBracket]) =
      some ⟨.after (.array (before.reverse ++ elements)), frames⟩ := by
  induction elements with
  | nil => exact absurd rfl hne
  | cons element rest ih =>
    intro before
    have helement := h element List.mem_cons_self
    cases rest with
    | nil =>
        rw [List.map_singleton, List.intercalate_singleton, helement.append]
        simp [steps?, step?, continueAfter?]
    | cons next rest =>
        have hrest := ih (by simp)
          (fun item hmem => h item (List.mem_cons_of_mem _ hmem))
          (element :: before)
        rw [List.map_cons, List.map_cons, List.intercalate_cons_cons,
          List.append_assoc, List.append_assoc, helement.append]
        simpa [steps?, step?, continueAfter?] using hrest

theorem steps?_members {members : List (Option String × Json)}
    (hne : members ≠ [])
    (h : ∀ member ∈ members, Builds (row member.2) member.2)
    (frames : List Frame) :
    ∀ before, steps? ⟨.key before, frames⟩
        ([Token.comma].intercalate (members.map memberRow) ++ [.closeBrace]) =
      some ⟨.after (.object (before.reverse ++ members)), frames⟩ := by
  induction members with
  | nil => exact absurd rfl hne
  | cons member rest ih =>
    intro before
    have hkey : ∀ tokens, steps? ⟨.key before, frames⟩ (memberRow member ++ tokens) =
        steps? ⟨.after member.2, .object before member.1 :: frames⟩ tokens := by
      intro tokens
      have hvalue := (h member List.mem_cons_self).append
        (.object before member.1 :: frames) tokens
      simpa [memberRow, steps?, step?] using hvalue
    cases rest with
    | nil =>
        rw [List.map_singleton, List.intercalate_singleton, hkey]
        simp [steps?, step?, continueAfter?]
    | cons next rest =>
        have hrest := ih (by simp)
          (fun item hmem => h item (List.mem_cons_of_mem _ hmem))
          (member :: before)
        rw [List.map_cons, List.map_cons, List.intercalate_cons_cons,
          List.append_assoc, List.append_assoc, hkey]
        simpa [steps?, step?, continueAfter?] using hrest

/-- The machine makes a value out of its tokens. -/
theorem steps?_row {value : Json} (h : Plain value) : Builds (row value) value := by
  induction h with
  | null => intro frames; simp [row, steps?, step?, beginValue?]
  | boolean b => intro frames; simp [row, steps?, step?, beginValue?]
  | nat n => intro frames; simp [row, Json.nat, steps?, step?, beginValue?]
  | string text => intro frames; simp [row, steps?, step?, beginValue?]
  | @array elements h ih =>
      intro frames
      rw [row, elementRows_eq_map, List.cons_append]
      cases elements with
      | nil => simp [steps?, step?, beginValue?]
      | cons element rest =>
          have hall := steps?_elements (by simp) ih frames []
          obtain ⟨tail, htail⟩ :=
            intercalate_cons [.comma] (row element) (rest.map row)
          rw [List.map_cons, htail, List.append_assoc] at hall ⊢
          rw [← steps?_firstElement] at hall
          simpa [steps?, step?, beginValue?] using hall
  | @object members h ih =>
      intro frames
      rw [row, memberRows_eq_map, List.cons_append]
      cases members with
      | nil => simp [steps?, step?, beginValue?]
      | cons member rest =>
          have hall := steps?_members (by simp) ih frames []
          obtain ⟨tail, htail⟩ :=
            intercalate_cons [.comma] (memberRow member) (rest.map memberRow)
          rw [List.map_cons, htail, List.append_assoc] at hall ⊢
          rw [← steps?_firstKey] at hall
          simpa [steps?, step?, beginValue?] using hall

/-- A text that spells the tokens of a value is read as that value. -/
theorem parse?_of_spells {value : Json} (h : Plain value) {text : String}
    (htext : Spells text.toList (row value)) : parse? text = some value := by
  have hsteps := steps?_row h []
  rw [parse?, htext.tokens?_eq]
  simp [assemble?, hsteps]

end Relift.Json
