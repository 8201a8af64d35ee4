import Mathlib.Data.List.Sort
import Relift.Proofs.Collision
import Relift.Proofs.SymbolMap

/-!
# Records of discarded symbols

Symbols are lost on two walks: when the name map of a table is made, where
several names share a descriptor, and when a symbol map is read, where a name
comes again.  Neither loss is silent.  What a walk records about a symbol
depends only on the symbols before it, so its records can be read off the row of
symbols, place by place (`records`).

Each step enters a symbol under a new key or leaves one record.  Hence records
and entries together are as many as the symbols (`enterSymbols_records`,
`enterLines_records`).

## Main result

* `discarded_symbols_recorded` — the records of both walks, one by one and in
  their order, and how many there are.
-/

namespace Relift

/-! ## What a row tells -/

section Records

variable {α β : Type}

/-- What the items of a row tell, in their order, where each of them knows those
before it. -/
def records (told : List α → α → Option β) (items : List α) : List β :=
  (List.range items.length).filterMap fun place =>
    items[place]?.bind (told (items.take place))

variable {told : List α → α → Option β}

theorem records_concat (items : List α) (item : α) :
    records told (items ++ [item]) =
      records told items ++ (told items item).toList := by
  rw [records, List.length_append, List.length_singleton, List.range_succ,
    List.filterMap_append]
  congr 1
  · refine List.filterMap_congr fun place hplace => ?_
    have hlt : place < items.length := List.mem_range.mp hplace
    rw [List.getElem?_append_left hlt,
      List.take_append_of_le_length (Nat.le_of_lt hlt)]
  · cases htold : told items item <;> simp [htold]

theorem mem_records {items : List α} {record : β} :
    record ∈ records told items ↔ ∃ place item, items[place]? = some item ∧
      told (items.take place) item = some record := by
  simp only [records, List.mem_filterMap, List.mem_range, Option.bind_eq_some_iff]
  constructor
  · rintro ⟨place, -, item, hitem, htold⟩
    exact ⟨place, item, hitem, htold⟩
  · rintro ⟨place, item, hitem, htold⟩
    exact ⟨place, (List.getElem?_eq_some_iff.mp hitem).1, item, hitem, htold⟩

/-- Records are in the order of the places that they come from. -/
theorem pairwise_records {items : List α} {R : β → β → Prop}
    (h : ∀ place item record, items[place]? = some item →
      told (items.take place) item = some record →
      ∀ place' item' record', items[place']? = some item' →
        told (items.take place') item' = some record' →
        place < place' → R record record') :
    (records told items).Pairwise R := by
  refine List.Pairwise.filterMap _ ?_ List.pairwise_lt_range
  intro place place' hlt record hrecord record' hrecord'
  obtain ⟨item, hitem, htold⟩ := Option.bind_eq_some_iff.mp hrecord
  obtain ⟨item', hitem', htold'⟩ := Option.bind_eq_some_iff.mp hrecord'
  exact h place item record hitem htold place' item' record' hitem' htold' hlt

end Records

/-! ## Symbols that share a descriptor -/

/-- A symbol that finds a name at its descriptor. -/
structure Discard where
  name : String
  existing : String
  descriptor : Descriptor

namespace Discard

/-- The record of a discard under a policy. -/
def note : CollisionPolicy → Discard → Note
  | .keepLast, x => renamingNote x.name x.existing x.descriptor
  | _, x => droppingNote x.name x.existing x.descriptor

/-- The discard at a symbol, if its descriptor has a name. -/
def ofExisting? (symbol : String × Descriptor) (existing : Option String) :
    Option Discard :=
  existing.map fun existing => ⟨symbol.1, existing, symbol.2⟩

/-- The discard at a symbol that is visited after others. -/
def after? (policy : CollisionPolicy) (before : List (String × Descriptor))
    (symbol : String × Descriptor) : Option Discard :=
  ofExisting? symbol (policy.survivor (namesAt symbol.2 before))

end Discard

namespace NameMap

/-- A symbol that is entered finds its descriptor free, and the map grows by it,
or it leaves a record. -/
theorem enterSymbols_keep_step {policy : CollisionPolicy}
    (hkeep : policy ≠ .reject) (symbol : String × Descriptor)
    (rest : List (String × Descriptor)) (names : NameMap) :
    ∃ next, enterSymbols policy (symbol :: rest) names =
        (enterSymbols policy rest next).map (fun entered =>
          (entered.1, (Discard.ofExisting? symbol
            (names.get? symbol.2)).toList.map (Discard.note policy) ++
              entered.2)) ∧
      (∀ descriptor, next.get? descriptor = policy.survivor
        ((names.get? descriptor).toList ++ namesAt descriptor [symbol])) ∧
      (Discard.ofExisting? symbol (names.get? symbol.2)).toList.length +
        next.size = names.size + 1 := by
  obtain ⟨name, claimed⟩ := symbol
  rw [enterSymbols]
  cases hname : names.get? claimed with
  | none =>
      refine ⟨names.insert claimed name, ?_, get?_insert_survivor ?_, ?_⟩
      · cases enterSymbols policy rest (names.insert claimed name) <;> rfl
      · rw [hname]
        exact policy.survivor_toList (some name)
      · rw [Ordered.size_insert_of_none name hname]
        exact Nat.zero_add _
  | some existing =>
      cases policy with
      | reject => exact absurd rfl hkeep
      | keepFirst =>
          refine ⟨names, rfl, get?_keep_survivor ?_, Nat.add_comm 1 _⟩
          rw [hname]
          rfl
      | keepLast =>
          refine ⟨names.insert claimed name, rfl, get?_insert_survivor ?_, ?_⟩
          · rw [hname]
            rfl
          · rw [Ordered.size_insert_of_some name hname]
            exact Nat.add_comm 1 _

/-- Symbols that are entered after others leave the records that the whole row
has beyond those of the others, and each of them is in the map or in the
records. -/
theorem enterSymbols_records {policy : CollisionPolicy}
    (hkeep : policy ≠ .reject) (rest : List (String × Descriptor)) :
    ∀ before names,
      (∀ descriptor, names.get? descriptor =
        policy.survivor (namesAt descriptor before)) →
      ∃ result discards, enterSymbols policy rest names =
          .ok (result, discards.map (Discard.note policy)) ∧
        records (Discard.after? policy) (before ++ rest) =
          records (Discard.after? policy) before ++ discards ∧
        discards.length + result.size = names.size + rest.length := by
  induction rest with
  | nil =>
      intro before names _
      refine ⟨names, [], rfl, ?_, Nat.add_comm _ _⟩
      rw [List.append_nil, List.append_nil]
  | cons symbol rest ih =>
      intro before names hbefore
      obtain ⟨next, hstep, hnext, hsize⟩ :=
        enterSymbols_keep_step hkeep symbol rest names
      have hafter : ∀ descriptor, next.get? descriptor =
          policy.survivor (namesAt descriptor (before ++ [symbol])) := by
        intro descriptor
        rw [hnext, hbefore, policy.survivor_append, namesAt_append]
      obtain ⟨result, discards, hrest, hrecords, hcount⟩ :=
        ih (before ++ [symbol]) next hafter
      rw [hbefore] at hstep hsize
      refine ⟨result, (Discard.after? policy before symbol).toList ++ discards,
        ?_, ?_, ?_⟩
      · rw [hstep, hrest, List.map_append]
        rfl
      · rw [List.append_cons, hrecords, records_concat, List.append_assoc]
      · rw [List.length_append, List.length_cons]
        unfold Discard.after?
        omega

/-- The records of a name map are those of the symbols of its table. -/
theorem ofSymbols_records (symbols : SymbolTable) {policy : CollisionPolicy}
    (hkeep : policy ≠ .reject) :
    ∃ names, ofSymbols symbols policy = .ok (names,
        (records (Discard.after? policy) symbols.toList).map
          (Discard.note policy)) ∧
      (records (Discard.after? policy) symbols.toList).length + names.size =
        symbols.size := by
  have hempty : ∀ descriptor, (∅ : NameMap).get? descriptor =
      policy.survivor (namesAt descriptor []) := by
    intro descriptor
    exact (policy.survivor_toList none).symm
  obtain ⟨names, discards, hnames, hrecords, hcount⟩ :=
    enterSymbols_records hkeep symbols.toList [] ∅ hempty
  have hdiscards : records (Discard.after? policy) symbols.toList = discards :=
    hrecords
  rw [hdiscards]
  refine ⟨names, hnames, hcount.trans ?_⟩
  exact Nat.zero_add _

end NameMap

namespace SymbolTable

variable {symbols : SymbolTable} {policy : CollisionPolicy}

/-- The names that a table has for a descriptor, in ascending order. -/
structure Claimants (symbols : SymbolTable) (descriptor : Descriptor)
    (row : List String) : Prop where
  ascending : row.Pairwise fun a b => Text.utf8 a < Text.utf8 b
  mem_iff : ∀ name, name ∈ row ↔ symbols.get? name = some descriptor

/-- An ascending row is told by its members. -/
theorem claimants_iff {descriptor : Descriptor} {row : List String} :
    symbols.Claimants descriptor row ↔
      row = namesAt descriptor symbols.toList := by
  have hnames : symbols.Claimants descriptor
      (namesAt descriptor symbols.toList) :=
    ⟨NameMap.ascending_namesAt symbols descriptor,
      NameMap.mem_namesAt_toList symbols descriptor⟩
  constructor
  · intro hrow
    refine (hrow.ascending.imp Text.utf8_lt_utf8.mp).eq_of_mem_iff
      (hnames.ascending.imp Text.utf8_lt_utf8.mp) fun name => ?_
    rw [hrow.mem_iff, hnames.mem_iff]
  · rintro rfl
    exact hnames

/-- A symbol divides the names of its descriptor into those that are visited
before it and those that are visited after it. -/
theorem namesAt_of_getElem? {items : List (String × Descriptor)} {place : Nat}
    {name : String} {descriptor : Descriptor}
    (h : items[place]? = some (name, descriptor)) :
    namesAt descriptor items = namesAt descriptor (items.take place) ++
      name :: namesAt descriptor (items.drop (place + 1)) := by
  obtain ⟨hlt, hitem⟩ := List.getElem?_eq_some_iff.mp h
  have hsplit : items = items.take place ++
      ([(name, descriptor)] ++ items.drop (place + 1)) := by
    rw [← hitem, List.singleton_append, ← List.drop_eq_getElem_cons hlt,
      List.take_append_drop]
  have hself : namesAt descriptor [(name, descriptor)] = [name] := by
    rw [namesAt_singleton, if_pos rfl]
  conv_lhs => rw [hsplit, namesAt_append, namesAt_append, hself]
  rfl

/-- A name of a table has the place among the names of its descriptor that the
number of those before it says. -/
theorem getElem?_namesAt_iff {place i : Nat} {name : String}
    {descriptor : Descriptor}
    (h : symbols.toList[place]? = some (name, descriptor)) :
    (namesAt descriptor symbols.toList)[i]? = some name ↔
      i = (namesAt descriptor (symbols.toList.take place)).length := by
  have hsplit := namesAt_of_getElem? h
  have hself : (namesAt descriptor symbols.toList)[(namesAt descriptor
      (symbols.toList.take place)).length]? = some name := by
    rw [hsplit, List.getElem?_append_right (Nat.le_refl _), Nat.sub_self]
    rfl
  have hnodup : (namesAt descriptor symbols.toList).Nodup :=
    (Ordered.nodup_keys symbols).sublist (List.filter_sublist.map Prod.fst)
  constructor
  · intro hi
    exact (List.getElem?_inj (List.getElem?_eq_some_iff.mp hi).1 hnodup).mp
      (hi.trans hself.symm)
  · rintro rfl
    exact hself

/-- A symbol is a discard if it is not the first name of its descriptor; it
finds the policy's survivor of the names before it. -/
theorem mem_discards {x : Discard} :
    x ∈ records (Discard.after? policy) symbols.toList ↔
      ∃ row i, symbols.Claimants x.descriptor row ∧
        row[i + 1]? = some x.name ∧
        policy.survivor (row.take (i + 1)) = some x.existing := by
  simp only [claimants_iff, mem_records]
  constructor
  · rintro ⟨place, ⟨name, descriptor⟩, hplace, hdiscard⟩
    obtain ⟨existing, hexisting, rfl⟩ := Option.map_eq_some_iff.mp hdiscard
    have hsplit := namesAt_of_getElem? hplace
    obtain ⟨i, hi⟩ : ∃ i, (namesAt descriptor
        (symbols.toList.take place)).length = i + 1 := by
      refine Nat.exists_eq_add_one.mpr (List.length_pos_of_ne_nil fun hnil => ?_)
      rw [CollisionPolicy.survivor_eq_none_iff.mpr hnil] at hexisting
      cases hexisting
    refine ⟨_, i, rfl, (getElem?_namesAt_iff hplace).mpr hi.symm, ?_⟩
    rw [hsplit, List.take_left' hi]
    exact hexisting
  · rintro ⟨_, i, rfl, hname, hexisting⟩
    have hmem : (x.name, x.descriptor) ∈ symbols.toList :=
      mem_namesAt.mp (List.mem_of_getElem? hname)
    obtain ⟨place, hplace⟩ := List.mem_iff_getElem?.mp hmem
    have hi := (getElem?_namesAt_iff hplace).mp hname
    refine ⟨place, _, hplace, Option.map_eq_some_iff.mpr ⟨x.existing, ?_, rfl⟩⟩
    rw [namesAt_of_getElem? hplace, List.take_left' hi.symm] at hexisting
    exact hexisting

/-- Discards are in ascending order of their names. -/
theorem pairwise_discards :
    (records (Discard.after? policy) symbols.toList).Pairwise
      fun x y => Text.utf8 x.name < Text.utf8 y.name := by
  refine pairwise_records ?_
  intro place symbol x hplace hx place' symbol' y hplace' hy hlt
  obtain ⟨existing, -, rfl⟩ := Option.map_eq_some_iff.mp hx
  obtain ⟨existing', -, rfl⟩ := Option.map_eq_some_iff.mp hy
  obtain ⟨hbound, rfl⟩ := List.getElem?_eq_some_iff.mp hplace
  obtain ⟨hbound', rfl⟩ := List.getElem?_eq_some_iff.mp hplace'
  exact List.pairwise_iff_getElem.mp symbols.ascending_toList place place'
    hbound hbound' hlt

/-- The discards of a table: which symbols find a name at their descriptor, and
which name they meet there, by the ascending row of the names of the descriptor;
what is not discarded is in the name map. -/
structure Discards (symbols : SymbolTable)
    (met : List String → Nat → Option String) (names : NameMap)
    (discards : List Discard) : Prop where
  ascending : discards.Pairwise fun x y => Text.utf8 x.name < Text.utf8 y.name
  mem_iff : ∀ x, x ∈ discards ↔ ∃ row i,
    symbols.Claimants x.descriptor row ∧ row[i + 1]? = some x.name ∧
      met row i = some x.existing
  balance : discards.length + names.size = symbols.size

/-- Where the first name is kept, a discard meets the first name. -/
theorem survivor_keepFirst_take (row : List String) (i : Nat) :
    CollisionPolicy.keepFirst.survivor (row.take (i + 1)) = row[0]? := by
  show (row.take (i + 1)).head? = row[0]?
  rw [List.head?_take, if_neg (Nat.succ_ne_zero i), List.head?_eq_getElem?]

/-- Where the last name is kept, a discard meets the name before its own. -/
theorem survivor_keepLast_take {row : List String} {i : Nat} {name : String}
    (h : row[i + 1]? = some name) :
    CollisionPolicy.keepLast.survivor (row.take (i + 1)) = row[i]? := by
  have hlt : i < row.length := by
    have hbound := (List.getElem?_eq_some_iff.mp h).1
    omega
  show (row.take (i + 1)).getLast? = row[i]?
  rw [List.getLast?_take, if_neg (Nat.succ_ne_zero i), Nat.add_sub_cancel,
    List.getElem?_eq_getElem hlt]
  rfl

/-- A policy that keeps a name has the discards of a table recorded, each with
the name that it meets. -/
theorem exists_discards (symbols : SymbolTable) (hkeep : policy ≠ .reject)
    {met : List String → Nat → Option String}
    (hmet : ∀ row i name, row[i + 1]? = some name →
      policy.survivor (row.take (i + 1)) = met row i) :
    ∃ names discards, NameMap.ofSymbols symbols policy =
        .ok (names, discards.map (Discard.note policy)) ∧
      symbols.Discards met names discards := by
  obtain ⟨names, hnames, hcount⟩ := NameMap.ofSymbols_records symbols hkeep
  refine ⟨names, _, hnames, pairwise_discards, fun x => ?_, hcount⟩
  rw [mem_discards]
  constructor
  · rintro ⟨row, i, hrow, hname, hexisting⟩
    rw [hmet row i x.name hname] at hexisting
    exact ⟨row, i, hrow, hname, hexisting⟩
  · rintro ⟨row, i, hrow, hname, hexisting⟩
    rw [← hmet row i x.name hname] at hexisting
    exact ⟨row, i, hrow, hname, hexisting⟩

end SymbolTable

/-! ## Lines that list a name again -/

/-- A line of a symbol map whose name stands on an earlier line. -/
structure RepeatedLine where
  /-- The place of the line among the lines that hold an entry. -/
  place : Nat
  name : String
  /-- The descriptor that is replaced. -/
  previous : Descriptor
  descriptor : Descriptor

namespace RepeatedLine

/-- The warning about a line. -/
def note (x : RepeatedLine) : Note :=
  SymbolSource.repeatedNote x.name x.previous x.descriptor

/-- The line after others, if the others list its name. -/
def after? (before : List (Descriptor × String)) (line : Descriptor × String) :
    Option RepeatedLine :=
  ((Ordered.Map.ofList (before.map Prod.swap)).get? line.2).map fun previous =>
    ⟨before.length, line.2, previous, line.1⟩

end RepeatedLine

namespace SymbolSource

/-- A line has a new name, and the table grows by it, or it leaves a record. -/
theorem length_after?_add_size (before : List (Descriptor × String))
    (descriptor : Descriptor) (name : String) :
    (RepeatedLine.after? before (descriptor, name)).toList.length +
        ((Ordered.Map.ofList (before.map Prod.swap)).insert name
          descriptor).size =
      (Ordered.Map.ofList (before.map Prod.swap) : SymbolTable).size + 1 := by
  unfold RepeatedLine.after?
  cases hname : (Ordered.Map.ofList (before.map Prod.swap)).get? name with
  | none =>
      rw [Ordered.size_insert_of_none descriptor hname]
      exact Nat.zero_add _
  | some previous =>
      rw [Ordered.size_insert_of_some descriptor hname]
      exact Nat.add_comm 1 _

/-- Lines that are entered after others leave the records that the whole row has
beyond those of the others, and each of them has a name of its own in the table
or is in the records. -/
theorem enterLines_records (rest : List (Descriptor × String)) :
    ∀ before, ∃ lines,
      (enterLines (.ofList (before.map Prod.swap)) rest).2 =
        lines.map RepeatedLine.note ∧
      records RepeatedLine.after? (before ++ rest) =
        records RepeatedLine.after? before ++ lines ∧
      lines.length +
          (enterLines (.ofList (before.map Prod.swap)) rest).1.size =
        (Ordered.Map.ofList (before.map Prod.swap)).size + rest.length := by
  induction rest with
  | nil =>
      intro before
      refine ⟨[], rfl, ?_, Nat.add_comm _ _⟩
      rw [List.append_nil, List.append_nil]
  | cons line rest ih =>
      intro before
      obtain ⟨descriptor, name⟩ := line
      obtain ⟨lines, hnotes, hrecords, hcount⟩ :=
        ih (before ++ [(descriptor, name)])
      have hswap : (before ++ [(descriptor, name)]).map Prod.swap =
          before.map Prod.swap ++ [(name, descriptor)] := List.map_append
      rw [hswap, Ordered.ofList_concat] at hnotes hcount
      refine ⟨(RepeatedLine.after? before (descriptor, name)).toList ++ lines,
        ?_, ?_, ?_⟩
      · rw [enterLines_cons_snd, hnotes, List.map_append]
        unfold RepeatedLine.after?
        cases (Ordered.Map.ofList (before.map Prod.swap)).get? name <;> rfl
      · rw [List.append_cons, hrecords, records_concat, List.append_assoc]
      · have hline := length_after?_add_size before descriptor name
        rw [enterLines_cons_fst, List.length_append, List.length_cons]
        omega

/-- The warnings of a symbol map are those of its lines. -/
theorem enterLines_empty_records (entries : List (Descriptor × String)) :
    (enterLines .empty entries).2 =
        (records RepeatedLine.after? entries).map RepeatedLine.note ∧
      (records RepeatedLine.after? entries).length +
        (enterLines .empty entries).1.size = entries.length := by
  obtain ⟨lines, hnotes, hrecords, hcount⟩ := enterLines_records entries []
  have hlines : records RepeatedLine.after? entries = lines := hrecords
  rw [hlines]
  exact ⟨hnotes, hcount.trans (Nat.zero_add _)⟩

/-- The last line before a place that lists a name. -/
theorem lastEntry_take_iff {entries : List (Descriptor × String)} {place : Nat}
    {name : String} {previous : Descriptor} :
    Ordered.LastEntry ((entries.take place).map Prod.swap) name previous ↔
      ∃ earlier < place, entries[earlier]? = some (previous, name) ∧
        ∀ between line, earlier < between → between < place →
          entries[between]? = some line → line.2 ≠ name := by
  have hget : ∀ (i : Nat) (entry : String × Descriptor),
      ((entries.take place).map Prod.swap)[i]? = some entry ↔
        i < place ∧ entries[i]? = some entry.swap := by
    intro i entry
    rw [List.getElem?_map, List.getElem?_take]
    by_cases hi : i < place
    · rw [if_pos hi, Option.map_eq_some_iff]
      constructor
      · rintro ⟨line, hline, rfl⟩
        exact ⟨hi, hline⟩
      · rintro ⟨-, hline⟩
        exact ⟨entry.swap, hline, Prod.swap_swap entry⟩
    · simp [hi]
  simp only [Ordered.lastEntry_iff_getElem?, hget]
  constructor
  · rintro ⟨earlier, ⟨hlt, hearlier⟩, hlater⟩
    refine ⟨earlier, hlt, hearlier, fun between line hafter hbefore hline => ?_⟩
    exact hlater between line.swap hafter ⟨hbefore, hline⟩
  · rintro ⟨earlier, hlt, hearlier, hbetween⟩
    refine ⟨earlier, ⟨hlt, hearlier⟩, fun later entry hafter hentry => ?_⟩
    exact hbetween later entry.swap hafter hentry.1 hentry.2

/-- A line is recorded if its name stands before it, with the descriptor that it
has on the nearest of these lines. -/
theorem mem_repeatedLines {entries : List (Descriptor × String)}
    {x : RepeatedLine} :
    x ∈ records RepeatedLine.after? entries ↔
      entries[x.place]? = some (x.descriptor, x.name) ∧
      ∃ earlier < x.place, entries[earlier]? = some (x.previous, x.name) ∧
        ∀ between line, earlier < between → between < x.place →
          entries[between]? = some line → line.2 ≠ x.name := by
  have hlength : ∀ {place : Nat} {line : Descriptor × String},
      entries[place]? = some line → (entries.take place).length = place := by
    intro place line hline
    have hlt := (List.getElem?_eq_some_iff.mp hline).1
    exact List.length_take_of_le (Nat.le_of_lt hlt)
  simp only [← lastEntry_take_iff, ← Ordered.get?_ofList, mem_records]
  constructor
  · rintro ⟨place, ⟨descriptor, name⟩, hline, hafter⟩
    obtain ⟨previous, hprevious, rfl⟩ := Option.map_eq_some_iff.mp hafter
    rw [hlength hline]
    exact ⟨hline, hprevious⟩
  · rintro ⟨hline, hprevious⟩
    refine ⟨x.place, _, hline, Option.map_eq_some_iff.mpr
      ⟨x.previous, hprevious, ?_⟩⟩
    rw [hlength hline]

theorem pairwise_repeatedLines (entries : List (Descriptor × String)) :
    (records RepeatedLine.after? entries).Pairwise
      fun x y => x.place < y.place := by
  refine pairwise_records ?_
  intro place line x hline hx place' line' y hline' hy hlt
  obtain ⟨previous, -, rfl⟩ := Option.map_eq_some_iff.mp hx
  obtain ⟨previous', -, rfl⟩ := Option.map_eq_some_iff.mp hy
  have hbound' := (List.getElem?_eq_some_iff.mp hline').1
  simp only [List.length_take]
  omega

/-- The lines of a symbol map that are recorded: those whose name stands on an
earlier line, each with the descriptor of the nearest of these; the others have
a name each in the table. -/
structure RepeatedLines (entries : List (Descriptor × String)) (table : SymbolTable)
    (lines : List RepeatedLine) : Prop where
  ascending : lines.Pairwise fun x y => x.place < y.place
  mem_iff : ∀ x, x ∈ lines ↔
    entries[x.place]? = some (x.descriptor, x.name) ∧
    ∃ earlier < x.place, entries[earlier]? = some (x.previous, x.name) ∧
      ∀ between line, earlier < between → between < x.place →
        entries[between]? = some line → line.2 ≠ x.name
  balance : lines.length + table.size = entries.length

section Refusals

variable {σ : Type} {host : Host σ} {path body : String} {s : σ}

theorem symbolMap_of_unread {cause : SystemError}
    (hbody : host.readText s path = .error cause) (pe : Image.Portable)
    (imagePath : String) :
    (symbolMap host path).symbols pe imagePath s =
      ⟨.error (.io ("Failed to read symbol map " ++ path) cause), s, []⟩ := by
  refine Activity.bind_of_error ?_ _
  rw [Activity.mapError_apply, Activity.inspect_apply, hbody]
  rfl

theorem symbolMap_of_refused {e : Error}
    (hbody : host.readText s path = .ok body)
    (hentries : NameMapFile.parse path body = .error e) (pe : Image.Portable)
    (imagePath : String) :
    (symbolMap host path).symbols pe imagePath s = ⟨.error e, s, []⟩ := by
  have hparse : (Activity.ofExcept (NameMapFile.parse path body) :
      Activity σ Note Error _) s = ⟨.error e, s, []⟩ := by
    rw [Activity.ofExcept_apply, hentries]
  unfold symbolMap
  dsimp only
  rw [Activity.bind_of_ok (readMap_of_ok hbody),
    Activity.bind_of_error hparse]
  rfl

/-- Of a symbol map that is not read to its end nothing is recorded. -/
theorem notes_symbolMap_of_error {pe : Image.Portable} {imagePath : String}
    {s' : σ} {e : Error} {notes : List Note}
    (h : (symbolMap host path).symbols pe imagePath s = ⟨.error e, s', notes⟩) :
    notes = [] := by
  cases hbody : host.readText s path with
  | error cause =>
      rw [symbolMap_of_unread hbody] at h
      cases h
      rfl
  | ok body =>
      cases hentries : NameMapFile.parse path body with
      | error e' =>
          rw [symbolMap_of_refused hbody hentries] at h
          cases h
          rfl
      | ok entries =>
          rw [symbolMap_of_ok hbody hentries] at h
          cases h

end Refusals

end SymbolSource

/-- No symbol is discarded without a record.  Where the first name of a
descriptor is kept, each further name leaves the record that it is dropped for
the first; where the last is kept, each further name leaves the record that it
takes the place of the one before it.  Records are in ascending order of these
names, and with the names of the map there are as many of them as symbols.  A
symbol map leaves one warning for each line whose name stands on an earlier
line, in the order of the lines, that the descriptor on the nearest of them is
replaced, and with the symbols of the table there are as many of them as
entries; of a map that cannot be read nothing is recorded. -/
theorem discarded_symbols_recorded (symbols : SymbolTable) {σ : Type}
    (host : Host σ) (path : String) (pe : Image.Portable) (imagePath : String)
    (s : σ) :
    (∃ names discards,
      NameMap.ofSymbols symbols .keepFirst = .ok (names, discards.map fun x =>
        .log .debug ("dropping '" ++ x.name ++ "': " ++ x.descriptor.display ++
          " already named '" ++ x.existing ++ "'")) ∧
      symbols.Discards (fun row _ => row[0]?) names discards) ∧
    (∃ names discards,
      NameMap.ofSymbols symbols .keepLast = .ok (names, discards.map fun x =>
        .log .debug ("renaming " ++ x.descriptor.display ++ " from '" ++
          x.existing ++ "' to '" ++ x.name ++ "'")) ∧
      symbols.Discards (fun row i => row[i]?) names discards) ∧
    (∀ body entries, host.readText s path = .ok body →
      NameMapFile.parse path body = .ok entries →
      ∃ table lines, (SymbolSource.symbolMap host path).symbols pe imagePath s =
          ⟨.ok table, s, lines.map fun x =>
            .log .warn ("symbol '" ++ x.name ++ "' listed twice; " ++
              x.previous.display ++ " replaced by " ++ x.descriptor.display)⟩ ∧
        SymbolSource.RepeatedLines entries table lines) ∧
    ∀ e s' notes, (SymbolSource.symbolMap host path).symbols pe imagePath s =
      ⟨.error e, s', notes⟩ → notes = [] := by
  have hfirst : CollisionPolicy.keepFirst ≠ .reject := by decide
  have hlast : CollisionPolicy.keepLast ≠ .reject := by decide
  refine ⟨symbols.exists_discards hfirst
      fun row i _ _ => SymbolTable.survivor_keepFirst_take row i,
    symbols.exists_discards hlast
      fun _ _ _ => SymbolTable.survivor_keepLast_take,
    ?_, fun e s' notes => SymbolSource.notes_symbolMap_of_error⟩
  intro body entries hbody hentries
  obtain ⟨hnotes, hcount⟩ := SymbolSource.enterLines_empty_records entries
  have hread := SymbolSource.symbolMap_of_ok hbody hentries pe imagePath
  rw [hnotes] at hread
  exact ⟨_, _, hread, SymbolSource.pairwise_repeatedLines entries,
    fun x => SymbolSource.mem_repeatedLines, hcount⟩

/-- The third name of a descriptor takes the place of the second, and the records
of two descriptors are in the order of the names. -/
example :
    (NameMap.ofSymbols (.ofList [("e", ⟨1, 0⟩), ("d", ⟨2, 0⟩), ("c", ⟨1, 0⟩),
      ("b", ⟨2, 0⟩), ("a", ⟨1, 0⟩)]) .keepLast).map Prod.snd =
      .ok [.debug "renaming (0x1, 0) from 'a' to 'c'",
        .debug "renaming (0x2, 0) from 'b' to 'd'",
        .debug "renaming (0x1, 0) from 'c' to 'e'"] := by
  rfl

end Relift
