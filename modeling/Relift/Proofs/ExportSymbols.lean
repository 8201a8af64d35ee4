import Relift.Proofs.CodeImage
import Relift.Proofs.Correlation
import Relift.SymbolSource

/-!
# The symbols that an executable exports

An export directory may list a name more than once, and not all that it lists
is a symbol: an export may have no name, or no place in the executable itself.
`Export.Gives` says which exports count for a name, and `LastGiving` which of
them counts in the end.  Exports that are skipped have no part in this, wherever
they stand: a forwarder does not even take a name away from an export before it.

The table is filled export by export, so what one more export does is said first
(`lastEntry_filterMap_cons`); the table of a whole directory follows by
induction.

## Main result

* `SymbolSource.exported_symbols` — which names, descriptors and seeds there are.
-/

namespace Relift.Image

/-! ## One export -/

namespace Export

/-- An export counts for a name: it is listed under this name, which is not
empty, and lies in the executable, elsewhere than at its base. -/
structure Gives (e : Export) (name : String) : Prop where
  listed : e.name = some name
  name_ne : name ≠ ""
  rva_ne : e.rva ≠ 0
  own : e.forwarded = false

/-- An export is skipped: it has no name or an empty one, lies at the base, or
only points to another library. -/
def Skipped (e : Export) : Prop :=
  e.name = none ∨ e.name = some "" ∨ e.rva = 0 ∨ e.forwarded = true

instance (e : Export) : Decidable e.Skipped :=
  inferInstanceAs (Decidable (_ ∨ _))

/-- A descriptor is that of an export: its primary word is the address above the
base, or the largest word if the address does not fit, and its secondary word is
zero. -/
structure LiesAt (e : Export) (imageBase : UInt64) (descriptor : Descriptor) :
    Prop where
  primary : descriptor.primary.toNat =
    min (imageBase.toNat + e.rva.toNat) (2 ^ 64 - 1)
  secondary : descriptor.secondary = 0

variable {e : Export} {imageBase : UInt64} {name : String}
  {descriptor : Descriptor}

theorem not_skipped_iff : ¬ e.Skipped ↔ ∃ name, e.Gives name := by
  unfold Skipped
  constructor
  · intro h
    simp only [not_or, Bool.not_eq_true] at h
    obtain ⟨hnamed, hempty, hrva, hown⟩ := h
    obtain ⟨name, hname⟩ := Option.ne_none_iff_exists'.mp hnamed
    exact ⟨name, hname, fun hnil => hempty (hnil ▸ hname), hrva, hown⟩
  · rintro ⟨name, hname, hne, hrva, hown⟩
    simp [hname, hne, hrva, hown]

theorem liesAt_iff : e.LiesAt imageBase descriptor ↔
    descriptor = ⟨Address.addSaturating imageBase e.rva.toUInt64, 0⟩ := by
  have hplace : (Address.addSaturating imageBase e.rva.toUInt64).toNat =
      min (imageBase.toNat + e.rva.toNat) (2 ^ 64 - 1) := by
    rw [Address.toNat_addSaturating, UInt32.toNat_toUInt64]
  constructor
  · rintro ⟨hprimary, hsecondary⟩
    have hword : descriptor.primary =
        Address.addSaturating imageBase e.rva.toUInt64 := by
      apply UInt64.toNat_inj.mp
      rw [hprimary, hplace]
    rw [← hword, ← hsecondary]
  · rintro rfl
    exact ⟨hplace, rfl⟩

theorem symbol?_of_skipped (h : e.Skipped) : e.symbol? imageBase = none := by
  unfold Export.symbol?
  rcases h with hname | hname | hrva | hforwarded
  · rw [hname]
  · rw [hname]
    rfl
  · cases e.name <;> simp [hrva]
  · cases e.name <;> simp [hforwarded]

theorem Gives.symbol? (h : e.Gives name) :
    e.symbol? imageBase =
      some (name, ⟨Address.addSaturating imageBase e.rva.toUInt64, 0⟩) := by
  simp [Export.symbol?, h.listed, h.name_ne, h.rva_ne, h.own]

theorem symbol?_eq_some_iff :
    e.symbol? imageBase = some (name, descriptor) ↔
      e.Gives name ∧ e.LiesAt imageBase descriptor := by
  rw [liesAt_iff]
  constructor
  · intro h
    by_cases hskipped : e.Skipped
    · rw [symbol?_of_skipped hskipped] at h
      cases h
    · obtain ⟨given, hgiven⟩ := not_skipped_iff.mp hskipped
      rw [hgiven.symbol?] at h
      cases h
      exact ⟨hgiven, rfl⟩
  · rintro ⟨hgives, rfl⟩
    exact hgives.symbol?

end Export

/-! ## A whole directory -/

/-- Of the exports of a directory that count for a name, this is the last. -/
def LastGiving (exports : List Export) (name : String) (e : Export) : Prop :=
  ∃ before after, exports = before ++ e :: after ∧ e.Gives name ∧
    ∀ later ∈ after, ¬ later.Gives name

section Directory

variable {exports : List Export} {imageBase : UInt64} {name : String}

theorem lastGiving_cons {first e : Export} {rest : List Export} :
    LastGiving (first :: rest) name e ↔
      LastGiving rest name e ∨
        first = e ∧ e.Gives name ∧ ∀ later ∈ rest, ¬ later.Gives name := by
  constructor
  · rintro ⟨before, after, hsplit, hgives, hafter⟩
    cases before with
    | nil =>
        obtain ⟨rfl, rfl⟩ := List.cons.inj hsplit
        exact .inr ⟨rfl, hgives, hafter⟩
    | cons head before =>
        obtain ⟨-, rfl⟩ := List.cons.inj hsplit
        exact .inl ⟨before, after, rfl, hgives, hafter⟩
  · rintro (⟨before, after, rfl, hgives, hafter⟩ | ⟨rfl, hgives, hrest⟩)
    · exact ⟨first :: before, after, rfl, hgives, hafter⟩
    · exact ⟨[], rest, rfl, hgives, hrest⟩

/-- A directory has no symbol of a name exactly if no export counts for it. -/
theorem forall_filterMap_symbol?_ne :
    (∀ symbol ∈ exports.filterMap (Export.symbol? imageBase),
      symbol.1 ≠ name) ↔ ∀ e ∈ exports, ¬ e.Gives name := by
  constructor
  · intro h e he hgives
    have hmem : (name, ⟨Address.addSaturating imageBase e.rva.toUInt64, 0⟩) ∈
        exports.filterMap (Export.symbol? imageBase) :=
      List.mem_filterMap.mpr ⟨e, he, hgives.symbol?⟩
    exact h _ hmem rfl
  · rintro h ⟨listed, descriptor⟩ hmem rfl
    obtain ⟨e, he, hsymbol⟩ := List.mem_filterMap.mp hmem
    exact h e he (Export.symbol?_eq_some_iff.mp hsymbol).1

/-- One more export in front has a say only if no later one counts for its
name: its symbol, if it leaves one, stands before all others. -/
theorem lastEntry_filterMap_cons {first : Export} {rest : List Export}
    {descriptor : Descriptor} :
    Ordered.LastEntry ((first :: rest).filterMap (Export.symbol? imageBase))
        name descriptor ↔
      Ordered.LastEntry (rest.filterMap (Export.symbol? imageBase)) name
        descriptor ∨
      (first.Gives name ∧ first.LiesAt imageBase descriptor) ∧
        ∀ later ∈ rest, ¬ later.Gives name := by
  rw [← forall_filterMap_symbol?_ne, ← Export.symbol?_eq_some_iff,
    List.filterMap_cons]
  cases hsymbol : first.symbol? imageBase with
  | none => simp
  | some symbol => rw [Ordered.lastEntry_cons, Option.some.injEq]

/-- The last symbol of a directory for a name is that of the last export which
counts for it. -/
theorem lastEntry_filterMap_iff {descriptor : Descriptor} :
    Ordered.LastEntry (exports.filterMap (Export.symbol? imageBase)) name
        descriptor ↔
      ∃ e, LastGiving exports name e ∧ e.LiesAt imageBase descriptor := by
  induction exports with
  | nil =>
      constructor
      · intro h
        exact absurd h (Ordered.not_lastEntry_nil name descriptor)
      · rintro ⟨e, ⟨before, after, hnil, -⟩, -⟩
        simp at hnil
  | cons first rest ih =>
      rw [lastEntry_filterMap_cons, ih]
      constructor
      · rintro (⟨e, he, hplace⟩ | ⟨⟨hgives, hplace⟩, hrest⟩)
        · exact ⟨e, lastGiving_cons.mpr (.inl he), hplace⟩
        · exact ⟨first, lastGiving_cons.mpr (.inr ⟨rfl, hgives, hrest⟩), hplace⟩
      · rintro ⟨e, he, hplace⟩
        rcases lastGiving_cons.mp he with he | ⟨rfl, hgives, hrest⟩
        · exact .inl ⟨e, he, hplace⟩
        · exact .inr ⟨⟨hgives, hplace⟩, hrest⟩

/-- Skipped exports may be left out. -/
theorem filterMap_symbol?_unskipped (exports : List Export) :
    (exports.filter fun e => ¬ e.Skipped).filterMap
        (Export.symbol? imageBase) =
      exports.filterMap (Export.symbol? imageBase) := by
  rw [List.filterMap_filter]
  refine List.filterMap_congr fun e _ => ?_
  by_cases hskipped : e.Skipped
  · rw [Export.symbol?_of_skipped hskipped]
    simp
  · simp [hskipped]

end Directory

/-! ## The table of an executable -/

section Table

variable (pe : Portable)

theorem get?_exportSymbols (name : String) (descriptor : Descriptor) :
    (exportSymbols pe).get? name = some descriptor ↔
      ∃ e, LastGiving pe.exports name e ∧
        e.LiesAt pe.imageBase descriptor := by
  rw [exportSymbols, Ordered.get?_ofList, lastEntry_filterMap_iff]

theorem mem_keys_exportSymbols (name : String) :
    name ∈ (exportSymbols pe).keys ↔ ∃ e ∈ pe.exports, e.Gives name := by
  rw [Ordered.mem_keys_iff, ← Option.isSome_iff_exists,
    Option.isSome_iff_ne_none, ne_eq, exportSymbols,
    Ordered.get?_ofList_eq_none_iff, forall_filterMap_symbol?_ne]
  simp only [not_forall, not_not, exists_prop]

theorem mem_seeds_exportSymbols (extra : List Address) (address : Address) :
    address ∈ (SeedSet.ofSymbols (exportSymbols pe) extra).members ↔
      (∃ name e, LastGiving pe.exports name e ∧
        address.toNat = min (pe.imageBase.toNat + e.rva.toNat) (2 ^ 64 - 1)) ∨
      address ∈ extra := by
  rw [SeedSet.mem_ofSymbols]
  refine or_congr_left ?_
  constructor
  · rintro ⟨descriptor, hvalue, rfl⟩
    obtain ⟨⟨name, _⟩, hmem, rfl⟩ := List.mem_map.mp hvalue
    rw [Ordered.mem_toList_iff, get?_exportSymbols] at hmem
    obtain ⟨e, he, hplace⟩ := hmem
    exact ⟨name, e, he, hplace.primary⟩
  · rintro ⟨name, e, he, haddress⟩
    have hfound : (exportSymbols pe).get? name = some ⟨address, 0⟩ :=
      (get?_exportSymbols pe name _).mpr ⟨e, he, haddress, rfl⟩
    rw [← Ordered.mem_toList_iff] at hfound
    exact ⟨_, List.mem_map.mpr ⟨_, hfound, rfl⟩, rfl⟩

end Table

/-- A forwarder and an export at the base come after an export of the same name
and leave it as it is. -/
example :
    (exportSymbols ⟨0x400000, [], [⟨some "f", 0x1000, false⟩,
      ⟨some "f", 0x1010, false⟩, ⟨some "f", 0x2080, true⟩, ⟨some "f", 0, false⟩,
      ⟨some "", 0x1020, false⟩, ⟨none, 0x1030, false⟩]⟩).toList =
      [("f", ⟨0x401010, 0⟩)] := by
  rfl

end Image

namespace SymbolSource

open Image

/-- The exports of an executable are a source that always answers, and touches
and reports nothing.  Its table has the names for which an export counts, each
with the place of the last export that does; these places are the seeds, besides
any extra addresses.  Skipped exports may be left out of the directory: whatever
their names and wherever they stand, the table is the same. -/
theorem exported_symbols {σ : Type} (pe : Portable) (path : String)
    (s : σ) :
    ∃ table : SymbolTable,
      exports.symbols pe path s = ⟨.ok table, s, []⟩ ∧
      (∀ name, name ∈ table.keys ↔ ∃ e ∈ pe.exports, e.Gives name) ∧
      (∀ name descriptor, table.get? name = some descriptor ↔
        ∃ e, LastGiving pe.exports name e ∧
          descriptor.primary.toNat =
            min (pe.imageBase.toNat + e.rva.toNat) (2 ^ 64 - 1) ∧
          descriptor.secondary = 0) ∧
      (∀ extra address,
        address ∈ (SeedSet.ofSymbols table extra).members ↔
          (∃ name e, LastGiving pe.exports name e ∧
            address.toNat =
              min (pe.imageBase.toNat + e.rva.toNat) (2 ^ 64 - 1)) ∨
          address ∈ extra) ∧
      exports.symbols
          { pe with exports := pe.exports.filter fun e => ¬ e.Skipped } path s =
        ⟨.ok table, s, []⟩ := by
  refine ⟨exportSymbols pe, rfl, mem_keys_exportSymbols pe, ?_,
    mem_seeds_exportSymbols pe, ?_⟩
  · intro name descriptor
    rw [get?_exportSymbols]
    refine exists_congr fun e => and_congr_right fun _ => ?_
    exact ⟨fun h => ⟨h.primary, h.secondary⟩, fun h => ⟨h.1, h.2⟩⟩
  · have hsame : exportSymbols
        { pe with exports := pe.exports.filter fun e => ¬ e.Skipped } =
          exportSymbols pe :=
      congrArg Ordered.Map.ofList (filterMap_symbol?_unskipped pe.exports)
    rw [← hsame]
    rfl

end SymbolSource

end Relift
