import Relift.Machine.Basic
import Relift.Proofs.Activity
import Relift.Proofs.Correlation
import Relift.Proofs.Utf8
import Relift.SymbolSource

/-!
# Symbol maps

A symbol map is a name-map file that is read as a source of symbols.  Entering
its lines is filling a table (`enterLines_empty`), so the last line of a name
counts; where no name comes twice, nothing is recorded
(`notes_enterLines_of_distinct`).

The name map of a table is such a file.  It was inverted once, with collisions
settled by a policy, and after that it can be inverted both ways: each name in
it belongs to one descriptor because the table had it once, and each descriptor
has one name because the policy has left it one.

## Main result

* `SymbolSource.names_read_back` — a name map that is written and read as a
  symbol map gives a table of which it is the name map, under every policy.
-/

namespace Relift

namespace SymbolSource

/-! ## Lines entered into a table -/

section Cons

variable (table : SymbolTable) (descriptor : Descriptor) (name : String)
  (rest : List (Descriptor × String))

theorem enterLines_cons_fst :
    (enterLines table ((descriptor, name) :: rest)).1 =
      (enterLines (table.insert name descriptor) rest).1 := by
  rw [enterLines]
  cases table.get? name <;> rfl

/-- A line leaves a record if the table has its name. -/
theorem enterLines_cons_snd :
    (enterLines table ((descriptor, name) :: rest)).2 =
      ((table.get? name).map fun previous =>
        repeatedNote name previous descriptor).toList ++
        (enterLines (table.insert name descriptor) rest).2 := by
  rw [enterLines]
  cases table.get? name <;> rfl

end Cons

/-- The lines of a symbol map fill a table from the front. -/
theorem enterLines_fst (entries : List (Descriptor × String)) :
    ∀ table, (enterLines table entries).1 = (entries.map Prod.swap).foldl
      (fun table entry => table.insert entry.1 entry.2) table := by
  induction entries with
  | nil => intro table; rfl
  | cons entry rest ih =>
      intro table
      obtain ⟨descriptor, name⟩ := entry
      rw [enterLines_cons_fst, ih, List.map_cons, List.foldl_cons]
      rfl

theorem enterLines_empty (entries : List (Descriptor × String)) :
    (enterLines .empty entries).1 = .ofList (entries.map Prod.swap) :=
  enterLines_fst entries .empty

/-- Names that are new to the table and do not come twice leave no record. -/
theorem notes_enterLines_of_distinct {entries : List (Descriptor × String)}
    {table : SymbolTable} (hdistinct : (entries.map Prod.snd).Nodup)
    (hnew : ∀ entry ∈ entries, table.get? entry.2 = none) :
    (enterLines table entries).2 = [] := by
  induction entries generalizing table with
  | nil => rfl
  | cons entry rest ih =>
      obtain ⟨descriptor, name⟩ := entry
      obtain ⟨hname, hrest⟩ := List.nodup_cons.mp hdistinct
      have hnext : ∀ entry ∈ rest,
          (table.insert name descriptor).get? entry.2 = none :=
        Ordered.get?_insert_eq_none descriptor hname fun entry hentry =>
          hnew entry (List.mem_cons_of_mem _ hentry)
      have hfree : table.get? name = none :=
        hnew (descriptor, name) List.mem_cons_self
      rw [enterLines_cons_snd, hfree, ih hrest hnext]
      rfl

/-! ## Reading a symbol map -/

section Reading

variable {σ : Type} {host : Host σ} {path body : String} {s : σ}
  {entries : List (Descriptor × String)}

theorem readMap_of_ok (hbody : host.readText s path = .ok body) :
    (((Activity.inspect fun s => host.readText s path).mapError
      (Error.io ("Failed to read symbol map " ++ path)) :
        Activity σ Note Error String)) s = ⟨.ok body, s, []⟩ := by
  rw [Activity.mapError_apply, Activity.inspect_apply, hbody]
  rfl

/-- A symbol map that can be read gives the table of its lines. -/
theorem symbolMap_of_ok (hbody : host.readText s path = .ok body)
    (hentries : NameMapFile.parse path body = .ok entries)
    (pe : Image.Portable) (imagePath : String) :
    (symbolMap host path).symbols pe imagePath s =
      ⟨.ok (enterLines .empty entries).1, s, (enterLines .empty entries).2⟩ := by
  have hparse : (Activity.ofExcept (NameMapFile.parse path body) :
      Activity σ Note Error _) s = ⟨.ok entries, s, []⟩ := by
    rw [Activity.ofExcept_apply, hentries]
  unfold symbolMap
  dsimp only
  rw [Activity.bind_of_ok (readMap_of_ok hbody), Activity.bind_of_ok hparse]
  simp

theorem readText_of_utf8 {text : String}
    (h : host.readBytes s path = .ok (Text.utf8 text)) :
    host.readText s path = .ok text := by
  rw [Host.readText, h]
  simp only [bind, Except.bind, Text.ofUtf8?_utf8]

end Reading

/-- The name map of a table of clean names has no name twice.  Written to a file
and read as a symbol map, it gives without a warning the table with the same
pairs; and the name map of that table is the same again under every policy,
with no collision. -/
theorem names_read_back {σ : Type} {symbols : SymbolTable}
    {policy : CollisionPolicy} {names : NameMap} {notes : List Note}
    (hclean : ∀ name ∈ symbols.keys, NameMapFile.Clean name)
    (hnames : NameMap.ofSymbols symbols policy = .ok (names, notes))
    (host : Host σ) (s : σ) (path : String)
    (hfile : host.readBytes s path =
      .ok (Text.utf8 (NameMapFile.render names)))
    (pe : Image.Portable) (imagePath : String) :
    names.values.Nodup ∧
    ∃ table,
      (symbolMap host path).symbols pe imagePath s = ⟨.ok table, s, []⟩ ∧
      (∀ name descriptor, table.get? name = some descriptor ↔
        names.get? descriptor = some name) ∧
      ∀ policy', NameMap.ofSymbols table policy' = .ok (names, []) := by
  have hback : ∀ descriptor name, names.get? descriptor = some name →
      symbols.get? name = some descriptor :=
    fun descriptor name => NameMap.get?_of_get?_ofSymbols hnames
  have hvalues : names.values.Nodup := Ordered.nodup_values_of_get? hback
  have hinverse : Ordered.Inverse names names.swapped :=
    Ordered.inverse_swapped hvalues
  have hlines : ∀ entry ∈ names.toList, NameMapFile.Clean entry.2 := by
    rintro ⟨descriptor, name⟩ hentry
    have hsymbol := hback _ _ ((Ordered.mem_toList_iff names _ _).mp hentry)
    exact hclean name ((Ordered.mem_keys_iff symbols name).mpr ⟨_, hsymbol⟩)
  have hread := symbolMap_of_ok (readText_of_utf8 hfile)
    (NameMapFile.parse_render_of_clean path hlines) pe imagePath
  rw [enterLines_empty, notes_enterLines_of_distinct hvalues fun _ _ => rfl]
    at hread
  exact ⟨hvalues, names.swapped, hread, hinverse.symm,
    NameMap.ofSymbols_of_inverse hinverse.symm⟩

/-- A machine with nothing but a symbol map. -/
def mappedMachine (map : Bytes) : Machine where
  tree := FileTree.empty.set ["nm.txt"] (.file map false)
  place := []
  environment := []
  temporaryDirectory := "/tmp"
  executable := none

/-- The loop is closed also where a name has given way on the way in. -/
theorem names_read_back_on_machine :
    let symbols : SymbolTable :=
      .ofList [("zeta", ⟨16, 0⟩), ("alpha", ⟨16, 0⟩), ("main loop", ⟨16, 4⟩)]
    let names : NameMap := .ofList [(⟨16, 0⟩, "zeta"), (⟨16, 4⟩, "main loop")]
    let machine := mappedMachine (Text.utf8 (NameMapFile.render names))
    NameMap.ofSymbols symbols .keepLast =
      .ok (names, [renamingNote "zeta" "alpha" ⟨16, 0⟩]) ∧
    ∃ table, (symbolMap Machine.host "nm.txt").symbols ⟨0, [], []⟩ "game.exe"
        machine = ⟨.ok table, machine, []⟩ ∧
      NameMap.ofSymbols table .reject = .ok (names, []) := by
  intro symbols names machine
  have hclean : ∀ name ∈ symbols.keys, NameMapFile.Clean name := by decide
  have hnames : NameMap.ofSymbols symbols .keepLast =
      .ok (names, [renamingNote "zeta" "alpha" ⟨16, 0⟩]) := rfl
  have hfile : Machine.host.readBytes machine "nm.txt" =
      .ok (Text.utf8 (NameMapFile.render names)) := by
    rw [Machine.host]
    rfl
  obtain ⟨-, table, hread, -, hagain⟩ := names_read_back hclean hnames
    Machine.host machine "nm.txt" hfile ⟨0, [], []⟩ "game.exe"
  exact ⟨hnames, table, hread, hagain .reject⟩

end SymbolSource

end Relift
