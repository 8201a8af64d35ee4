import Relift.CommandLine.Lift
import Relift.Proofs.SymbolMap

/-!
# Chains of symbol sources

A chain asks its sources one after the other and lets the earlier win.  Sources
may depend on the state of the host and change it, so what a source is asked
for depends on those before it; `Asked` keeps the tables that a row of sources
gives one after the other.

The tables are merged from the front.  In the merged table a name has what the
first table with that name says (`get?_merged`), which does not depend on how
the tables are grouped; hence a chain may stand for a group of sources inside
another chain (`agree_group`).

## Main result

* `SymbolSource.chained_symbols` — the first failure ends the questioning and is
  the answer; otherwise the first table with a name decides; grouping changes
  nothing; and the chain of a lift prefers its symbol map to the exports.
-/

namespace Relift.SymbolSource

variable {σ : Type}

/-! ## Merging tables -/

private theorem get?_foldl_supplement (entries : List (String × Descriptor))
    (name : String) : ∀ table : SymbolTable,
      (entries.foldl (fun merged (entry : String × Descriptor) =>
          if merged.contains entry.1 then merged
          else merged.insert entry.1 entry.2) table).get? name =
        (table.get? name).or ((entries.find? fun entry =>
          compare name entry.1 == .eq).map Prod.snd) := by
  induction entries with
  | nil => intro table; simp
  | cons entry rest ih =>
      intro table
      rw [List.foldl_cons, ih, List.find?_cons]
      by_cases hname : name = entry.1
      · have hfirst : (compare name entry.1 == .eq) = true := by
          rw [hname]
          simp
        rw [hfirst, hname, Ordered.Map.contains]
        cases hfound : table.get? entry.1 with
        | none => simp [Ordered.get?_insert_self]
        | some descriptor => simp [hfound]
      · have hother : (compare name entry.1 == .eq) = false := by
          simpa using hname
        have hkept : (if table.contains entry.1 then table
            else table.insert entry.1 entry.2).get? name = table.get? name := by
          split
          · rfl
          · exact Ordered.get?_insert_of_ne table entry.2 hname
        rw [hother, hkept]

/-- A supplemented table has what it had, and else what the other one has. -/
theorem get?_supplement (table other : SymbolTable) (name : String) :
    (supplement table other).get? name =
      (table.get? name).or (other.get? name) :=
  get?_foldl_supplement other.toList name table

/-- A table with what others add to it, the earlier first. -/
def merged (table : SymbolTable) (tables : List SymbolTable) : SymbolTable :=
  tables.foldl supplement table

/-- In a merged table the first of the tables that has a name decides. -/
theorem get?_merged (tables : List SymbolTable) (name : String) :
    ∀ table, (merged table tables).get? name =
      (table.get? name).or (tables.findSome? fun table => table.get? name) := by
  induction tables with
  | nil => intro table; simp [merged]
  | cons first rest ih =>
      intro table
      show (merged (supplement table first) rest).get? name = _
      rw [ih, get?_supplement, Option.or_assoc, List.findSome?_cons]
      cases first.get? name <;> rfl

theorem get?_merged_empty (tables : List SymbolTable) (name : String) :
    (merged .empty tables).get? name =
      tables.findSome? fun table => table.get? name := by
  rw [get?_merged, Ordered.get?_empty, Option.none_or]

/-- It does not matter whether tables are merged into a table one by one or all
at once. -/
theorem supplement_merged (table : SymbolTable) (tables : List SymbolTable) :
    supplement table (merged .empty tables) = merged table tables := by
  refine Ordered.eq_of_get?_eq fun name => ?_
  rw [get?_supplement, get?_merged_empty, get?_merged]

/-! ## Asking sources -/

theorem symbols_chained (sources : List (SymbolSource σ)) (pe : Image.Portable)
    (path : String) :
    (chained sources).symbols pe path = supplementFrom pe path .empty sources :=
  rfl

section Asking

variable {pe : Image.Portable} {path : String}

/-- Sources that all answer when they are asked one after the other, with the
tables that they give. -/
inductive Asked (pe : Image.Portable) (path : String) :
    List (SymbolSource σ) → List SymbolTable → σ → σ → Prop where
  | nil (s : σ) : Asked pe path [] [] s s
  | cons {source : SymbolSource σ} {rest : List (SymbolSource σ)}
      {table : SymbolTable} {tables : List SymbolTable} {s s' s'' : σ}
      {notes : List Note}
      (hfound : source.symbols pe path s = ⟨.ok table, s', notes⟩)
      (hrest : Asked pe path rest tables s' s'') :
      Asked pe path (source :: rest) (table :: tables) s s''

/-- A row of sources answers, or one of them fails after those before it have
answered. -/
theorem asked_or_failed (pe : Image.Portable) (path : String)
    (sources : List (SymbolSource σ)) : ∀ s,
      (∃ tables s', Asked pe path sources tables s s') ∨
      ∃ before source after tables middle e,
        sources = before ++ source :: after ∧
        Asked pe path before tables s middle ∧
        (source.symbols pe path middle).value = .error e := by
  induction sources with
  | nil => intro s; exact .inl ⟨[], s, .nil s⟩
  | cons source rest ih =>
      intro s
      rcases hsource : source.symbols pe path s with ⟨e | table, s', notes⟩
      · exact .inr ⟨[], source, rest, [], s, e, rfl, .nil s, by rw [hsource]⟩
      · rcases ih s' with ⟨tables, s'', hrest⟩ |
          ⟨before, failing, after, tables, middle, e, hsplit, hbefore, hfails⟩
        · exact .inl ⟨table :: tables, s'', .cons hsource hrest⟩
        · exact .inr ⟨source :: before, failing, after, table :: tables, middle,
            e, congrArg (source :: ·) hsplit, .cons hsource hbefore, hfails⟩

theorem supplementFrom_append (first second : List (SymbolSource σ)) :
    ∀ table, supplementFrom pe path table (first ++ second) =
      supplementFrom pe path table first >>= fun found =>
        supplementFrom pe path found second := by
  induction first with
  | nil =>
      intro table
      rw [List.nil_append, supplementFrom, pure_bind]
  | cons source rest ih =>
      intro table
      rw [List.cons_append, supplementFrom, supplementFrom]
      simp only [bind_assoc, ih]

/-- Sources that all answer give the merged table. -/
theorem supplementFrom_of_asked {sources : List (SymbolSource σ)}
    {tables : List SymbolTable} {s s' : σ}
    (h : Asked pe path sources tables s s') (table : SymbolTable) :
    ∃ notes, supplementFrom pe path table sources s =
      ⟨.ok (merged table tables), s', notes⟩ := by
  induction h generalizing table with
  | nil s => exact ⟨[], rfl⟩
  | @cons source rest found tables s s' s'' told hfound hrest ih =>
      obtain ⟨notes, hnotes⟩ := ih (supplement table found)
      rw [supplementFrom, Activity.bind_of_ok hfound, Activity.report_bind,
        hnotes]
      exact ⟨_, rfl⟩

/-- A source that fails after others is the last one that is asked. -/
theorem supplementFrom_of_failed {before : List (SymbolSource σ)}
    {tables : List SymbolTable} {source : SymbolSource σ} {s middle : σ}
    {e : Error} (hbefore : Asked pe path before tables s middle)
    (hfails : (source.symbols pe path middle).value = .error e)
    (table : SymbolTable) :
    ∃ notes, ∀ after,
      supplementFrom pe path table (before ++ source :: after) s =
        ⟨.error e, (source.symbols pe path middle).state, notes⟩ := by
  obtain ⟨told, hasked⟩ := supplementFrom_of_asked hbefore table
  rcases hsource : source.symbols pe path middle with ⟨value, s', notes⟩
  rw [hsource] at hfails
  cases hfails
  refine ⟨told ++ notes, fun after => ?_⟩
  rw [supplementFrom_append, Activity.bind_of_ok hasked, supplementFrom,
    Activity.bind_of_error hsource]

/-- A chain may stand for a group of sources. -/
theorem agree_group (group : List (SymbolSource σ)) (table : SymbolTable) :
    (supplementFrom pe path table [chained group]).Agree
      (supplementFrom pe path table group) := by
  intro s
  have hnested : supplementFrom pe path table [chained group] =
      (supplementFrom pe path .empty group >>= fun found => do
        Activity.report (.debug (toString found.size ++ " debug symbols from " ++
          "chained"))
        pure (supplement table found)) := rfl
  rw [hnested]
  rcases asked_or_failed pe path group s with ⟨tables, s', hasked⟩ |
    ⟨before, source, after, tables, middle, e, rfl, hbefore, hfails⟩
  · obtain ⟨told, hempty⟩ := supplementFrom_of_asked hasked .empty
    obtain ⟨notes, htable⟩ := supplementFrom_of_asked hasked table
    rw [Activity.bind_of_ok hempty, htable, Activity.report_bind]
    exact ⟨congrArg Except.ok (supplement_merged table tables), rfl⟩
  · obtain ⟨told, hempty⟩ := supplementFrom_of_failed hbefore hfails .empty
    obtain ⟨notes, htable⟩ := supplementFrom_of_failed hbefore hfails table
    rw [Activity.bind_of_error (hempty after), htable after]
    exact ⟨rfl, rfl⟩

theorem agree_nested (before group after : List (SymbolSource σ)) :
    ((chained (before ++ chained group :: after)).symbols pe path).Agree
      ((chained (before ++ group ++ after)).symbols pe path) := by
  have hnested : before ++ chained group :: after =
      before ++ ([chained group] ++ after) := rfl
  rw [symbols_chained, symbols_chained, hnested, List.append_assoc,
    supplementFrom_append, supplementFrom_append]
  refine (Activity.Agree.refl _).bind fun table => ?_
  rw [supplementFrom_append, supplementFrom_append]
  exact (agree_group group table).bind fun found => Activity.Agree.refl _

end Asking

/-- The chain of a lift: the last line that the symbol map has for a name, and
else the last export of the name. -/
theorem get?_liftSource {host : Host σ} {map body : String} {s : σ}
    {entries : List (Descriptor × String)}
    (hbody : host.readText s map = .ok body)
    (hentries : NameMapFile.parse map body = .ok entries)
    (pe : Image.Portable) (path : String) :
    ∃ table, ((liftSource host (some map)).symbols pe path s).value = .ok table ∧
      ∀ name descriptor, table.get? name = some descriptor ↔
        Ordered.LastEntry (entries.map Prod.swap) name descriptor ∨
        (∀ entry ∈ entries, entry.2 ≠ name) ∧
          Ordered.LastEntry
            (pe.exports.filterMap (Image.Export.symbol? pe.imageBase)) name
            descriptor := by
  have hmap := symbolMap_of_ok hbody hentries pe path
  have hexports : (exports : SymbolSource σ).symbols pe path s =
      ⟨.ok (Image.exportSymbols pe), s, []⟩ := rfl
  have hasked := Asked.cons hmap (.cons hexports (.nil s))
  obtain ⟨notes, hanswer⟩ := supplementFrom_of_asked hasked .empty
  refine ⟨_, congrArg Outcome.value hanswer, fun name descriptor => ?_⟩
  have hlines : (∀ entry ∈ entries.map Prod.swap, entry.1 ≠ name) ↔
      ∀ entry ∈ entries, entry.2 ≠ name := List.forall_mem_map
  show (supplement (supplement .empty _) _).get? name = some descriptor ↔ _
  rw [get?_supplement, get?_supplement, Ordered.get?_empty, Option.none_or,
    enterLines_empty, Image.exportSymbols, Option.or_eq_some_iff, Ordered.get?_ofList,
    Ordered.get?_ofList_eq_none_iff, hlines, Ordered.get?_ofList]

/-- A chain of sources answers with the error of the first that fails, and
sources after it have no part in that.  If none fails, the table has for each
name what the first of the sources' tables with that name has.  A group of
sources may be replaced by their chain.  And in the chain of a lift a name has
the descriptor of the last line that the symbol map has for it, and else that
of its last export. -/
theorem chained_symbols (pe : Image.Portable) (path : String) (s : σ) :
    (∀ sources,
      let answer := (chained sources).symbols pe path s
      (∃ before source after tables middle e,
        sources = before ++ source :: after ∧
        Asked pe path before tables s middle ∧
        (source.symbols pe path middle).value = .error e ∧
        answer.value = .error e ∧
        answer.state = (source.symbols pe path middle).state ∧
        ∀ others,
          (chained (before ++ source :: others)).symbols pe path s = answer) ∨
      ∃ tables s' table, Asked pe path sources tables s s' ∧
        answer.value = .ok table ∧ answer.state = s' ∧
        ∀ name descriptor, table.get? name = some descriptor ↔
          ∃ earlier first later, tables = earlier ++ first :: later ∧
            first.get? name = some descriptor ∧
            ∀ other ∈ earlier, other.get? name = none) ∧
    (∀ before group after,
      let nested := (chained (before ++ chained group :: after)).symbols pe path s
      let flat := (chained (before ++ group ++ after)).symbols pe path s
      nested.value = flat.value ∧ nested.state = flat.state) ∧
    ∀ host map body entries, host.readText s map = .ok body →
      NameMapFile.parse map body = .ok entries →
      ∃ table,
        ((liftSource host (some map)).symbols pe path s).value = .ok table ∧
        ∀ name descriptor, table.get? name = some descriptor ↔
          Ordered.LastEntry (entries.map Prod.swap) name descriptor ∨
          (∀ entry ∈ entries, entry.2 ≠ name) ∧
            Ordered.LastEntry
              (pe.exports.filterMap (Image.Export.symbol? pe.imageBase)) name
              descriptor := by
  refine ⟨fun sources => ?_, fun before group after => ?_, ?_⟩
  · intro answer
    rcases asked_or_failed pe path sources s with ⟨tables, s', hasked⟩ |
      ⟨before, source, after, tables, middle, e, rfl, hbefore, hfails⟩
    · obtain ⟨notes, hanswer⟩ := supplementFrom_of_asked hasked .empty
      refine .inr ⟨tables, s', merged .empty tables, hasked,
        congrArg Outcome.value hanswer, congrArg Outcome.state hanswer,
        fun name descriptor => ?_⟩
      rw [get?_merged_empty]
      exact List.findSome?_eq_some_iff
    · obtain ⟨notes, hanswer⟩ := supplementFrom_of_failed hbefore hfails .empty
      have hhere : answer =
          ⟨.error e, (source.symbols pe path middle).state, notes⟩ :=
        hanswer after
      exact .inl ⟨before, source, after, tables, middle, e, rfl, hbefore, hfails,
        by rw [hhere], by rw [hhere],
        fun others => (hanswer others).trans hhere.symm⟩
  · exact agree_nested before group after s
  · intro host map body entries hbody hentries
    exact get?_liftSource hbody hentries pe path

/-- A symbol map with two lines for a name, over an executable that exports the
name, and another one twice. -/
theorem chained_symbols_on_machine :
    let machine := mappedMachine (Text.utf8 "16 0 main\n32 4 main\n")
    let pe : Image.Portable := ⟨4096, [], [⟨some "main", 1, false⟩,
      ⟨some "start", 2, false⟩, ⟨some "start", 3, false⟩]⟩
    ∃ table, ((liftSource Machine.host (some "nm.txt")).symbols pe "game.exe"
        machine).value = .ok table ∧
      table.get? "main" = some ⟨32, 4⟩ ∧ table.get? "start" = some ⟨4099, 0⟩ := by
  intro machine pe
  have hfile : Machine.host.readBytes machine "nm.txt" =
      .ok (Text.utf8 "16 0 main\n32 4 main\n") := by
    rw [Machine.host]
    rfl
  have hentries : NameMapFile.parse "nm.txt" "16 0 main\n32 4 main\n" =
      .ok [(⟨16, 0⟩, "main"), (⟨32, 4⟩, "main")] := rfl
  obtain ⟨table, hanswer, htable⟩ := (chained_symbols pe "game.exe" machine).2.2
    Machine.host "nm.txt" _ _ (readText_of_utf8 hfile) hentries
  refine ⟨table, hanswer, (htable _ _).mpr (.inl ?_), (htable _ _).mpr (.inr ?_)⟩
  · exact ⟨[("main", ⟨16, 0⟩)], [], rfl, by simp⟩
  · exact ⟨by decide, [("main", ⟨4097, 0⟩), ("start", ⟨4098, 0⟩)], [], rfl,
      by simp⟩

end Relift.SymbolSource
