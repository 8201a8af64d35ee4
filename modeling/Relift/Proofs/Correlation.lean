import Relift.Proofs.Interchange
import Relift.Symbol.Correlation

/-!
# The seeds and the names of a symbol table

Seeds and names are computed apart from each other: the seeds from all symbols,
the names by an inversion in which a policy decides between the names of one
descriptor.  What the inversion leaves to a descriptor is said once, for all
policies, by `NameMap.get?_enterSymbols`: of the names that claim the
descriptor, in the order in which they are visited, the policy's survivor.
Whoever survives, every descriptor of the table keeps a name
(`NameMap.mem_keys_ofSymbols`), and so the two halves agree.  A table without
shared descriptors leaves nothing to decide (`NameMap.ofSymbols_of_inverse`).

## Main result

* `Correlation.seeds_coherent` — the seeds are the primary words of the name map
  together with the extra addresses, whatever the policy.
-/

namespace Relift

/-! ## Which name survives -/

/-- The name that a policy leaves to a descriptor, out of those that claim it,
in the order in which they are visited. -/
def CollisionPolicy.survivor : CollisionPolicy → List String → Option String
  | .reject, names => names.head?
  | .keepFirst, names => names.head?
  | .keepLast, names => names.getLast?

namespace CollisionPolicy

theorem survivor_toList (policy : CollisionPolicy) (name? : Option String) :
    policy.survivor name?.toList = name? := by
  cases name? <;> cases policy <;> rfl

/-- Names may be taken in one after the other: those that have given way do not
come back. -/
theorem survivor_append (policy : CollisionPolicy) (names others : List String) :
    policy.survivor ((policy.survivor names).toList ++ others) =
      policy.survivor (names ++ others) := by
  cases policy with
  | reject => cases names <;> rfl
  | keepFirst => cases names <;> rfl
  | keepLast =>
      have hself : names.getLast?.toList.getLast? = names.getLast? :=
        survivor_toList .keepLast _
      show (names.getLast?.toList ++ others).getLast? =
        (names ++ others).getLast?
      rw [List.getLast?_append, List.getLast?_append, hself]

theorem survivor_eq_none_iff {policy : CollisionPolicy} {names : List String} :
    policy.survivor names = none ↔ names = [] := by
  cases policy <;> simp [survivor]

theorem mem_of_survivor {policy : CollisionPolicy} {names : List String}
    {name : String} (h : policy.survivor names = some name) : name ∈ names := by
  cases policy with
  | reject => exact List.mem_of_head? h
  | keepFirst => exact List.mem_of_head? h
  | keepLast => exact List.mem_of_getLast? h

end CollisionPolicy

/-- The names that symbols have for a descriptor. -/
def namesAt (descriptor : Descriptor) (symbols : List (String × Descriptor)) :
    List String :=
  (symbols.filter fun symbol => symbol.2 = descriptor).map Prod.fst

theorem mem_namesAt {descriptor : Descriptor}
    {symbols : List (String × Descriptor)} {name : String} :
    name ∈ namesAt descriptor symbols ↔ (name, descriptor) ∈ symbols := by
  simp [namesAt]

theorem namesAt_append (descriptor : Descriptor)
    (symbols others : List (String × Descriptor)) :
    namesAt descriptor (symbols ++ others) =
      namesAt descriptor symbols ++ namesAt descriptor others := by
  simp [namesAt]

theorem namesAt_singleton (descriptor claimed : Descriptor) (name : String) :
    namesAt descriptor [(name, claimed)] =
      if claimed = descriptor then [name] else [] := by
  by_cases h : claimed = descriptor <;> simp [namesAt, h]

namespace NameMap

/-- A name that survives at its descriptor is entered there, and nothing else
changes. -/
theorem get?_insert_survivor {policy : CollisionPolicy} {names : NameMap}
    {name : String} {claimed : Descriptor}
    (h : policy.survivor ((names.get? claimed).toList ++ [name]) = some name)
    (descriptor : Descriptor) :
    (names.insert claimed name).get? descriptor = policy.survivor
      ((names.get? descriptor).toList ++ namesAt descriptor [(name, claimed)]) := by
  rw [namesAt_singleton]
  by_cases hclaimed : descriptor = claimed
  · rw [if_pos hclaimed.symm, hclaimed, h, Ordered.get?_insert_self]
  · rw [if_neg (Ne.symm hclaimed), List.append_nil, policy.survivor_toList,
      Ordered.get?_insert_of_ne names name hclaimed]

/-- A name that gives way at its descriptor changes nothing. -/
theorem get?_keep_survivor {policy : CollisionPolicy} {names : NameMap}
    {name : String} {claimed : Descriptor}
    (h : policy.survivor ((names.get? claimed).toList ++ [name]) =
      names.get? claimed) (descriptor : Descriptor) :
    names.get? descriptor = policy.survivor
      ((names.get? descriptor).toList ++ namesAt descriptor [(name, claimed)]) := by
  rw [namesAt_singleton]
  by_cases hclaimed : descriptor = claimed
  · rw [if_pos hclaimed.symm, hclaimed, h]
  · rw [if_neg (Ne.symm hclaimed), List.append_nil, policy.survivor_toList]

/-- One symbol that is entered leaves to each descriptor the survivor of the
name it had and, where the symbol claims it, of that of the symbol. -/
theorem enterSymbols_step {policy : CollisionPolicy}
    {symbol : String × Descriptor} {rest : List (String × Descriptor)}
    {names result : NameMap} {notes : List Note}
    (h : enterSymbols policy (symbol :: rest) names = .ok (result, notes)) :
    ∃ next told, enterSymbols policy rest next = .ok (result, told) ∧
      ∀ descriptor, next.get? descriptor = policy.survivor
        ((names.get? descriptor).toList ++ namesAt descriptor [symbol]) := by
  obtain ⟨name, claimed⟩ := symbol
  rw [enterSymbols] at h
  cases hname : names.get? claimed with
  | none =>
      rw [hname] at h
      refine ⟨_, notes, h, get?_insert_survivor ?_⟩
      rw [hname]
      exact policy.survivor_toList (some name)
  | some existing =>
      rw [hname] at h
      cases policy with
      | reject => cases h
      | keepFirst =>
          obtain ⟨⟨entered, told⟩, hrest, hresult⟩ := map_eq_ok_iff.mp h
          cases hresult
          refine ⟨names, told, hrest, get?_keep_survivor ?_⟩
          rw [hname]
          rfl
      | keepLast =>
          obtain ⟨⟨entered, told⟩, hrest, hresult⟩ := map_eq_ok_iff.mp h
          cases hresult
          refine ⟨_, told, hrest, get?_insert_survivor ?_⟩
          rw [hname]
          rfl

/-- Symbols that are entered leave to each descriptor the survivor of the name
it had and the names that they have for it. -/
theorem get?_enterSymbols {policy : CollisionPolicy}
    {symbols : List (String × Descriptor)} {names result : NameMap}
    {notes : List Note}
    (h : enterSymbols policy symbols names = .ok (result, notes))
    (descriptor : Descriptor) :
    result.get? descriptor = policy.survivor
      ((names.get? descriptor).toList ++ namesAt descriptor symbols) := by
  induction symbols generalizing names notes with
  | nil =>
      cases h
      exact (policy.survivor_toList _).symm.trans
        (congrArg policy.survivor (List.append_nil _).symm)
  | cons symbol rest ih =>
      obtain ⟨next, told, hrest, hnext⟩ := enterSymbols_step h
      have hsplit : namesAt descriptor (symbol :: rest) =
          namesAt descriptor [symbol] ++ namesAt descriptor rest :=
        namesAt_append descriptor [symbol] rest
      rw [ih hrest, hnext, policy.survivor_append, hsplit, List.append_assoc]

section OfSymbols

variable {symbols : SymbolTable} {policy : CollisionPolicy} {names : NameMap}
  {notes : List Note}

/-- The name map of a table has for each descriptor the survivor of the names
that the table has for it. -/
theorem get?_ofSymbols (h : ofSymbols symbols policy = .ok (names, notes))
    (descriptor : Descriptor) :
    names.get? descriptor =
      policy.survivor (namesAt descriptor symbols.toList) :=
  get?_enterSymbols h descriptor

/-- A symbol of a name map is one of the table. -/
theorem get?_of_get?_ofSymbols
    (h : ofSymbols symbols policy = .ok (names, notes)) {name : String}
    {descriptor : Descriptor} (hname : names.get? descriptor = some name) :
    symbols.get? name = some descriptor := by
  rw [get?_ofSymbols h] at hname
  have hmem := mem_namesAt.mp (CollisionPolicy.mem_of_survivor hname)
  exact (Ordered.mem_toList_iff symbols name descriptor).mp hmem

/-- No descriptor of a table is left without a name. -/
theorem mem_keys_ofSymbols (h : ofSymbols symbols policy = .ok (names, notes))
    (descriptor : Descriptor) :
    descriptor ∈ names.keys ↔ descriptor ∈ symbols.values := by
  have hkeys : descriptor ∈ names.keys ↔
      namesAt descriptor symbols.toList ≠ [] := by
    rw [Ordered.mem_keys_iff, ← Option.isSome_iff_exists, get?_ofSymbols h,
      Option.isSome_iff_ne_none, ne_eq, CollisionPolicy.survivor_eq_none_iff]
  rw [hkeys]
  constructor
  · intro hne
    obtain ⟨name, hname⟩ := List.exists_mem_of_ne_nil _ hne
    exact List.mem_map.mpr ⟨_, mem_namesAt.mp hname, rfl⟩
  · intro hvalue
    obtain ⟨⟨name, claimed⟩, hmem, rfl⟩ := List.mem_map.mp hvalue
    exact List.ne_nil_of_mem (mem_namesAt.mpr hmem)

end OfSymbols

/-- Where no two symbols claim one descriptor, and none a descriptor that has a
name, all of them are entered, whatever the policy, and nothing is recorded. -/
theorem enterSymbols_append_of_distinct (policy : CollisionPolicy)
    {symbols : List (String × Descriptor)} {names : NameMap}
    (hdistinct : (symbols.map Prod.snd).Nodup)
    (hnew : ∀ symbol ∈ symbols, names.get? symbol.2 = none)
    (others : List (String × Descriptor)) :
    enterSymbols policy (symbols ++ others) names =
      enterSymbols policy others ((symbols.map Prod.swap).foldl
        (fun names entry => names.insert entry.1 entry.2) names) := by
  induction symbols generalizing names with
  | nil => rfl
  | cons symbol rest ih =>
      obtain ⟨name, claimed⟩ := symbol
      obtain ⟨hclaimed, hrest⟩ := List.nodup_cons.mp hdistinct
      have hnext : ∀ symbol ∈ rest,
          (names.insert claimed name).get? symbol.2 = none :=
        Ordered.get?_insert_eq_none name hclaimed fun symbol hsymbol =>
          hnew symbol (List.mem_cons_of_mem _ hsymbol)
      have hfree : names.get? claimed = none :=
        hnew (name, claimed) List.mem_cons_self
      rw [List.cons_append, enterSymbols, hfree]
      exact ih hrest hnext

/-- A table that can be inverted has its inverse as name map. -/
theorem ofSymbols_of_inverse {symbols : SymbolTable} {names : NameMap}
    (h : Ordered.Inverse symbols names) (policy : CollisionPolicy) :
    ofSymbols symbols policy = .ok (names, []) := by
  rw [ofSymbols, ← List.append_nil symbols.toList,
    enterSymbols_append_of_distinct policy h.nodup_values fun symbol _ => rfl,
    h.eq_swapped]
  rfl

end NameMap

/-! ## Seeds -/

theorem SeedSet.mem_ofSymbols (symbols : SymbolTable) (extra : List Address)
    (address : Address) :
    address ∈ (SeedSet.ofSymbols symbols extra).members ↔
      (∃ descriptor ∈ symbols.values, descriptor.primary = address) ∨
        address ∈ extra := by
  rw [SeedSet.ofSymbols, Ordered.mem_members_ofList, List.mem_append,
    List.mem_map]

/-- Of the extra addresses only the set counts, also together with the
addresses of the symbols. -/
theorem SeedSet.ofSymbols_congr {symbols : SymbolTable}
    {extra extra' : List Address}
    (h : ∀ address, address ∉ symbols.values.map Descriptor.primary →
      (address ∈ extra' ↔ address ∈ extra)) :
    SeedSet.ofSymbols symbols extra' = SeedSet.ofSymbols symbols extra := by
  refine Ordered.eq_of_mem_members fun address => ?_
  rw [mem_ofSymbols, mem_ofSymbols, ← List.mem_map]
  by_cases hsymbol : address ∈ symbols.values.map Descriptor.primary
  · simp [hsymbol]
  · rw [h address hsymbol]

namespace Correlation

variable {symbols : SymbolTable} {extra : List Address}
  {policy : CollisionPolicy} {correlation : Correlation} {notes : List Note}

theorem ofSymbols_eq_ok_iff :
    ofSymbols symbols extra policy = .ok (correlation, notes) ↔
      correlation.seeds = SeedSet.ofSymbols symbols extra ∧
        NameMap.ofSymbols symbols policy = .ok (correlation.names, notes) := by
  rw [ofSymbols, map_eq_ok_iff]
  constructor
  · rintro ⟨⟨names, told⟩, hnames, heq⟩
    cases heq
    exact ⟨rfl, hnames⟩
  · rintro ⟨hseeds, hnames⟩
    refine ⟨_, hnames, ?_⟩
    rw [← hseeds]

/-- Seeds and names belong together.  The seeds are the primary words of the
name map and the extra addresses, which are also those of the table and the
extra addresses, in ascending order and each once.  They do not depend on the
order or the repetition of the extra addresses; the seeds themselves may be
given as extra addresses; and no policy has other seeds. -/
theorem seeds_coherent
    (h : ofSymbols symbols extra policy = .ok (correlation, notes)) :
    (∀ address, address ∈ correlation.seeds.members ↔
      (∃ descriptor ∈ correlation.names.keys, descriptor.primary = address) ∨
        address ∈ extra) ∧
    (∀ address, address ∈ correlation.seeds.members ↔
      (∃ descriptor ∈ symbols.values, descriptor.primary = address) ∨
        address ∈ extra) ∧
    correlation.seeds.members.Pairwise (· < ·) ∧
    (∀ extra', (∀ address, address ∈ extra' ↔ address ∈ extra) →
      ofSymbols symbols extra' policy = .ok (correlation, notes)) ∧
    ofSymbols symbols correlation.seeds.members policy =
      .ok (correlation, notes) ∧
    ∀ policy' correlation' notes',
      ofSymbols symbols extra policy' = .ok (correlation', notes') →
      correlation'.seeds = correlation.seeds := by
  obtain ⟨hseeds, hnames⟩ := ofSymbols_eq_ok_iff.mp h
  have hmem : ∀ address, address ∈ correlation.seeds.members ↔
      (∃ descriptor ∈ symbols.values, descriptor.primary = address) ∨
        address ∈ extra := by
    intro address
    rw [hseeds, SeedSet.mem_ofSymbols]
  refine ⟨?_, hmem, Address.pairwise_members _, ?_, ?_, ?_⟩
  · intro address
    rw [hmem]
    simp only [NameMap.mem_keys_ofSymbols hnames]
  · intro extra' hsame
    refine ofSymbols_eq_ok_iff.mpr ⟨?_, hnames⟩
    rw [hseeds, SeedSet.ofSymbols_congr fun address _ => hsame address]
  · refine ofSymbols_eq_ok_iff.mpr ⟨?_, hnames⟩
    rw [hseeds]
    refine (SeedSet.ofSymbols_congr fun address hnone => ?_).symm
    rw [SeedSet.mem_ofSymbols, ← List.mem_map]
    simp [hnone]
  · intro policy' correlation' notes' h'
    rw [hseeds, (ofSymbols_eq_ok_iff.mp h').1]

/-- Two names share a descriptor and one of them gives way; the seeds are the
same as without it, and the same as with other repetitions. -/
theorem seeds_of_shared_descriptor :
    let symbols : SymbolTable :=
      .ofList [("zeta", ⟨16, 0⟩), ("alpha", ⟨16, 0⟩), ("beta", ⟨16, 4⟩)]
    ∃ correlation notes,
      ofSymbols symbols [32, 16, 32] .keepLast = .ok (correlation, notes) ∧
      correlation.names.toList = [(⟨16, 0⟩, "zeta"), (⟨16, 4⟩, "beta")] ∧
      correlation.seeds.members = [16, 32] ∧
      ofSymbols symbols [16, 32] .keepLast = .ok (correlation, notes) := by
  intro symbols
  have hnames : NameMap.ofSymbols symbols .keepLast =
      .ok (.ofList [(⟨16, 0⟩, "zeta"), (⟨16, 4⟩, "beta")],
        [renamingNote "zeta" "alpha" ⟨16, 0⟩]) := rfl
  have h : ofSymbols symbols [32, 16, 32] .keepLast = .ok
      (⟨SeedSet.ofSymbols symbols [32, 16, 32],
        .ofList [(⟨16, 0⟩, "zeta"), (⟨16, 4⟩, "beta")]⟩,
        [renamingNote "zeta" "alpha" ⟨16, 0⟩]) :=
    ofSymbols_eq_ok_iff.mpr ⟨rfl, hnames⟩
  obtain ⟨-, -, -, -, hagain, -⟩ := seeds_coherent h
  exact ⟨_, _, h, rfl, rfl, hagain⟩

end Correlation

end Relift
