import Relift.Proofs.Correlation
import Relift.Proofs.Utf8

/-!
# Names that share a descriptor

Symbols are entered into a name map in ascending order of their names, and a
policy settles what happens where a descriptor already has a name.  What comes
out can be said without that walk: it depends on the table alone, by the order
of the names that the table has for a descriptor.  Names ascend by their bytes.

A row of symbols without a repeated descriptor is entered as it is, so under
the policy that rejects everything turns on the first symbol that repeats one
(`exists_first_repeated`): before it nothing is repeated, and therefore just one
smaller name shares its descriptor.

## Main results

* `NameMap.ofSymbols_settled` — the name map of a table, or the collision that
  is reported, under each policy.
* `Correlation.insertion_order_immaterial` — tables filled in different ways
  and extra addresses listed in different ways have the same results.
-/

namespace Relift

/-! ## First and last of an ascending row -/

section Ascending

variable {α : Type} {R : α → α → Prop} {row : List α}

private theorem head?_of_pairwise (hasymm : ∀ a b, R a b → ¬ R b a)
    (h : row.Pairwise R) (a : α) :
    row.head? = some a ↔ a ∈ row ∧ ∀ b ∈ row, ¬ R b a := by
  cases row with
  | nil => simp
  | cons first rest =>
      obtain ⟨hfirst, -⟩ := List.pairwise_cons.mp h
      rw [List.head?_cons, Option.some.injEq]
      constructor
      · rintro rfl
        refine ⟨List.mem_cons_self, fun b hb hba => ?_⟩
        rcases List.mem_cons.mp hb with rfl | hb
        · exact hasymm b b hba hba
        · exact hasymm first b (hfirst b hb) hba
      · rintro ⟨ha, hleast⟩
        rcases List.mem_cons.mp ha with rfl | ha
        · rfl
        · exact absurd (hfirst a ha) (hleast first List.mem_cons_self)

private theorem getLast?_of_pairwise (hasymm : ∀ a b, R a b → ¬ R b a)
    (h : row.Pairwise R) (a : α) :
    row.getLast? = some a ↔ a ∈ row ∧ ∀ b ∈ row, ¬ R a b := by
  have hreverse : row.reverse.Pairwise fun a b => R b a :=
    List.pairwise_reverse.mpr h
  rw [← List.head?_reverse,
    head?_of_pairwise (fun a b hba hab => hasymm a b hab hba) hreverse]
  simp only [List.mem_reverse]

end Ascending

/-! ## What a table says about shared descriptors -/

namespace SymbolTable

/-- No two names of a table have the same descriptor. -/
def Injective (symbols : SymbolTable) : Prop :=
  ∀ name other descriptor, symbols.get? name = some descriptor →
    symbols.get? other = some descriptor → name = other

/-- Of the names that a table has for a descriptor, this is the least. -/
def IsLeastName (symbols : SymbolTable) (descriptor : Descriptor)
    (name : String) : Prop :=
  symbols.get? name = some descriptor ∧
    ∀ other, symbols.get? other = some descriptor →
      Text.utf8 name ≤ Text.utf8 other

/-- Of the names that a table has for a descriptor, this is the greatest. -/
def IsGreatestName (symbols : SymbolTable) (descriptor : Descriptor)
    (name : String) : Prop :=
  symbols.get? name = some descriptor ∧
    ∀ other, symbols.get? other = some descriptor →
      Text.utf8 other ≤ Text.utf8 name

/-- A name has a descriptor that a smaller name has too. -/
def Repeats (symbols : SymbolTable) (name : String) : Prop :=
  ∃ other descriptor, symbols.get? name = some descriptor ∧
    symbols.get? other = some descriptor ∧ Text.utf8 other < Text.utf8 name

/-- The collision that is met first when names are visited in ascending
order. -/
structure FirstCollision (symbols : SymbolTable) (descriptor : Descriptor)
    (kept rejected : String) : Prop where
  rejected_at : symbols.get? rejected = some descriptor
  kept_at : symbols.get? kept = some descriptor
  kept_lt : Text.utf8 kept < Text.utf8 rejected
  /-- No other smaller name shares the descriptor. -/
  kept_unique : ∀ other, symbols.get? other = some descriptor →
    Text.utf8 other < Text.utf8 rejected → other = kept
  /-- No smaller name repeats a descriptor. -/
  rejected_least : ∀ name, symbols.Repeats name →
    Text.utf8 rejected ≤ Text.utf8 name

variable {symbols : SymbolTable}

theorem ascending_toList (symbols : SymbolTable) :
    symbols.toList.Pairwise fun a b => Text.utf8 a.1 < Text.utf8 b.1 :=
  symbols.ordered.imp fun hlt =>
    Text.utf8_lt_utf8.mpr (compareOfLessAndEq_eq_lt.mp hlt)

theorem injective_iff : symbols.Injective ↔ symbols.values.Nodup :=
  Ordered.nodup_values_iff.symm

/-- There is only one first collision. -/
theorem FirstCollision.unique {descriptor descriptor' : Descriptor}
    {kept kept' rejected rejected' : String}
    (h : FirstCollision symbols descriptor kept rejected)
    (h' : FirstCollision symbols descriptor' kept' rejected') :
    descriptor = descriptor' ∧ kept = kept' ∧ rejected = rejected' := by
  have hle : Text.utf8 rejected ≤ Text.utf8 rejected' :=
    h.rejected_least rejected' ⟨kept', _, h'.rejected_at, h'.kept_at, h'.kept_lt⟩
  have hge : Text.utf8 rejected' ≤ Text.utf8 rejected :=
    h'.rejected_least rejected ⟨kept, _, h.rejected_at, h.kept_at, h.kept_lt⟩
  have hrejected : rejected = rejected' :=
    String.le_antisymm (Text.utf8_le_utf8.mp hle) (Text.utf8_le_utf8.mp hge)
  subst hrejected
  have hdescriptor : descriptor = descriptor' :=
    Option.some.inj (h.rejected_at.symm.trans h'.rejected_at)
  subst hdescriptor
  exact ⟨rfl, h'.kept_unique kept h.kept_at h.kept_lt, rfl⟩

theorem FirstCollision.not_injective {descriptor : Descriptor}
    {kept rejected : String}
    (h : FirstCollision symbols descriptor kept rejected) :
    ¬ symbols.Injective := by
  intro hinjective
  have hsame : kept = rejected :=
    hinjective kept rejected descriptor h.kept_at h.rejected_at
  have hlt := h.kept_lt
  rw [hsame] at hlt
  exact List.lt_irrefl _ hlt

/-! ## The first repeated descriptor -/

/-- Where a descriptor is repeated, some symbol is the first to repeat one. -/
theorem exists_first_repeated (row : List (String × Descriptor)) :
    ∀ before, (before.map Prod.snd).Nodup →
      ¬ ((before ++ row).map Prod.snd).Nodup →
      ∃ seen kept rejected descriptor after,
        before ++ row = seen ++ (rejected, descriptor) :: after ∧
        (seen.map Prod.snd).Nodup ∧ (kept, descriptor) ∈ seen := by
  induction row with
  | nil =>
      intro before hbefore hrepeated
      rw [List.append_nil] at hrepeated
      exact absurd hbefore hrepeated
  | cons symbol rest ih =>
      intro before hbefore hrepeated
      by_cases hseen : symbol.2 ∈ before.map Prod.snd
      · obtain ⟨⟨kept, descriptor⟩, hkept, hsame⟩ := List.mem_map.mp hseen
        refine ⟨before, kept, symbol.1, descriptor, rest, ?_, hbefore, hkept⟩
        rw [show descriptor = symbol.2 from hsame]
      · have hlonger : ((before ++ [symbol]).map Prod.snd).Nodup := by
          rw [List.map_append, List.map_singleton, ← List.concat_eq_append]
          exact hbefore.concat hseen
        have hassoc : before ++ symbol :: rest = before ++ [symbol] ++ rest := by
          simp
        rw [hassoc] at hrepeated ⊢
        exact ih (before ++ [symbol]) hlonger hrepeated

section Split

variable {before after : List (String × Descriptor)} {rejected : String}
  {descriptor : Descriptor}

/-- Before a symbol of a table stand those with smaller names. -/
theorem mem_before_iff
    (h : symbols.toList = before ++ (rejected, descriptor) :: after)
    (name : String) (claimed : Descriptor) :
    (name, claimed) ∈ before ↔ symbols.get? name = some claimed ∧
      Text.utf8 name < Text.utf8 rejected := by
  have hascending := symbols.ascending_toList
  rw [h, List.pairwise_append, List.pairwise_cons] at hascending
  obtain ⟨-, ⟨hafter, -⟩, hbefore⟩ := hascending
  rw [← Ordered.mem_toList_iff, h]
  constructor
  · intro hmem
    exact ⟨List.mem_append_left _ hmem,
      hbefore (name, claimed) hmem (rejected, descriptor) List.mem_cons_self⟩
  · rintro ⟨hmem, hlt⟩
    rcases List.mem_append.mp hmem with hmem | hmem
    · exact hmem
    · rcases List.mem_cons.mp hmem with heq | hmem
      · cases heq
        exact absurd hlt (List.lt_irrefl _)
      · exact absurd hlt (List.lt_asymm (hafter (name, claimed) hmem))

/-- The first symbol of a table that repeats a descriptor is the first
collision: among the smaller names a descriptor tells its name. -/
theorem firstCollision_of_split {kept : String}
    (h : symbols.toList = before ++ (rejected, descriptor) :: after)
    (hdistinct : (before.map Prod.snd).Nodup)
    (hkept : (kept, descriptor) ∈ before) :
    FirstCollision symbols descriptor kept rejected := by
  have hmem := mem_before_iff h
  have hname : ∀ name other claimed, (name, claimed) ∈ before →
      (other, claimed) ∈ before → name = other := by
    intro name other claimed hfirst hsecond
    exact congrArg Prod.fst
      (List.inj_on_of_nodup_map hdistinct hfirst hsecond rfl)
  obtain ⟨hkeptAt, hkeptLt⟩ := (hmem kept descriptor).mp hkept
  refine ⟨?_, hkeptAt, hkeptLt, ?_, ?_⟩
  · rw [← Ordered.mem_toList_iff, h]
    exact List.mem_append_right _ List.mem_cons_self
  · intro other hother hlt
    exact hname other kept descriptor ((hmem other descriptor).mpr ⟨hother, hlt⟩)
      hkept
  · rintro name ⟨other, claimed, hname', hother, hlt⟩
    rw [← List.not_lt]
    intro hsmaller
    have hotherLt : Text.utf8 other < Text.utf8 rejected :=
      List.lt_trans hlt hsmaller
    have hsame : other = name := hname other name claimed
      ((hmem other claimed).mpr ⟨hother, hotherLt⟩)
      ((hmem name claimed).mpr ⟨hname', hsmaller⟩)
    rw [hsame] at hlt
    exact List.lt_irrefl _ hlt

end Split

end SymbolTable

/-! ## The three policies -/

namespace NameMap

/-- A policy that keeps a name always comes to an end. -/
theorem enterSymbols_of_keep {policy : CollisionPolicy}
    (h : policy ≠ .reject) (symbols : List (String × Descriptor)) :
    ∀ names, ∃ result notes,
      enterSymbols policy symbols names = .ok (result, notes) := by
  induction symbols with
  | nil => intro names; exact ⟨names, [], rfl⟩
  | cons symbol rest ih =>
      intro names
      obtain ⟨name, descriptor⟩ := symbol
      rw [enterSymbols]
      cases names.get? descriptor with
      | none => exact ih (names.insert descriptor name)
      | some existing =>
          cases policy with
          | reject => exact absurd rfl h
          | keepFirst =>
              obtain ⟨result, notes, hrest⟩ := ih names
              exact ⟨result, _, map_eq_ok_iff.mpr ⟨_, hrest, rfl⟩⟩
          | keepLast =>
              obtain ⟨result, notes, hrest⟩ := ih (names.insert descriptor name)
              exact ⟨result, _, map_eq_ok_iff.mpr ⟨_, hrest, rfl⟩⟩

/-- Under a policy that keeps a name, a table has a name map, in which each of
its descriptors has the policy's survivor. -/
theorem exists_ofSymbols_of_keep (symbols : SymbolTable)
    {policy : CollisionPolicy} (h : policy ≠ .reject) :
    ∃ names notes, ofSymbols symbols policy = .ok (names, notes) ∧
      (∀ descriptor, descriptor ∈ names.keys ↔ descriptor ∈ symbols.values) ∧
      ∀ descriptor, names.get? descriptor =
        policy.survivor (namesAt descriptor symbols.toList) := by
  obtain ⟨names, notes, hnames⟩ := enterSymbols_of_keep h symbols.toList ∅
  exact ⟨names, notes, hnames, mem_keys_ofSymbols hnames, get?_ofSymbols hnames⟩

section Keeping

variable (symbols : SymbolTable) (descriptor : Descriptor)

theorem mem_namesAt_toList (name : String) :
    name ∈ namesAt descriptor symbols.toList ↔
      symbols.get? name = some descriptor := by
  rw [mem_namesAt, Ordered.mem_toList_iff]

theorem ascending_namesAt :
    (namesAt descriptor symbols.toList).Pairwise fun a b =>
      Text.utf8 a < Text.utf8 b :=
  List.pairwise_map.mpr (symbols.ascending_toList.filter _)

/-- The name that is visited first is the least. -/
theorem survivor_keepFirst_iff (name : String) :
    CollisionPolicy.keepFirst.survivor (namesAt descriptor symbols.toList) =
      some name ↔ symbols.IsLeastName descriptor name := by
  have hfirst := head?_of_pairwise (fun a b => List.lt_asymm)
    (ascending_namesAt symbols descriptor) name
  simp only [mem_namesAt_toList, List.not_lt] at hfirst
  exact hfirst

/-- The name that is visited last is the greatest. -/
theorem survivor_keepLast_iff (name : String) :
    CollisionPolicy.keepLast.survivor (namesAt descriptor symbols.toList) =
      some name ↔ symbols.IsGreatestName descriptor name := by
  have hlast := getLast?_of_pairwise (fun a b => List.lt_asymm)
    (ascending_namesAt symbols descriptor) name
  simp only [mem_namesAt_toList, List.not_lt] at hlast
  exact hlast

end Keeping

theorem enterSymbols_reject_of_named {names : NameMap} {descriptor : Descriptor}
    {existing : String} (h : names.get? descriptor = some existing)
    (name : String) (rest : List (String × Descriptor)) :
    enterSymbols .reject ((name, descriptor) :: rest) names =
      .error (.nameCollision descriptor existing name) := by
  rw [enterSymbols, h]

/-- A table in which a descriptor is shared is rejected for its first
collision: the walk enters what stands before and then finds the kept name. -/
theorem ofSymbols_reject_of_shared {symbols : SymbolTable}
    (h : ¬ symbols.Injective) :
    ∃ descriptor kept rejected,
      symbols.FirstCollision descriptor kept rejected ∧
      ofSymbols symbols .reject =
        .error (.nameCollision descriptor kept rejected) := by
  rw [SymbolTable.injective_iff] at h
  obtain ⟨before, kept, rejected, descriptor, after, hsplit, hdistinct, hkept⟩ :=
    SymbolTable.exists_first_repeated symbols.toList [] List.nodup_nil h
  refine ⟨descriptor, kept, rejected,
    SymbolTable.firstCollision_of_split hsplit hdistinct hkept, ?_⟩
  have hkeys : ((before.map Prod.swap).map Prod.fst).Nodup := by
    rw [List.map_map]
    exact hdistinct
  have hentered : (Ordered.Map.ofList (before.map Prod.swap)).get? descriptor =
      some kept := by
    rw [Ordered.get?_ofList, Ordered.lastEntry_of_distinct hkeys]
    exact List.mem_map.mpr ⟨_, hkept, rfl⟩
  rw [ofSymbols, show symbols.toList = _ from hsplit,
    enterSymbols_append_of_distinct .reject hdistinct fun symbol _ => rfl]
  exact enterSymbols_reject_of_named hentered rejected after

/-- The policy that rejects takes a table exactly if it can be inverted, and
gives its inverse then. -/
theorem ofSymbols_reject_eq_ok_iff {symbols : SymbolTable} {names : NameMap}
    {notes : List Note} :
    ofSymbols symbols .reject = .ok (names, notes) ↔
      Ordered.Inverse symbols names ∧ notes = [] := by
  constructor
  · intro hnames
    by_cases hinjective : symbols.Injective
    · have hinverse : Ordered.Inverse symbols symbols.swapped :=
        Ordered.inverse_swapped (SymbolTable.injective_iff.mp hinjective)
      rw [ofSymbols_of_inverse hinverse] at hnames
      cases hnames
      exact ⟨hinverse, rfl⟩
    · obtain ⟨descriptor, kept, rejected, -, hrejected⟩ :=
        ofSymbols_reject_of_shared hinjective
      rw [hrejected] at hnames
      cases hnames
  · rintro ⟨hinverse, rfl⟩
    exact ofSymbols_of_inverse hinverse .reject

/-- What is reported under the policy that rejects is the first collision. -/
theorem ofSymbols_reject_eq_error_iff {symbols : SymbolTable} {e : Error} :
    ofSymbols symbols .reject = .error e ↔
      ∃ descriptor kept rejected,
        symbols.FirstCollision descriptor kept rejected ∧
        e = .nameCollision descriptor kept rejected := by
  constructor
  · intro herror
    by_cases hinjective : symbols.Injective
    · rw [ofSymbols_of_inverse (Ordered.inverse_swapped
        (SymbolTable.injective_iff.mp hinjective))] at herror
      cases herror
    · obtain ⟨descriptor, kept, rejected, hfirst, hrejected⟩ :=
        ofSymbols_reject_of_shared hinjective
      rw [hrejected] at herror
      cases herror
      exact ⟨descriptor, kept, rejected, hfirst, rfl⟩
  · rintro ⟨descriptor, kept, rejected, hfirst, rfl⟩
    obtain ⟨descriptor', kept', rejected', hfirst', hrejected⟩ :=
      ofSymbols_reject_of_shared hfirst.not_injective
    obtain ⟨rfl, rfl, rfl⟩ := hfirst.unique hfirst'
    exact hrejected

/-- A table alone decides which names its name map has.  Where the first name is
kept, each descriptor has the least of its names; where the last is kept, the
greatest.  Under the policy that rejects, a table has a name map exactly if no
descriptor is shared; the name map is its inverse then, and otherwise the least
name that repeats a descriptor is reported, together with the one smaller name
that has it. -/
theorem ofSymbols_settled (symbols : SymbolTable) :
    (∃ names notes, ofSymbols symbols .keepFirst = .ok (names, notes) ∧
      (∀ descriptor, descriptor ∈ names.keys ↔ descriptor ∈ symbols.values) ∧
      ∀ descriptor name, names.get? descriptor = some name ↔
        symbols.IsLeastName descriptor name) ∧
    (∃ names notes, ofSymbols symbols .keepLast = .ok (names, notes) ∧
      (∀ descriptor, descriptor ∈ names.keys ↔ descriptor ∈ symbols.values) ∧
      ∀ descriptor name, names.get? descriptor = some name ↔
        symbols.IsGreatestName descriptor name) ∧
    ((∃ names notes, ofSymbols symbols .reject = .ok (names, notes)) ↔
      symbols.Injective) ∧
    (∀ names notes, ofSymbols symbols .reject = .ok (names, notes) →
      ∀ name descriptor, symbols.get? name = some descriptor ↔
        names.get? descriptor = some name) ∧
    ∀ e, ofSymbols symbols .reject = .error e ↔
      ∃ descriptor kept rejected,
        symbols.FirstCollision descriptor kept rejected ∧
        e = .nameCollision descriptor kept rejected := by
  refine ⟨?_, ?_, ?_, ?_, fun e => ofSymbols_reject_eq_error_iff⟩
  · obtain ⟨names, notes, hnames, hkeys, hget⟩ :=
      exists_ofSymbols_of_keep symbols
        (by decide : CollisionPolicy.keepFirst ≠ .reject)
    refine ⟨names, notes, hnames, hkeys, fun descriptor name => ?_⟩
    rw [hget, survivor_keepFirst_iff]
  · obtain ⟨names, notes, hnames, hkeys, hget⟩ :=
      exists_ofSymbols_of_keep symbols
        (by decide : CollisionPolicy.keepLast ≠ .reject)
    refine ⟨names, notes, hnames, hkeys, fun descriptor name => ?_⟩
    rw [hget, survivor_keepLast_iff]
  · constructor
    · rintro ⟨names, notes, hnames⟩
      obtain ⟨hinverse, -⟩ := ofSymbols_reject_eq_ok_iff.mp hnames
      exact SymbolTable.injective_iff.mpr hinverse.nodup_values
    · intro hinjective
      exact ⟨symbols.swapped, [], ofSymbols_reject_eq_ok_iff.mpr
        ⟨Ordered.inverse_swapped (SymbolTable.injective_iff.mp hinjective), rfl⟩⟩
  · intro names notes hnames
    exact (ofSymbols_reject_eq_ok_iff.mp hnames).1

/-- The smallest name that repeats a descriptor is met first, although the other
descriptor is shared by a smaller name still. -/
example :
    ofSymbols (.ofList [("b", ⟨2, 0⟩), ("e", ⟨1, 0⟩), ("a", ⟨1, 0⟩),
      ("d", ⟨2, 0⟩), ("c", ⟨3, 0⟩)]) .reject =
      .error (.nameCollision ⟨2, 0⟩ "b" "d") := by
  rfl

end NameMap

/-! ## Histories -/

namespace Correlation

/-- Symbols and extra addresses have a correlation, or two of the names
collide. -/
theorem ofSymbols_cases (symbols : SymbolTable) (extra : List Address)
    (policy : CollisionPolicy) :
    (∃ correlation notes,
      ofSymbols symbols extra policy = .ok (correlation, notes)) ∨
    ∃ descriptor kept rejected, ofSymbols symbols extra policy =
      .error (.nameCollision descriptor kept rejected) := by
  rw [ofSymbols]
  cases hnames : NameMap.ofSymbols symbols policy with
  | ok found => exact .inl ⟨_, _, rfl⟩
  | error e =>
      by_cases hpolicy : policy = .reject
      · rw [hpolicy] at hnames
        obtain ⟨descriptor, kept, rejected, -, rfl⟩ :=
          NameMap.ofSymbols_reject_eq_error_iff.mp hnames
        exact .inr ⟨descriptor, kept, rejected, rfl⟩
      · obtain ⟨names, notes, hkept, -, -⟩ :=
          NameMap.exists_ofSymbols_of_keep symbols hpolicy
        rw [hkept] at hnames
        cases hnames

/-- It does not matter in which order symbols are inserted into a table, nor
which earlier insertions later ones replace, nor in which order and how often
extra addresses are listed.  Two tables in which each name was last inserted
with the same descriptor have the same collision reported, or have the same
seeds and names, with the same records in the same order and the same bytes in
the files that are written. -/
theorem insertion_order_immaterial {first second : List (String × Descriptor)}
    {extra extra' : List Address}
    (hsymbols : ∀ name descriptor, Ordered.LastEntry first name descriptor ↔
      Ordered.LastEntry second name descriptor)
    (hextra : ∀ address, address ∈ extra ↔ address ∈ extra')
    (policy : CollisionPolicy) :
    (∃ descriptor kept rejected,
      ofSymbols (.ofList first) extra policy =
        .error (.nameCollision descriptor kept rejected) ∧
      ofSymbols (.ofList second) extra' policy =
        .error (.nameCollision descriptor kept rejected)) ∨
    ∃ correlation correlation' notes,
      ofSymbols (.ofList first) extra policy = .ok (correlation, notes) ∧
      ofSymbols (.ofList second) extra' policy = .ok (correlation', notes) ∧
      correlation.seeds.members = correlation'.seeds.members ∧
      correlation.names.toList = correlation'.names.toList ∧
      Text.utf8 (AddressFile.render correlation.seeds.members) =
        Text.utf8 (AddressFile.render correlation'.seeds.members) ∧
      Text.utf8 (NameMapFile.render correlation.names) =
        Text.utf8 (NameMapFile.render correlation'.names) := by
  have htable : (Ordered.Map.ofList first : SymbolTable) = .ofList second :=
    Ordered.ofList_eq_ofList_iff.mpr hsymbols
  have hseeds : SeedSet.ofSymbols (.ofList second) extra =
      SeedSet.ofSymbols (.ofList second) extra' :=
    SeedSet.ofSymbols_congr fun address _ => hextra address
  have hsame : ofSymbols (.ofList first) extra policy =
      ofSymbols (.ofList second) extra' policy := by
    rw [htable, ofSymbols, ofSymbols, hseeds]
  rcases ofSymbols_cases (.ofList second) extra' policy with
    ⟨correlation, notes, hsecond⟩ | ⟨descriptor, kept, rejected, hsecond⟩
  · rw [hsame]
    exact .inr ⟨correlation, correlation, notes, hsecond, hsecond, rfl, rfl, rfl,
      rfl⟩
  · rw [hsame]
    exact .inl ⟨descriptor, kept, rejected, hsecond, hsecond⟩

/-- One history inserts a name twice and in another order than the other, which
lists the extra addresses without repetition. -/
theorem rearranged_history_agrees :
    let first : List (String × Descriptor) :=
      [("zeta", ⟨16, 0⟩), ("alpha", ⟨32, 0⟩), ("alpha", ⟨16, 0⟩)]
    let second : List (String × Descriptor) :=
      [("alpha", ⟨16, 0⟩), ("zeta", ⟨16, 0⟩)]
    let notes := [renamingNote "zeta" "alpha" ⟨16, 0⟩]
    ∃ correlation correlation',
      ofSymbols (.ofList first) [48, 16, 48] .keepLast =
        .ok (correlation, notes) ∧
      ofSymbols (.ofList second) [16, 48] .keepLast =
        .ok (correlation', notes) ∧
      Text.utf8 (AddressFile.render correlation.seeds.members) =
        Text.utf8 (AddressFile.render correlation'.seeds.members) ∧
      Text.utf8 (NameMapFile.render correlation.names) =
        Text.utf8 (NameMapFile.render correlation'.names) := by
  intro first second notes
  have hsymbols : ∀ name descriptor,
      Ordered.LastEntry first name descriptor ↔
        Ordered.LastEntry second name descriptor :=
    Ordered.ofList_eq_ofList_iff.mp (Ordered.Map.ext rfl)
  have hextra : ∀ address : Address,
      address ∈ ([48, 16, 48] : List Address) ↔
        address ∈ ([16, 48] : List Address) := by
    intro address
    simp only [List.mem_cons, List.not_mem_nil, or_false]
    tauto
  have hfirst : NameMap.ofSymbols (.ofList first) .keepLast =
      .ok (.ofList [(⟨16, 0⟩, "zeta")], notes) := rfl
  rcases insertion_order_immaterial hsymbols hextra .keepLast with
    ⟨descriptor, kept, rejected, herror, -⟩ |
    ⟨correlation, correlation', told, hok, hok', -, -, hseeds, hnames⟩
  · rw [ofSymbols, hfirst] at herror
    cases herror
  · have htold : told = notes := by
      have hnamed := (ofSymbols_eq_ok_iff.mp hok).2
      rw [hfirst] at hnamed
      exact (congrArg Prod.snd (Except.ok.inj hnamed)).symm
    rw [htold] at hok hok'
    exact ⟨correlation, correlation', hok, hok', hseeds, hnames⟩

end Correlation

end Relift
