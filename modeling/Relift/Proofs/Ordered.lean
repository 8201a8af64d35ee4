import Mathlib.Data.List.Nodup
import Relift.Address
import Relift.Ordered.Map

/-!
# What ordered maps and sets hold

The order of the entries is part of the type of a map.  This module says which
entries there are: what `get?` finds after an insertion or a selection, and
that the set of a list has exactly the members of the list.

Since the order is fixed, nothing but the entries tells two maps apart
(`eq_of_get?_eq`).  A map filled from a list has the last value that the list
gives a key (`get?_ofList`), and where no key comes twice the list is only
brought into order (`toList_ofList_perm`).  A map grows by one with each new key
(`size_insert_of_none`) and with nothing else.
-/

namespace Relift.Ordered

variable {κ ν : Type} [Ord κ]

/-! ## Maps -/

theorem get?_empty (key : κ) : (Map.empty : Map κ ν).get? key = none :=
  rfl

section Lookup

variable [Std.LawfulEqOrd κ]

theorem find?_insertEntry (key : κ) (value : ν) (other : κ)
    (entries : List (κ × ν)) :
    (insertEntry key value entries).find?
        (fun entry => compare other entry.1 == .eq) =
      if compare other key = .eq then some (key, value)
      else entries.find? fun entry => compare other entry.1 == .eq := by
  induction entries with
  | nil => by_cases h : compare other key = .eq <;> simp [insertEntry, h]
  | cons head rest ih =>
      rw [insertEntry]
      split
      next hlt => by_cases h : compare other key = .eq <;> simp [h]
      next heq =>
        have hkey : key = head.1 := Std.LawfulEqOrd.eq_of_compare heq
        by_cases h : compare other key = .eq
        · simp [h]
        · simp [h, ← hkey]
      next hgt =>
        rw [List.find?_cons, ih, List.find?_cons]
        by_cases h : compare other key = .eq
        · have hother : other = key := Std.LawfulEqOrd.eq_of_compare h
          simp [hother, hgt]
        · simp [h]

/-- An insertion changes what is found under its own key and nothing else. -/
theorem get?_insert [Std.TransOrd κ] (m : Map κ ν) (key : κ) (value : ν)
    (other : κ) :
    (m.insert key value).get? other =
      if compare other key = .eq then some value else m.get? other := by
  rw [Map.get?, Map.insert, find?_insertEntry]
  split <;> rfl

theorem get?_insert_self [Std.TransOrd κ] (m : Map κ ν) (key : κ) (value : ν) :
    (m.insert key value).get? key = some value := by
  rw [get?_insert, if_pos Std.ReflCmp.compare_self]

theorem get?_insert_of_ne [Std.TransOrd κ] (m : Map κ ν) {key other : κ}
    (value : ν) (h : other ≠ key) :
    (m.insert key value).get? other = m.get? other := by
  rw [get?_insert, if_neg fun heq => h (Std.LawfulEqOrd.eq_of_compare heq)]

/-- Keys that are new to a map stay new when another key is entered. -/
theorem get?_insert_eq_none [Std.TransOrd κ] {α : Type} {m : Map κ ν} {key : κ}
    {keyOf : α → κ} {items : List α} (value : ν) (hkey : key ∉ items.map keyOf)
    (hnew : ∀ item ∈ items, m.get? (keyOf item) = none) :
    ∀ item ∈ items, (m.insert key value).get? (keyOf item) = none := by
  intro item hitem
  have hne : keyOf item ≠ key :=
    fun heq => hkey (List.mem_map.mpr ⟨item, hitem, heq⟩)
  rw [get?_insert_of_ne m value hne]
  exact hnew item hitem

/-- A selection by keys keeps what is found under a selected key. -/
theorem get?_filter (m : Map κ ν) (keep : κ → Bool) (key : κ) :
    (m.filter fun other _ => keep other).get? key =
      if keep key then m.get? key else none := by
  have hfind : ∀ entries : List (κ × ν),
      (entries.filter fun entry => keep entry.1).find?
          (fun entry => compare key entry.1 == .eq) =
        if keep key then
          entries.find? fun entry => compare key entry.1 == .eq
        else none := by
    intro entries
    induction entries with
    | nil => simp
    | cons head rest ih =>
        rw [List.filter_cons, List.find?_cons]
        by_cases h : compare key head.1 = .eq
        · have hkey : key = head.1 := Std.LawfulEqOrd.eq_of_compare h
          rw [← hkey]
          by_cases hkeep : keep key <;> simp [hkeep, ih, ← hkey]
        · have hnot : (compare key head.1 == .eq) = false := by simpa using h
          by_cases hkeep : keep head.1 <;> simp [hkeep, ih, hnot]
  rw [Map.get?, Map.filter, hfind]
  split <;> rfl

theorem mem_keys_insert [Std.TransOrd κ] (m : Map κ ν) (key : κ) (value : ν)
    (other : κ) :
    other ∈ (m.insert key value).keys ↔ other = key ∨ other ∈ m.keys := by
  show other ∈ (insertEntry key value m.toList).map Prod.fst ↔
    other = key ∨ other ∈ m.toList.map Prod.fst
  induction m.toList with
  | nil => simp [insertEntry]
  | cons head rest ih =>
      rw [insertEntry]
      split
      next hlt => simp
      next heq =>
        have hkey : key = head.1 := Std.LawfulEqOrd.eq_of_compare heq
        simp [← hkey]
      next hgt =>
        rw [List.map_cons, List.mem_cons, ih]
        simp only [List.map_cons, List.mem_cons]
        exact or_left_comm

end Lookup

section Distinct

variable [Std.TransOrd κ]

theorem ne_of_compare_eq_lt {a b : κ} (h : compare a b = .lt) : a ≠ b := by
  intro hab
  have hself : compare b b = .eq := Std.ReflCmp.compare_self
  rw [hab, hself] at h
  cases h

theorem nodup_toList (m : Map κ ν) : m.toList.Nodup := by
  refine m.ordered.imp fun hlt hab => ?_
  exact ne_of_compare_eq_lt hlt (congrArg Prod.fst hab)

theorem nodup_keys (m : Map κ ν) : m.keys.Nodup :=
  List.pairwise_map.mpr (m.ordered.imp ne_of_compare_eq_lt)

end Distinct

section Entries

variable [Std.LawfulEqOrd κ] [Std.TransOrd κ]

private theorem find?_of_mem {entries : List (κ × ν)} {key : κ} {value : ν}
    (hordered : Ascending entries) (h : (key, value) ∈ entries) :
    entries.find? (fun entry => compare key entry.1 == .eq) =
      some (key, value) := by
  induction entries with
  | nil => cases h
  | cons head rest ih =>
      obtain ⟨hhead, hrest⟩ := List.pairwise_cons.mp hordered
      rcases List.mem_cons.mp h with rfl | hmem
      · simp
      · have hne : head.1 ≠ key := ne_of_compare_eq_lt (hhead _ hmem)
        have hnot : (compare key head.1 == .eq) = false := by
          simpa using Ne.symm hne
        rw [List.find?_cons, hnot]
        exact ih hrest hmem

/-- The entries of a map are what is found in it. -/
theorem mem_toList_iff (m : Map κ ν) (key : κ) (value : ν) :
    (key, value) ∈ m.toList ↔ m.get? key = some value := by
  constructor
  · intro hmem
    rw [Map.get?, find?_of_mem m.ordered hmem]
    rfl
  · intro hfound
    obtain ⟨entry, hentry, hvalue⟩ := Option.map_eq_some_iff.mp hfound
    have hkey : key = entry.1 := by simpa using List.find?_some hentry
    have hmem : entry ∈ m.toList := List.mem_of_find?_eq_some hentry
    rw [hkey, ← hvalue]
    exact hmem

theorem mem_keys_iff (m : Map κ ν) (key : κ) :
    key ∈ m.keys ↔ ∃ value, m.get? key = some value := by
  simp [Map.keys, ← mem_toList_iff]

/-- Maps in which the same is found under every key are equal, since a strict
order of the keys leaves only one arrangement. -/
theorem eq_of_get?_eq {m n : Map κ ν} (h : ∀ key, m.get? key = n.get? key) :
    m = n := by
  have hperm : m.toList.Perm n.toList := by
    rw [List.perm_ext_iff_of_nodup (nodup_toList m) (nodup_toList n)]
    rintro ⟨key, value⟩
    rw [mem_toList_iff, mem_toList_iff, h]
  refine Map.ext (hperm.eq_of_pairwise ?_ m.ordered n.ordered)
  intro a b _ _ hab hba
  have hloop : compare a.1 a.1 = .lt := Std.TransCmp.lt_trans hab hba
  exact absurd rfl (ne_of_compare_eq_lt hloop)

/-- A map has no value twice if no two keys have the same value. -/
theorem nodup_values_iff {m : Map κ ν} :
    m.values.Nodup ↔ ∀ key other value, m.get? key = some value →
      m.get? other = some value → key = other := by
  constructor
  · intro hnodup key other value hkey hother
    have hmem := (mem_toList_iff m key value).mpr hkey
    have hmem' := (mem_toList_iff m other value).mpr hother
    exact congrArg Prod.fst (List.inj_on_of_nodup_map hnodup hmem hmem' rfl)
  · intro hkeys
    refine List.Nodup.map_on ?_ (nodup_toList m)
    rintro ⟨key, value⟩ hmem ⟨other, value'⟩ hmem' rfl
    have hkey : key = other := hkeys key other value
      ((mem_toList_iff m key value).mp hmem)
      ((mem_toList_iff m other value).mp hmem')
    rw [hkey]

end Entries

section Sizes

theorem length_keys (m : Map κ ν) : m.keys.length = m.size :=
  List.length_map _

variable [Std.LawfulEqOrd κ] [Std.TransOrd κ]

/-- A key that is new makes a map larger by one. -/
theorem size_insert_of_none {m : Map κ ν} {key : κ} (value : ν)
    (h : m.get? key = none) : (m.insert key value).size = m.size + 1 := by
  have hnew : key ∉ m.keys := by
    rw [mem_keys_iff]
    rintro ⟨held, hheld⟩
    cases h.symm.trans hheld
  have hperm : (m.insert key value).keys.Perm (key :: m.keys) := by
    rw [List.perm_ext_iff_of_nodup (nodup_keys _)
      (List.nodup_cons.mpr ⟨hnew, nodup_keys m⟩)]
    intro other
    rw [mem_keys_insert, List.mem_cons]
  rw [← length_keys, hperm.length_eq, List.length_cons, length_keys]

/-- A key that has a value leaves the size of a map as it is. -/
theorem size_insert_of_some {m : Map κ ν} {key : κ} {held : ν} (value : ν)
    (h : m.get? key = some held) : (m.insert key value).size = m.size := by
  have hold : key ∈ m.keys := (mem_keys_iff m key).mpr ⟨held, h⟩
  have hperm : (m.insert key value).keys.Perm m.keys := by
    rw [List.perm_ext_iff_of_nodup (nodup_keys _) (nodup_keys m)]
    intro other
    rw [mem_keys_insert, or_iff_right_of_imp]
    rintro rfl
    exact hold
  rw [← length_keys, hperm.length_eq, length_keys]

end Sizes

/-! ## Maps filled from lists -/

section LastEntry

variable {α β : Type}

/-- The last entry that a list has for a key has a given value. -/
def LastEntry (entries : List (α × β)) (key : α) (value : β) : Prop :=
  ∃ before after, entries = before ++ (key, value) :: after ∧
    ∀ entry ∈ after, entry.1 ≠ key

theorem not_lastEntry_nil (key : α) (value : β) : ¬ LastEntry [] key value := by
  rintro ⟨before, after, hnil, -⟩
  simp at hnil

theorem lastEntry_cons {head : α × β} {rest : List (α × β)} {key : α}
    {value : β} :
    LastEntry (head :: rest) key value ↔
      LastEntry rest key value ∨
        head = (key, value) ∧ ∀ entry ∈ rest, entry.1 ≠ key := by
  constructor
  · rintro ⟨before, after, hsplit, hafter⟩
    cases before with
    | nil =>
        obtain ⟨hhead, hrest⟩ := List.cons.inj hsplit
        exact .inr ⟨hhead, hrest ▸ hafter⟩
    | cons first before =>
        obtain ⟨-, hrest⟩ := List.cons.inj hsplit
        exact .inl ⟨before, after, hrest, hafter⟩
  · rintro (⟨before, after, hsplit, hafter⟩ | ⟨hhead, hrest⟩)
    · exact ⟨head :: before, after, congrArg (head :: ·) hsplit, hafter⟩
    · exact ⟨[], rest, congrArg (· :: rest) hhead, hrest⟩

/-- Where no key comes twice, each entry is the last one for its key. -/
theorem lastEntry_of_distinct {entries : List (α × β)}
    (h : (entries.map Prod.fst).Nodup) {key : α} {value : β} :
    LastEntry entries key value ↔ (key, value) ∈ entries := by
  constructor
  · rintro ⟨before, after, rfl, -⟩
    simp
  · intro hmem
    obtain ⟨before, after, rfl⟩ := List.append_of_mem hmem
    refine ⟨before, after, rfl, fun entry hentry hkey => ?_⟩
    rw [List.map_append, List.map_cons] at h
    obtain ⟨-, hafter, -⟩ := List.nodup_append.mp h
    exact (List.nodup_cons.mp hafter).1
      (List.mem_map.mpr ⟨entry, hentry, hkey⟩)

theorem exists_lastEntry {entries : List (α × β)} {key : α}
    (h : ∃ entry ∈ entries, entry.1 = key) :
    ∃ value, LastEntry entries key value := by
  induction entries with
  | nil =>
      obtain ⟨entry, hentry, -⟩ := h
      cases hentry
  | cons head rest ih =>
      by_cases hrest : ∃ entry ∈ rest, entry.1 = key
      · obtain ⟨value, hvalue⟩ := ih hrest
        exact ⟨value, lastEntry_cons.mpr (.inl hvalue)⟩
      · have hnone : ∀ entry ∈ rest, entry.1 ≠ key :=
          fun entry hentry hkey => hrest ⟨entry, hentry, hkey⟩
        obtain ⟨entry, hentry, hkey⟩ := h
        rcases List.mem_cons.mp hentry with rfl | hentry
        · exact ⟨entry.2, lastEntry_cons.mpr (.inr ⟨hkey ▸ rfl, hnone⟩)⟩
        · exact absurd hkey (hnone entry hentry)

/-- The last entry of a row for a key, by its place. -/
theorem lastEntry_iff_getElem? {entries : List (α × β)} {key : α}
    {value : β} :
    LastEntry entries key value ↔
      ∃ place : Nat, entries[place]? = some (key, value) ∧
        ∀ (later : Nat) (entry : α × β), place < later →
          entries[later]? = some entry → entry.1 ≠ key := by
  constructor
  · rintro ⟨before, after, rfl, hafter⟩
    refine ⟨before.length, ?_, fun later entry hlt hentry => ?_⟩
    · rw [List.getElem?_append_right (Nat.le_refl _), Nat.sub_self]
      rfl
    · obtain ⟨k, rfl⟩ : ∃ k, later = before.length + (k + 1) :=
        ⟨later - before.length - 1, by omega⟩
      rw [List.getElem?_append_right (Nat.le_add_right _ _),
        Nat.add_sub_cancel_left, List.getElem?_cons_succ] at hentry
      exact hafter entry (List.mem_of_getElem? hentry)
  · rintro ⟨place, hplace, hlater⟩
    obtain ⟨hlt, hentry⟩ := List.getElem?_eq_some_iff.mp hplace
    refine ⟨entries.take place, entries.drop (place + 1), ?_, ?_⟩
    · rw [← hentry, ← List.drop_eq_getElem_cons hlt, List.take_append_drop]
    · intro entry hmem
      obtain ⟨k, hk⟩ := List.mem_iff_getElem?.mp hmem
      rw [List.getElem?_drop] at hk
      exact hlater (place + 1 + k) entry (by omega) hk

end LastEntry

section Filling

variable [Std.TransOrd κ]

theorem ofList_concat (entries : List (κ × ν)) (key : κ) (value : ν) :
    Map.ofList (entries ++ [(key, value)]) =
      (Map.ofList entries).insert key value := by
  rw [Map.ofList, List.foldl_append]
  rfl

variable [Std.LawfulEqOrd κ]

/-- After several insertions the last one for a key counts, and a key that was
not inserted has the value it had. -/
theorem get?_foldl_insert (entries : List (κ × ν)) (key : κ) (value : ν) :
    ∀ m : Map κ ν,
      (entries.foldl (fun m entry => m.insert entry.1 entry.2) m).get? key =
          some value ↔
        LastEntry entries key value ∨
          (∀ entry ∈ entries, entry.1 ≠ key) ∧ m.get? key = some value := by
  induction entries with
  | nil => intro m; simp [not_lastEntry_nil]
  | cons head rest ih =>
      intro m
      rw [List.foldl_cons, ih, lastEntry_cons, List.forall_mem_cons]
      by_cases hkey : head.1 = key
      · have hpair : head = (key, value) ↔ some head.2 = some value := by
          rw [Prod.ext_iff]
          simp [hkey]
        rw [hpair, ← hkey, get?_insert_self]
        simp [and_comm]
      · have hne : head ≠ (key, value) :=
          fun hhead => hkey (congrArg Prod.fst hhead)
        rw [get?_insert_of_ne m head.2 (Ne.symm hkey)]
        simp [hne, hkey]

/-- A map filled from a list has the last value that the list gives a key. -/
theorem get?_ofList (entries : List (κ × ν)) (key : κ) (value : ν) :
    (Map.ofList entries).get? key = some value ↔
      LastEntry entries key value := by
  have hnone : (Map.empty : Map κ ν).get? key = none := rfl
  rw [Map.ofList, get?_foldl_insert, hnone]
  simp

theorem get?_ofList_eq_none_iff (entries : List (κ × ν)) (key : κ) :
    (Map.ofList entries).get? key = none ↔ ∀ entry ∈ entries, entry.1 ≠ key := by
  constructor
  · intro hnone entry hentry hkey
    obtain ⟨value, hvalue⟩ := exists_lastEntry ⟨entry, hentry, hkey⟩
    rw [(get?_ofList entries key value).mpr hvalue] at hnone
    cases hnone
  · intro hall
    refine Option.eq_none_iff_forall_ne_some.mpr fun value hfound => ?_
    obtain ⟨before, after, rfl, -⟩ := (get?_ofList _ key value).mp hfound
    exact hall (key, value) (by simp) rfl

/-- Two lists fill the same map exactly if they have the same last entries. -/
theorem ofList_eq_ofList_iff {entries others : List (κ × ν)} :
    Map.ofList entries = Map.ofList others ↔
      ∀ key value, LastEntry entries key value ↔ LastEntry others key value := by
  constructor
  · intro heq key value
    rw [← get?_ofList, heq, get?_ofList]
  · intro hlast
    refine eq_of_get?_eq fun key => Option.ext fun value => ?_
    rw [get?_ofList, get?_ofList, hlast]

/-- Entries with distinct keys are only brought into order. -/
theorem toList_ofList_perm {entries : List (κ × ν)}
    (h : (entries.map Prod.fst).Nodup) :
    (Map.ofList entries).toList.Perm entries := by
  have hnodup : entries.Nodup :=
    (List.pairwise_map.mp h).imp fun hne hab => hne (congrArg Prod.fst hab)
  rw [List.perm_ext_iff_of_nodup (nodup_toList _) hnodup]
  rintro ⟨key, value⟩
  rw [mem_toList_iff, get?_ofList, lastEntry_of_distinct h]

end Filling

/-! ## Maps that invert each other -/

section Inverse

variable [Ord ν]

/-- Two maps have the same pairs, seen from their two sides. -/
def Inverse (m : Map κ ν) (n : Map ν κ) : Prop :=
  ∀ key value, m.get? key = some value ↔ n.get? value = some key

variable {m : Map κ ν} {n : Map ν κ}

theorem Inverse.symm (h : Inverse m n) : Inverse n m :=
  fun value key => (h key value).symm

variable [Std.LawfulEqOrd κ] [Std.TransOrd κ]

/-- A map whose values lead back to their keys has no value twice. -/
theorem nodup_values_of_get?
    (h : ∀ key value, m.get? key = some value → n.get? value = some key) :
    m.values.Nodup := by
  refine nodup_values_iff.mpr fun key other value hkey hother => ?_
  exact Option.some.inj ((h key value hkey).symm.trans (h other value hother))

theorem Inverse.nodup_values (h : Inverse m n) : m.values.Nodup :=
  nodup_values_of_get? fun key value => (h key value).mp

variable [Std.LawfulEqOrd ν] [Std.TransOrd ν]

/-- The map in which keys and values have changed places. -/
def Map.swapped (m : Map κ ν) : Map ν κ :=
  .ofList (m.toList.map Prod.swap)

/-- A map that has no value twice is inverted when keys and values change
places. -/
theorem inverse_swapped (h : m.values.Nodup) : Inverse m m.swapped := by
  have hdistinct : ((m.toList.map Prod.swap).map Prod.fst).Nodup := by
    rw [List.map_map]
    exact h
  intro key value
  rw [Map.swapped, get?_ofList, lastEntry_of_distinct hdistinct,
    ← mem_toList_iff]
  simp

theorem Inverse.eq_swapped (h : Inverse m n) : n = m.swapped := by
  refine eq_of_get?_eq fun value => Option.ext fun key => ?_
  rw [← h, inverse_swapped h.nodup_values]

end Inverse

/-! ## Sets -/

/-- The members of a set ascend. -/
theorem pairwise_members (s : Set κ) :
    s.members.Pairwise fun a b => compare a b = .lt :=
  List.pairwise_map.mpr s.ordered

theorem length_members (s : Set κ) : s.members.length = s.size :=
  length_keys s

theorem mem_members_insertAll [Std.LawfulEqOrd κ] [Std.TransOrd κ]
    (members : List κ) : ∀ (s : Set κ) (a : κ),
      a ∈ (s.insertAll members).members ↔ a ∈ s.members ∨ a ∈ members := by
  induction members with
  | nil => intro s a; simp [Set.insertAll]
  | cons head rest ih =>
      intro s a
      show a ∈ ((s.insert head).insertAll rest).members ↔ _
      have hinsert : a ∈ (s.insert head).members ↔ a = head ∨ a ∈ s.members :=
        mem_keys_insert s head () a
      rw [ih, hinsert, List.mem_cons, or_assoc, or_left_comm]

/-- The set of a list has the members of the list. -/
theorem mem_members_ofList [Std.LawfulEqOrd κ] [Std.TransOrd κ]
    (members : List κ) (a : κ) :
    a ∈ (Set.ofList members).members ↔ a ∈ members := by
  have hnone : a ∉ (∅ : Set κ).members := List.not_mem_nil
  rw [Set.ofList, mem_members_insertAll]
  simp [hnone]

theorem mem_members_iff [Std.LawfulEqOrd κ] [Std.TransOrd κ] (s : Set κ)
    (a : κ) : a ∈ s.members ↔ s.get? a = some () := by
  rw [Set.members, mem_keys_iff]
  constructor
  · rintro ⟨_, hfound⟩
    exact hfound
  · intro hfound
    exact ⟨(), hfound⟩

/-- Sets with the same members are equal. -/
theorem eq_of_mem_members [Std.LawfulEqOrd κ] [Std.TransOrd κ] {s t : Set κ}
    (h : ∀ a, a ∈ s.members ↔ a ∈ t.members) : s = t := by
  refine eq_of_get?_eq fun a => Option.ext fun _ => ?_
  show s.get? a = some () ↔ t.get? a = some ()
  rw [← mem_members_iff, ← mem_members_iff, h]

end Relift.Ordered

namespace Relift

/-! ## The order of addresses and descriptors -/

theorem Address.compare_eq_lt {a b : Address} :
    compare a b = .lt ↔ a < b :=
  Std.compare_eq_lt

theorem Descriptor.compare_eq_lt {a b : Descriptor} :
    compare a b = .lt ↔
      a.primary < b.primary ∨
        a.primary = b.primary ∧ a.secondary < b.secondary := by
  have hcompare : compare a b =
      (compare a.primary b.primary).then (compare a.secondary b.secondary) := rfl
  rw [hcompare, Ordering.then_eq_lt, Address.compare_eq_lt,
    Address.compare_eq_lt, Std.LawfulEqOrd.compare_eq_iff_eq]

/-- The members of a set of addresses ascend. -/
theorem Address.pairwise_members (s : Ordered.Set Address) :
    s.members.Pairwise (· < ·) :=
  (Ordered.pairwise_members s).imp Address.compare_eq_lt.mp

end Relift
