/-!
# Ordered maps

A finite map kept as a list of entries whose keys ascend strictly.  The order
is part of the type, so two maps with the same entries are equal and iteration
is always ascending.
-/

namespace Relift.Ordered

universe u v

variable {κ : Type u} {ν : Type v} [Ord κ]

/-- Entries in strictly ascending order of their keys. -/
def Ascending (entries : List (κ × ν)) : Prop :=
  entries.Pairwise fun a b => compare a.1 b.1 = .lt

/-- Puts an entry at its place, in the stead of one with the same key. -/
def insertEntry (key : κ) (value : ν) : List (κ × ν) → List (κ × ν)
  | [] => [(key, value)]
  | entry :: rest =>
    match compare key entry.1 with
    | .lt => (key, value) :: entry :: rest
    | .eq => (key, value) :: rest
    | .gt => entry :: insertEntry key value rest

theorem mem_insertEntry {key : κ} {value : ν} {entries : List (κ × ν)} {entry : κ × ν}
    (h : entry ∈ insertEntry key value entries) : entry = (key, value) ∨ entry ∈ entries := by
  induction entries with
  | nil => simpa [insertEntry] using h
  | cons head rest ih =>
    rw [insertEntry] at h
    split at h
    · simpa using h
    · exact (List.mem_cons.mp h).imp_right (List.mem_cons_of_mem _)
    · rcases List.mem_cons.mp h with rfl | hrest
      · exact .inr List.mem_cons_self
      · exact (ih hrest).imp_right (List.mem_cons_of_mem _)

theorem ascending_insertEntry [Std.TransOrd κ] (key : κ) (value : ν) {entries : List (κ × ν)}
    (h : Ascending entries) : Ascending (insertEntry key value entries) := by
  induction entries with
  | nil => simp [insertEntry, Ascending]
  | cons head rest ih =>
    obtain ⟨hhead, hrest⟩ := List.pairwise_cons.mp h
    rw [insertEntry]
    split
    next hlt =>
      refine List.Pairwise.cons (fun entry hmem => ?_) h
      rcases List.mem_cons.mp hmem with rfl | hmem
      · exact hlt
      · exact Std.TransCmp.lt_trans hlt (hhead entry hmem)
    next heq =>
      refine List.Pairwise.cons (fun entry hmem => ?_) hrest
      exact Std.TransCmp.lt_of_eq_of_lt heq (hhead entry hmem)
    next hgt =>
      refine List.Pairwise.cons (fun entry hmem => ?_) (ih hrest)
      rcases mem_insertEntry hmem with rfl | hmem
      · exact Std.OrientedCmp.lt_of_gt hgt
      · exact hhead entry hmem

/-- A finite map from keys to values, iterated in ascending order of keys. -/
structure Map (κ : Type u) (ν : Type v) [Ord κ] where
  /-- The entries, keys strictly ascending. -/
  toList : List (κ × ν)
  ordered : Ascending toList

namespace Map

/-- The map without entries. -/
def empty : Map κ ν :=
  ⟨[], List.Pairwise.nil⟩

instance : EmptyCollection (Map κ ν) :=
  ⟨empty⟩

instance : Inhabited (Map κ ν) :=
  ⟨empty⟩

@[ext] theorem ext {m n : Map κ ν} (h : m.toList = n.toList) : m = n := by
  cases m
  cases n
  simpa using h

/-- The value of a key. -/
def get? (m : Map κ ν) (key : κ) : Option ν :=
  (m.toList.find? fun entry => compare key entry.1 == .eq).map Prod.snd

/-- Whether a key has a value. -/
def contains (m : Map κ ν) (key : κ) : Bool :=
  (m.get? key).isSome

/-- The number of entries. -/
def size (m : Map κ ν) : Nat :=
  m.toList.length

/-- Whether there is no entry. -/
def isEmpty (m : Map κ ν) : Bool :=
  m.toList.isEmpty

/-- The keys, ascending. -/
def keys (m : Map κ ν) : List κ :=
  m.toList.map Prod.fst

/-- The values, in ascending order of their keys. -/
def values (m : Map κ ν) : List ν :=
  m.toList.map Prod.snd

/-- The map with only those entries that pass a test. -/
def filter (m : Map κ ν) (keep : κ → ν → Bool) : Map κ ν :=
  ⟨m.toList.filter fun entry => keep entry.1 entry.2, m.ordered.filter _⟩

variable [Std.TransOrd κ]

/-- The map with one more entry; a value that the key had is replaced. -/
def insert (m : Map κ ν) (key : κ) (value : ν) : Map κ ν :=
  ⟨insertEntry key value m.toList, ascending_insertEntry key value m.ordered⟩

/-- Adds an entry and tells the value that it replaces. -/
def put (m : Map κ ν) (key : κ) (value : ν) : Option ν × Map κ ν :=
  (m.get? key, m.insert key value)

/-- The map that a list of entries fills from the front, later entries
replacing earlier ones. -/
def ofList (entries : List (κ × ν)) : Map κ ν :=
  entries.foldl (fun m entry => m.insert entry.1 entry.2) empty

end Map

/-- A finite set, iterated in ascending order. -/
abbrev Set (κ : Type u) [Ord κ] :=
  Map κ Unit

namespace Set

/-- Whether a member is in the set. -/
def contains (s : Set κ) (key : κ) : Bool :=
  Map.contains s key

/-- The members, ascending. -/
def members (s : Set κ) : List κ :=
  Map.keys s

variable [Std.TransOrd κ]

/-- The set with one more member. -/
def insert (s : Set κ) (key : κ) : Set κ :=
  Map.insert s key ()

/-- Adds a member and tells whether it is new. -/
def add (s : Set κ) (key : κ) : Bool × Set κ :=
  (!Set.contains s key, Set.insert s key)

/-- The set with more members. -/
def insertAll (s : Set κ) (members : List κ) : Set κ :=
  members.foldl insert s

/-- The set of the members of a list. -/
def ofList (members : List κ) : Set κ :=
  insertAll ∅ members

end Set

end Relift.Ordered
