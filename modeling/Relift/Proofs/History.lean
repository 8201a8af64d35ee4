import Mathlib.Data.Set.Card
import Relift.Proofs.Collision

/-!
# Histories of the ordered collections

Symbols, seeds and names are kept in three ordered collections, which are filled
by single insertions and made anew from the symbols.  A history is a row of such
operations, the latest first, so that a longer history begins with one more
operation.

What a collection holds after a history is said without the collection: an
`Account` tells which operation puts which value under which key, and which one
makes the collection anew, and `Account.Last` is the value that was put last.
One operation changes a collection as its account says (`Follows`), and by
induction so does every history (`Account.Follows.get?_iff`).

## Main result

* `Collections.after_accounted` — order, look-up, answers, sizes and the
  independence of keys, after every history.
-/

namespace Relift

/-! ## Operations -/

/-- The three ordered collections. -/
structure Collections where
  symbols : SymbolTable
  seeds : SeedSet
  names : NameMap

/-- What can be done to the collections. -/
inductive Operation where
  | enterSymbol (name : String) (descriptor : Descriptor)
  | addSeed (address : Address)
  | addSeeds (addresses : List Address)
  | enterName (descriptor : Descriptor) (name : String)
  /-- The seeds of the symbols and of some more addresses. -/
  | renewSeeds (extra : List Address)
  /-- The name map of the symbols. -/
  | renewNames (policy : CollisionPolicy)

/-- What an operation answers. -/
inductive Answer where
  | descriptor (previous : Option Descriptor)
  | fresh (isNew : Bool)
  | name (previous : Option String)
  | done
  | refused (e : Error)

namespace Collections

/-- The collections before anything is done. -/
def empty : Collections :=
  ⟨.empty, .empty, .empty⟩

/-- The name map of the symbols; where it is refused, the names stay. -/
def renewedNames (c : Collections) (policy : CollisionPolicy) :
    Answer × NameMap :=
  match NameMap.ofSymbols c.symbols policy with
  | .ok (names, _) => (.done, names)
  | .error e => (.refused e, c.names)

/-- One operation. -/
def perform (c : Collections) : Operation → Answer × Collections
  | .enterSymbol name descriptor =>
    let (previous, symbols) := c.symbols.put name descriptor
    (.descriptor previous, { c with symbols })
  | .addSeed address =>
    let (isNew, seeds) := c.seeds.add address
    (.fresh isNew, { c with seeds })
  | .addSeeds addresses => (.done, { c with seeds := c.seeds.insertAll addresses })
  | .enterName descriptor name =>
    let (previous, names) := c.names.put descriptor name
    (.name previous, { c with names })
  | .renewSeeds extra => (.done, { c with seeds := .ofSymbols c.symbols extra })
  | .renewNames policy =>
    let (answer, names) := c.renewedNames policy
    (answer, { c with names })

/-- The collections after a history, whose latest operation stands first. -/
def after : List Operation → Collections
  | [] => empty
  | operation :: earlier => ((after earlier).perform operation).2

end Collections

/-! ## Accounts -/

/-- What operations do to one of the collections, told without it. -/
structure Account (κ ν : Type) where
  /-- After a history an operation puts a value under a key. -/
  Puts : Operation → List Operation → κ → ν → Prop
  /-- After a history an operation makes the collection anew. -/
  Renews : Operation → List Operation → Prop

namespace Account

variable {κ ν : Type} {account : Account κ ν}

/-- The last value that a history puts under a key, since the collection was made
anew. -/
inductive Last (account : Account κ ν) : List Operation → κ → ν → Prop where
  | put {operation : Operation} {earlier : List Operation} {key : κ} {value : ν}
      (hputs : account.Puts operation earlier key value) :
      Last account (operation :: earlier) key value
  | kept {operation : Operation} {earlier : List Operation} {key : κ} {value : ν}
      (hlast : Last account earlier key value)
      (hrenews : ¬ account.Renews operation earlier)
      (hother : ∀ other, ¬ account.Puts operation earlier key other) :
      Last account (operation :: earlier) key value

theorem not_last_nil (key : κ) (value : ν) : ¬ account.Last [] key value := by
  intro h
  cases h

theorem last_cons {operation : Operation} {earlier : List Operation} {key : κ}
    {value : ν} :
    account.Last (operation :: earlier) key value ↔
      account.Puts operation earlier key value ∨
        account.Last earlier key value ∧ ¬ account.Renews operation earlier ∧
          ∀ other, ¬ account.Puts operation earlier key other := by
  constructor
  · intro h
    cases h with
    | put hputs => exact .inl hputs
    | kept hlast hrenews hother => exact .inr ⟨hlast, hrenews, hother⟩
  · rintro (hputs | ⟨hlast, hrenews, hother⟩)
    · exact .put hputs
    · exact .kept hlast hrenews hother

section Following

variable [Ord κ]

/-- One operation changes a collection as its account says. -/
def Follows (account : Account κ ν)
    (collection : Collections → Ordered.Map κ ν) : Prop :=
  ∀ operation earlier key value,
    (collection (.after (operation :: earlier))).get? key = some value ↔
      account.Puts operation earlier key value ∨
        (collection (.after earlier)).get? key = some value ∧
          ¬ account.Renews operation earlier ∧
          ∀ other, ¬ account.Puts operation earlier key other

variable {collection : Collections → Ordered.Map κ ν}

/-- After a history the last value that was put under a key is found. -/
theorem Follows.get?_iff (h : account.Follows collection)
    (hempty : ∀ key, (collection .empty).get? key = none)
    (history : List Operation) (key : κ) (value : ν) :
    (collection (.after history)).get? key = some value ↔
      account.Last history key value := by
  induction history generalizing value with
  | nil =>
      show (collection .empty).get? key = some value ↔ _
      simp [hempty, not_last_nil]
  | cons operation earlier ih => rw [h, ih, last_cons]

/-- A key under which an operation puts nothing keeps its value, unless the
collection is made anew. -/
theorem Follows.get?_cons (h : account.Follows collection)
    {operation : Operation} {earlier : List Operation} {key : κ}
    (hrenews : ¬ account.Renews operation earlier)
    (hother : ∀ other, ¬ account.Puts operation earlier key other) :
    (collection (.after (operation :: earlier))).get? key =
      (collection (.after earlier)).get? key := by
  refine Option.ext fun value => ?_
  rw [h]
  simp [hrenews, hother]

/-- A collection after a history, and after one more operation. -/
structure Accounted (account : Account κ ν)
    (collection : Collections → Ordered.Map κ ν) (lt : κ → κ → Prop)
    (history : List Operation) : Prop where
  ascending : (collection (.after history)).keys.Pairwise lt
  iterated : ∀ key value, (key, value) ∈ (collection (.after history)).toList ↔
    account.Last history key value
  found : ∀ key value, (collection (.after history)).get? key = some value ↔
    account.Last history key value
  missing : ∀ key, (collection (.after history)).get? key = none ↔
    ∀ value, ¬ account.Last history key value
  contained : ∀ key, (collection (.after history)).contains key =
    ((collection (.after history)).get? key).isSome
  counted : (collection (.after history)).size =
    Set.ncard {key | ∃ value, account.Last history key value}
  /-- What is done under one key does not affect another. -/
  kept : ∀ operation key, ¬ account.Renews operation history →
    (∀ value, ¬ account.Puts operation history key value) →
    (collection (.after (operation :: history))).get? key =
      (collection (.after history)).get? key

variable [Std.LawfulEqOrd κ] [Std.TransOrd κ]

/-- The size of a map is the number of keys that have a value. -/
theorem size_eq_ncard (m : Ordered.Map κ ν) :
    m.size = Set.ncard {key | ∃ value, m.get? key = some value} := by
  classical
  have hkeys : {key | ∃ value, m.get? key = some value} =
      (m.keys.toFinset : Set κ) := by
    ext key
    rw [Set.mem_ofPred_eq, ← Ordered.mem_keys_iff, Finset.mem_coe,
      List.mem_toFinset]
  rw [hkeys, Set.ncard_coe_finset,
    List.toFinset_card_of_nodup (Ordered.nodup_keys m), Ordered.length_keys]

/-- A collection that follows its account is as its account says after every
history. -/
theorem Follows.accounted (h : account.Follows collection)
    (hempty : ∀ key, (collection .empty).get? key = none)
    {lt : κ → κ → Prop} (hlt : ∀ a b, compare a b = .lt → lt a b)
    (history : List Operation) :
    account.Accounted collection lt history where
  ascending :=
    List.pairwise_map.mpr ((collection _).ordered.imp fun hab => hlt _ _ hab)
  iterated key value := by
    rw [Ordered.mem_toList_iff, h.get?_iff hempty]
  found := h.get?_iff hempty history
  missing key := by
    rw [Option.eq_none_iff_forall_ne_some]
    simp only [ne_eq, h.get?_iff hempty]
  contained _ := rfl
  counted := by
    simp only [size_eq_ncard, h.get?_iff hempty]
  kept _ _ hrenews hputs := h.get?_cons hrenews hputs

end Following

end Account

/-! ## Symbols -/

/-- Symbols are entered one by one. -/
def symbolAccount : Account String Descriptor where
  Puts operation _ name descriptor := operation = .enterSymbol name descriptor
  Renews _ _ := False

theorem symbolAccount_follows : symbolAccount.Follows Collections.symbols := by
  intro operation earlier name descriptor
  cases operation with
  | enterSymbol entered given =>
      show ((Collections.after earlier).symbols.insert entered given).get? name =
        some descriptor ↔ _
      by_cases hname : name = entered
      · subst hname
        rw [Ordered.get?_insert_self]
        simp [symbolAccount]
      · rw [Ordered.get?_insert_of_ne _ given hname]
        simp [symbolAccount, Ne.symm hname]
  | _ =>
      show (Collections.after earlier).symbols.get? name = some descriptor ↔ _
      simp [symbolAccount]

/-- What the table holds after a history. -/
theorem get?_symbols_after (history : List Operation) (name : String)
    (descriptor : Descriptor) :
    (Collections.after history).symbols.get? name = some descriptor ↔
      symbolAccount.Last history name descriptor :=
  symbolAccount_follows.get?_iff (fun _ => rfl) history name descriptor

/-! ## Seeds -/

/-- Seeds are added, or taken from the symbols of that time and from some more
addresses. -/
def seedAccount : Account Address Unit where
  Puts operation earlier address _ :=
    match operation with
    | .addSeed added => address = added
    | .addSeeds added => address ∈ added
    | .renewSeeds extra =>
      (∃ name descriptor, symbolAccount.Last earlier name descriptor ∧
        descriptor.primary = address) ∨ address ∈ extra
    | _ => False
  Renews operation _ := ∃ extra, operation = .renewSeeds extra

theorem exists_primary_iff (history : List Operation) (address : Address) :
    (∃ descriptor ∈ (Collections.after history).symbols.values,
      descriptor.primary = address) ↔
      ∃ name descriptor, symbolAccount.Last history name descriptor ∧
        descriptor.primary = address := by
  simp only [← get?_symbols_after, ← Ordered.mem_toList_iff]
  constructor
  · rintro ⟨_, hvalue, haddress⟩
    obtain ⟨⟨name, descriptor⟩, hmem, rfl⟩ := List.mem_map.mp hvalue
    exact ⟨name, descriptor, hmem, haddress⟩
  · rintro ⟨name, descriptor, hmem, haddress⟩
    exact ⟨descriptor, List.mem_map.mpr ⟨_, hmem, rfl⟩, haddress⟩

theorem seedAccount_follows : seedAccount.Follows Collections.seeds := by
  intro operation earlier address _
  rw [← Ordered.mem_members_iff, ← Ordered.mem_members_iff]
  cases operation with
  | addSeed added =>
      show address ∈ ((Collections.after earlier).seeds.insert added).keys ↔ _
      rw [Ordered.Set.insert, Ordered.mem_keys_insert]
      by_cases haddress : address = added <;>
        simp [seedAccount, haddress, Ordered.Set.members]
  | addSeeds added =>
      show address ∈ ((Collections.after earlier).seeds.insertAll added).members ↔
        _
      rw [Ordered.mem_members_insertAll]
      by_cases haddress : address ∈ added <;> simp [seedAccount, haddress]
  | renewSeeds extra =>
      show address ∈
        (SeedSet.ofSymbols (Collections.after earlier).symbols extra).members ↔ _
      rw [SeedSet.mem_ofSymbols, exists_primary_iff]
      simp [seedAccount]
  | _ =>
      show address ∈ (Collections.after earlier).seeds.members ↔ _
      simp [seedAccount]

theorem contains_seeds_after (history : List Operation) (address : Address) :
    (Collections.after history).seeds.contains address = true ↔
      seedAccount.Last history address () := by
  rw [← seedAccount_follows.get?_iff (fun _ => rfl)]
  show ((Collections.after history).seeds.get? address).isSome = true ↔ _
  cases (Collections.after history).seeds.get? address <;> simp

/-! ## Names -/

namespace CollisionPolicy

/-- The name that a policy leaves to a descriptor, of those that claim it. -/
def Picks (policy : CollisionPolicy) (claims : String → Prop) (name : String) :
    Prop :=
  claims name ∧ ∀ other, claims other →
    match policy with
    | .reject => other = name
    | .keepFirst => Text.utf8 name ≤ Text.utf8 other
    | .keepLast => Text.utf8 other ≤ Text.utf8 name

/-- A table that a policy does not refuse has the names that the policy picks. -/
theorem exists_ofSymbols_picks (policy : CollisionPolicy)
    {symbols : SymbolTable} (h : policy = .reject → symbols.Injective) :
    ∃ names notes, NameMap.ofSymbols symbols policy = .ok (names, notes) ∧
      ∀ descriptor name, names.get? descriptor = some name ↔
        policy.Picks (fun claimant => symbols.get? claimant = some descriptor)
          name := by
  cases policy with
  | reject =>
      have hinjective := h rfl
      have hinverse : Ordered.Inverse symbols symbols.swapped :=
        Ordered.inverse_swapped (SymbolTable.injective_iff.mp hinjective)
      refine ⟨symbols.swapped, [], NameMap.ofSymbols_of_inverse hinverse .reject,
        fun descriptor name => ?_⟩
      rw [← hinverse name descriptor]
      constructor
      · intro hname
        exact ⟨hname, fun other hother =>
          hinjective other name descriptor hother hname⟩
      · rintro ⟨hname, -⟩
        exact hname
  | keepFirst =>
      obtain ⟨names, notes, hnames, -, hget⟩ :=
        NameMap.exists_ofSymbols_of_keep symbols
          (by decide : CollisionPolicy.keepFirst ≠ .reject)
      refine ⟨names, notes, hnames, fun descriptor name => ?_⟩
      rw [hget]
      exact NameMap.survivor_keepFirst_iff symbols descriptor name
  | keepLast =>
      obtain ⟨names, notes, hnames, -, hget⟩ :=
        NameMap.exists_ofSymbols_of_keep symbols
          (by decide : CollisionPolicy.keepLast ≠ .reject)
      refine ⟨names, notes, hnames, fun descriptor name => ?_⟩
      rw [hget]
      exact NameMap.survivor_keepLast_iff symbols descriptor name

/-- A policy takes the symbols of a history, unless it rejects shared descriptors
and there is one. -/
def Takes (policy : CollisionPolicy) (history : List Operation) : Prop :=
  policy = .reject → ∀ name other descriptor,
    symbolAccount.Last history name descriptor →
    symbolAccount.Last history other descriptor → name = other

theorem takes_iff {policy : CollisionPolicy} {history : List Operation} :
    policy.Takes history ↔
      (policy = .reject → (Collections.after history).symbols.Injective) := by
  simp only [Takes, SymbolTable.Injective, get?_symbols_after]

end CollisionPolicy

/-- Names are entered one by one, or taken from the symbols of that time. -/
def nameAccount : Account Descriptor String where
  Puts operation earlier descriptor name :=
    match operation with
    | .enterName entered given => descriptor = entered ∧ name = given
    | .renewNames policy => policy.Takes earlier ∧ policy.Picks
      (fun claimant => symbolAccount.Last earlier claimant descriptor) name
    | _ => False
  Renews operation earlier :=
    ∃ policy, operation = .renewNames policy ∧ policy.Takes earlier

/-- Names that are made anew are those that the policy picks; where the symbols
are refused, the names stay. -/
theorem get?_renewedNames (history : List Operation) (policy : CollisionPolicy)
    (descriptor : Descriptor) (name : String) :
    ((Collections.after history).renewedNames policy).2.get? descriptor =
        some name ↔
      policy.Takes history ∧ policy.Picks
          (fun claimant => symbolAccount.Last history claimant descriptor) name ∨
        (Collections.after history).names.get? descriptor = some name ∧
          ¬ policy.Takes history := by
  by_cases htakes : policy.Takes history
  · obtain ⟨names, notes, hnames, hget⟩ :=
      policy.exists_ofSymbols_picks (CollisionPolicy.takes_iff.mp htakes)
    rw [Collections.renewedNames, hnames]
    dsimp only
    rw [hget]
    simp [htakes, get?_symbols_after]
  · have hrejected := CollisionPolicy.takes_iff.not.mp htakes
    rw [Classical.not_imp] at hrejected
    obtain ⟨rfl, hshared⟩ := hrejected
    obtain ⟨_, _, _, -, herror⟩ := NameMap.ofSymbols_reject_of_shared hshared
    rw [Collections.renewedNames, herror]
    simp [htakes]

theorem nameAccount_follows : nameAccount.Follows Collections.names := by
  intro operation earlier descriptor name
  cases operation with
  | enterName entered given =>
      show ((Collections.after earlier).names.insert entered given).get?
        descriptor = some name ↔ _
      by_cases hdescriptor : descriptor = entered
      · subst hdescriptor
        rw [Ordered.get?_insert_self]
        simp [nameAccount, eq_comm]
      · rw [Ordered.get?_insert_of_ne _ given hdescriptor]
        simp [nameAccount, hdescriptor]
  | renewNames policy =>
      show ((Collections.after earlier).renewedNames policy).2.get? descriptor =
        some name ↔ _
      rw [get?_renewedNames]
      by_cases htakes : policy.Takes earlier <;> simp [nameAccount, htakes]
  | _ =>
      show (Collections.after earlier).names.get? descriptor = some name ↔ _
      simp [nameAccount]

/-! ## After every history -/

namespace Collections

/-- After every history each of the collections ascends strictly: symbols by the
bytes of their names, which is the order of the code points, seeds as numbers,
and names by the primary words of their descriptors and then by the secondary
ones.  What is found under a key, and met there when the collection is iterated,
is the last value that was put under it, and nothing if none was; a collection
contains just the keys under which something is found, and its size is the
number of these.  An operation that puts nothing under a key leaves what is
found there, unless it makes the collection anew.  An insertion answers what was
found before it, or whether the address is new. -/
theorem after_accounted (history : List Operation) :
    symbolAccount.Accounted symbols
      (fun a b => Text.utf8 a < Text.utf8 b) history ∧
    (∀ a b : String, Text.utf8 a < Text.utf8 b ↔
      List.Lex (· < ·) (a.toList.map Char.toNat) (b.toList.map Char.toNat)) ∧
    seedAccount.Accounted seeds (fun a b => a.toNat < b.toNat) history ∧
    nameAccount.Accounted names
      (fun a b => a.primary.toNat < b.primary.toNat ∨
        a.primary.toNat = b.primary.toNat ∧
          a.secondary.toNat < b.secondary.toNat) history ∧
    (∀ name descriptor, ((after history).perform
      (.enterSymbol name descriptor)).1 =
        .descriptor ((after history).symbols.get? name)) ∧
    (∀ address, ∃ isNew,
      ((after history).perform (.addSeed address)).1 = .fresh isNew ∧
      (isNew = true ↔ ¬ seedAccount.Last history address ()) ∧
      (after history).seeds.contains address = !isNew) ∧
    ∀ descriptor name, ((after history).perform
      (.enterName descriptor name)).1 =
        .name ((after history).names.get? descriptor) := by
  refine ⟨symbolAccount_follows.accounted (fun _ => rfl) ?_ history,
    fun _ _ => Text.utf8_lt_utf8_iff_codePoints,
    seedAccount_follows.accounted (fun _ => rfl) ?_ history,
    nameAccount_follows.accounted (fun _ => rfl) ?_ history,
    fun _ _ => rfl, fun address => ?_, fun _ _ => rfl⟩
  · intro a b hlt
    exact Text.utf8_lt_utf8.mpr (compareOfLessAndEq_eq_lt.mp hlt)
  · intro a b hlt
    exact Address.compare_eq_lt.mp hlt
  · intro a b hlt
    rw [UInt64.toNat_inj]
    exact Descriptor.compare_eq_lt.mp hlt
  · refine ⟨!(after history).seeds.contains address, rfl, ?_,
      (Bool.not_not _).symm⟩
    rw [Bool.not_eq_true', ← Bool.not_eq_true, contains_seeds_after]

/-- Names ascend by code points, beyond those that take one unit of 16 bits, and
descriptors of the same primary word by the secondary one. -/
example :
    let c := after [.renewNames .keepLast, .enterSymbol "\uFFFF" ⟨1, 5⟩,
      .enterSymbol "😀" ⟨1, 1⟩, .enterSymbol "é" ⟨1, 5⟩, .enterSymbol "é" ⟨2, 0⟩]
    c.symbols.keys = ["é", "\uFFFF", "😀"] ∧
      c.names.toList = [(⟨1, 1⟩, "😀"), (⟨1, 5⟩, "\uFFFF")] := by
  decide

end Collections

end Relift
