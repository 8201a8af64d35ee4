import Mathlib.Data.List.Destutter
import Mathlib.Data.List.Sort
import Relift.Machine.Basic
import Relift.Proofs.AddressFile
import Relift.Proofs.Run.Answers
import Relift.Rehearsal

/-!
# Recovered block lists

What an engine leaves in its result file is a text of its own making: addresses
in any order, some of them several times, in any of the spellings that an
address file allows.  Of all this the recovered list keeps nothing but the set
of addresses (`BlockList.eq_ofList_iff`), so that two texts with the same
addresses cannot be told apart by what is recovered from them.

A `Recovery` holds all that a recovery depends on, and `Recovery.Leaves` says
which text its engine leaves.

## Main result

* `Recovery.answer_canonical` — a recovery answers with the ascending list of
  the addresses that its engine leaves.
-/

namespace Relift

/-! ## Lists in order -/

namespace BlockList

theorem pairwise_ofList (addresses : List Address) :
    (ofList addresses).addresses.Pairwise (· < ·) :=
  Address.pairwise_members _

theorem mem_ofList (addresses : List Address) (address : Address) :
    address ∈ (ofList addresses).addresses ↔ address ∈ addresses :=
  Ordered.mem_members_ofList addresses address

/-- The list made from given addresses is the only ascending one that has just
these addresses. -/
theorem eq_ofList_iff {blocks : BlockList} {addresses : List Address} :
    blocks = ofList addresses ↔
      blocks.addresses.Pairwise (· < ·) ∧
        ∀ address, address ∈ blocks.addresses ↔ address ∈ addresses := by
  constructor
  · rintro rfl
    exact ⟨pairwise_ofList addresses, mem_ofList addresses⟩
  · rintro ⟨hascending, hmem⟩
    have hsame : ∀ address, address ∈ blocks.addresses ↔
        address ∈ (ofList addresses).addresses := by
      intro address
      rw [hmem, mem_ofList]
    have haddresses : blocks.addresses = (ofList addresses).addresses :=
      hascending.eq_of_mem_iff (pairwise_ofList addresses) hsame
    cases blocks
    exact congrArg BlockList.mk haddresses

theorem ofList_eq_ofList_iff {addresses others : List Address} :
    ofList addresses = ofList others ↔
      ∀ address, address ∈ addresses ↔ address ∈ others := by
  rw [eq_ofList_iff]
  simp only [pairwise_ofList, mem_ofList, true_and]

/-- The list may be had by sorting and then keeping one of equal neighbours. -/
theorem addresses_ofList (addresses : List Address) :
    (ofList addresses).addresses =
      (addresses.mergeSort (· ≤ ·)).destutter (· ≠ ·) := by
  have hsorted : (addresses.mergeSort (· ≤ ·)).Pairwise (· ≤ ·) :=
    List.pairwise_mergeSort' (· ≤ ·) addresses
  rw [hsorted.destutter_eq_dedup]
  have hascending : (addresses.mergeSort (· ≤ ·)).dedup.Pairwise (· < ·) := by
    have hdistinct := (hsorted.sublist (List.dedup_sublist _)).and
      (List.nodup_dedup (addresses.mergeSort (· ≤ ·)))
    refine hdistinct.imp ?_
    rintro a b ⟨hle, hne⟩
    exact UInt64.lt_of_le_of_ne hle hne
  refine (pairwise_ofList addresses).eq_of_mem_iff hascending fun address => ?_
  rw [mem_ofList, List.mem_dedup, List.mem_mergeSort]

end BlockList

/-! ## Recoveries -/

/-- A recovery of blocks: who works for whom, on which executable, with which
seeds, and from which state. -/
structure Recovery (σ : Type) where
  host : Host σ
  engine : Engine σ
  imagePath : String
  image : CodeImage
  seeds : SeedSet
  /-- The directory for the scratch directory. -/
  scratch : String
  start : σ

namespace Recovery

open Activity

variable {σ : Type} {r : Recovery σ}

/-- What a recovery answers. -/
def answer (r : Recovery σ) : Except Error BlockList :=
  (BlockList.recover r.host r.engine r.imagePath r.image r.seeds r.scratch
    r.start).value

/-- An engine that could be asked has left a text at the path of its result
file. -/
inductive Leaves (r : Recovery σ) : (path body : String) → Prop where
  | intro {root body : String} {s₁ s₂ s₃ : σ} {notes : List Note}
      (made : r.host.makeScratch r.scratch "recover-" r.start = (.ok root, s₁))
      (seeded : r.host.writeBytes (RecoveryArea.mk root).seeds
        (Text.utf8 (AddressFile.render r.seeds.members)) s₁ = (.ok (), s₂))
      (answered : r.engine.recover (Run.recoveryJob r.imagePath r.image root)
        s₂ = ⟨.ok (), s₃, notes⟩)
      (read : r.host.readText s₃ (RecoveryArea.mk root).result = .ok body) :
      Leaves r (RecoveryArea.mk root).result body

theorem Leaves.unique {path path' body body' : String} (h : r.Leaves path body)
    (h' : r.Leaves path' body') : path = path' ∧ body = body' := by
  obtain ⟨made, seeded, answered, read⟩ := h
  obtain ⟨made', seeded', answered', read'⟩ := h'
  cases made.symm.trans made'
  cases seeded.symm.trans seeded'
  cases answered.symm.trans answered'
  cases read.symm.trans read'
  exact ⟨rfl, rfl⟩

/-- A recovery answers only if a text is left, with the addresses that are read
from it; where a text is left, it fails only as the reading does.  A step that
fails leaves no text. -/
theorem wp_recover (r : Recovery σ) :
    (BlockList.recover r.host r.engine r.imagePath r.image r.seeds r.scratch).wp
      (fun blocks _ => ∃ path body emitted, r.Leaves path body ∧
        AddressFile.parse path body = .ok emitted ∧ blocks = .ofList emitted)
      (fun e _ => ∀ path body, r.Leaves path body →
        AddressFile.parse path body = .error e) r.start := by
  rw [BlockList.recover, wp_bind, wp_mapError, wp_perform]
  refine ⟨fun root s₁ made => ?_, fun e s₁ denied => ?_⟩
  swap
  · rintro path body ⟨made, -, -, -⟩
    cases denied.symm.trans made
  rw [wp_cleanUp, BlockList.recoverIn, wp_bind, Run.wp_noted, AddressFile.write,
    wp_bind, Host.exchangeOut, wp_mapError, wp_perform]
  refine ⟨fun _ s₂ seeded => ?_, fun e s₂ denied => ?_⟩
  swap
  · rintro path body ⟨made', seeded, -, -⟩
    cases made.symm.trans made'
    cases denied.symm.trans seeded
  rw [wp_report, wp_bind, Run.wp_called, wp_iff]
  refine ⟨fun _ s₃ notes answered => ?_, fun e s₃ notes refused => ?_⟩
  swap
  · rintro path body ⟨made', seeded', answered, -⟩
    cases made.symm.trans made'
    cases seeded.symm.trans seeded'
    cases refused.symm.trans answered
  rw [wp_bind, Run.wp_noted, AddressFile.read, wp_bind, Host.exchangeIn,
    wp_mapError, wp_inspect]
  refine ⟨fun body read => ?_, fun e unread => ?_⟩
  swap
  · rintro path body ⟨made', seeded', answered', read⟩
    cases made.symm.trans made'
    cases seeded.symm.trans seeded'
    cases answered.symm.trans answered'
    cases unread.symm.trans read
  have leaves := Leaves.intro made seeded answered read
  rw [wp_ofExcept]
  refine ⟨fun emitted hparse => ?_, fun e hparse path' body' leaves' => ?_⟩
  · rw [wp_bind, wp_reportAll, wp_pure]
    exact ⟨_, body, emitted, leaves, hparse, rfl⟩
  · obtain ⟨rfl, rfl⟩ := leaves.unique leaves'
    exact hparse

theorem answer_eq_ok_iff {blocks : BlockList} :
    r.answer = .ok blocks ↔ ∃ path body emitted, r.Leaves path body ∧
      AddressFile.parse path body = .ok emitted ∧ blocks = .ofList emitted := by
  have hwp := r.wp_recover
  rw [wp] at hwp
  constructor
  · intro h
    rw [answer] at h
    rw [h] at hwp
    exact hwp
  · rintro ⟨path, body, emitted, hleaves, hparse, rfl⟩
    rw [answer]
    split at hwp
    next blocks hblocks =>
      obtain ⟨path', body', emitted', hleaves', hparse', rfl⟩ := hwp
      obtain ⟨rfl, rfl⟩ := hleaves.unique hleaves'
      cases hparse.symm.trans hparse'
      exact hblocks
    next e _ => cases hparse.symm.trans (hwp path body hleaves)

/-- A recovery answers just if its engine leaves an address file, and then with
the ascending list of all its addresses, in the code section or not: they are
sorted, and of equal neighbours one is kept.  The list is read back from the
file that is written of it, and to bring it into order again changes nothing.
Any other recovery whose engine leaves an address file with the same addresses
on its lines, in whatever order and spelling and however often, answers with the
same list, of which the same bytes are written. -/
theorem answer_canonical (r : Recovery σ) :
    (∀ blocks, r.answer = .ok blocks ↔
      ∃ path body emitted, r.Leaves path body ∧
        AddressFile.parse path body = .ok emitted ∧
        blocks.addresses.Pairwise (· < ·) ∧
        ∀ address, address ∈ blocks.addresses ↔ address ∈ emitted) ∧
    (∀ emitted, (BlockList.ofList emitted).addresses =
      (emitted.mergeSort (· ≤ ·)).destutter (· ≠ ·)) ∧
    (∀ blocks, r.answer = .ok blocks →
      (∀ path, AddressFile.parse path (AddressFile.render blocks.addresses) =
        .ok blocks.addresses) ∧
      BlockList.ofList blocks.addresses = blocks) ∧
    (∀ path body emitted, AddressFile.parse path body = .ok emitted →
      ∀ address, address ∈ emitted ↔ AddressFile.Lists body address) ∧
    ∀ (τ : Type) (other : Recovery τ) (path body path' body' : String)
      (emitted emitted' : List Address),
      r.Leaves path body → AddressFile.parse path body = .ok emitted →
      other.Leaves path' body' →
      AddressFile.parse path' body' = .ok emitted' →
      (∀ address, AddressFile.Lists body address ↔
        AddressFile.Lists body' address) →
      ∃ blocks blocks', r.answer = .ok blocks ∧ other.answer = .ok blocks' ∧
        blocks = blocks' ∧ Text.utf8 (AddressFile.render blocks.addresses) =
          Text.utf8 (AddressFile.render blocks'.addresses) := by
  refine ⟨fun blocks => ?_, BlockList.addresses_ofList,
    fun blocks hblocks => ⟨?_, ?_⟩, fun _ _ _ => AddressFile.mem_iff_lists, ?_⟩
  · simp only [answer_eq_ok_iff, BlockList.eq_ofList_iff]
  · exact fun path => AddressFile.parse_render blocks.addresses path
  · obtain ⟨-, -, emitted, -, -, rfl⟩ := answer_eq_ok_iff.mp hblocks
    exact BlockList.ofList_eq_ofList_iff.mpr (BlockList.mem_ofList emitted)
  · intro τ other path body path' body' emitted emitted' hleaves hparse hleaves'
      hparse' hlists
    have hsame : BlockList.ofList emitted = BlockList.ofList emitted' := by
      refine BlockList.ofList_eq_ofList_iff.mpr fun address => ?_
      rw [AddressFile.mem_iff_lists hparse, hlists,
        AddressFile.mem_iff_lists hparse']
    exact ⟨_, _,
      answer_eq_ok_iff.mpr ⟨path, body, emitted, hleaves, hparse, rfl⟩,
      answer_eq_ok_iff.mpr ⟨path', body', emitted', hleaves', hparse', rfl⟩,
      hsame, by rw [hsame]⟩

/-- A recovery on a machine, with an engine that leaves a given text. -/
def rehearsed (text : String) : Recovery Machine where
  host := Machine.host
  engine := Part.engine Machine.host
    ⟨false, .content (Text.utf8 text), none, none⟩
  imagePath := "/game.exe"
  image := ⟨16, [0x90, 0xC3]⟩
  seeds := .ofList [16]
  scratch := "/tmp"
  start := {
    tree := FileTree.empty.set ["tmp"] .directory
    place := []
    environment := []
    temporaryDirectory := "/tmp"
    executable := none }

/-- Both addresses of the text are recovered, though only one of them lies in
the code, and the one that is given twice is there once. -/
theorem rehearsed_blocks :
    (rehearsed "+30\r\n17\n\n30").answer = .ok ⟨[17, 30]⟩ ∧
    ∃ path body emitted, (rehearsed "+30\r\n17\n\n30").Leaves path body ∧
      AddressFile.parse path body = .ok emitted ∧
      ([17, 30] : List Address).Pairwise (· < ·) ∧
      ∀ address, address ∈ [17, 30] ↔ address ∈ emitted := by
  have hanswer : (rehearsed "+30\r\n17\n\n30").answer = .ok ⟨[17, 30]⟩ := by
    decide +kernel
  obtain ⟨hblocks, -⟩ := answer_canonical (rehearsed "+30\r\n17\n\n30")
  exact ⟨hanswer, (hblocks _).mp hanswer⟩

end Recovery

end Relift
