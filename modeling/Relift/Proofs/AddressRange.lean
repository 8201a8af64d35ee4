import Relift.Proofs.Collision
import Relift.Proofs.ExportSymbols

/-!
# Addresses beyond the largest word

An executable names its places by their distance from its base, and the address
of a place is the sum of both.  Addresses are words, so a sum that does not fit
is cut off at the largest word, and nothing is said about it.  This module
settles when that happens.  `Portable.Unclamped` is what one would like to have
of every executable with a code image: its code and its exported symbols lie
where they should, and exports at different places are never taken for one.  It
holds exactly if all sums fit (`Portable.Fits`).

They do fit for a base that leaves room for a 32-bit distance, and so for each
base of the 32-bit form.  A base of the 64-bit form may be any word, and from
the last addresses on two exports share a descriptor although their places
differ; one of them then loses its name, or the executable is refused for a
collision that is none.

## Main result

* `Portable.unclamped_iff_fits` — when nothing is cut off, and what happens to
  exports otherwise.
-/

namespace Relift

namespace Address

variable {base : UInt64} {distance other : UInt32}

theorem toNat_addSaturating_eq_iff :
    (addSaturating base distance.toUInt64).toNat =
        base.toNat + distance.toNat ↔
      base.toNat + distance.toNat < 2 ^ 64 := by
  rw [toNat_addSaturating, UInt32.toNat_toUInt64]
  omega

/-- A sum that does not fit becomes the largest word. -/
theorem addSaturating_of_beyond
    (h : 2 ^ 64 ≤ base.toNat + distance.toNat) :
    addSaturating base distance.toUInt64 = last := by
  rw [addSaturating, if_neg]
  rw [UInt32.toNat_toUInt64]
  exact Nat.not_lt_of_le h

/-- Two sums with the same base coincide for the same distance, or because both
reach the largest word. -/
theorem addSaturating_eq_iff :
    addSaturating base distance.toUInt64 = addSaturating base other.toUInt64 ↔
      distance = other ∨ 2 ^ 64 - 1 ≤ base.toNat + distance.toNat ∧
        2 ^ 64 - 1 ≤ base.toNat + other.toNat := by
  rw [← UInt64.toNat_inj, ← UInt32.toNat_inj, toNat_addSaturating,
    toNat_addSaturating, UInt32.toNat_toUInt64, UInt32.toNat_toUInt64]
  omega

end Address

namespace Image

/-! ## Executables of which nothing is cut off -/

namespace Portable

/-- All addresses of an executable fit a word: that of its code and those of the
exports which count. -/
structure Fits (pe : Portable) : Prop where
  code : ∀ s ∈ pe.sections, s.IsCode →
    pe.imageBase.toNat + s.virtualAddress.toNat < 2 ^ 64
  symbol : ∀ name e, LastGiving pe.exports name e →
    pe.imageBase.toNat + e.rva.toNat < 2 ^ 64

/-- Nothing of an executable with a given code image is cut off. -/
structure Unclamped (pe : Portable) (image : CodeImage) : Prop where
  /-- The code lies where its section belongs. -/
  load : ∀ s ∈ pe.sections, s.IsCode →
    image.loadAddress.toNat = pe.imageBase.toNat + s.virtualAddress.toNat
  /-- A symbol lies where its export belongs. -/
  primary : ∀ name e, LastGiving pe.exports name e →
    ∃ descriptor, (exportSymbols pe).get? name = some descriptor ∧
      descriptor.primary.toNat = pe.imageBase.toNat + e.rva.toNat
  /-- Exports at different places have different descriptors. -/
  apart : ∀ name other e e', LastGiving pe.exports name e →
    LastGiving pe.exports other e' → e.rva ≠ e'.rva →
    (exportSymbols pe).get? name ≠ (exportSymbols pe).get? other
  /-- Whatever the policy, a name only gives way to one of the same place. -/
  kept : ∀ policy names notes,
    NameMap.ofSymbols (exportSymbols pe) policy = .ok (names, notes) →
    ∀ name e descriptor, LastGiving pe.exports name e →
      (exportSymbols pe).get? name = some descriptor →
      ∃ other e', names.get? descriptor = some other ∧
        LastGiving pe.exports other e' ∧ e'.rva = e.rva
  /-- Names collide only if they are of the same place. -/
  collision : ∀ descriptor kept rejected,
    NameMap.ofSymbols (exportSymbols pe) .reject =
      .error (.nameCollision descriptor kept rejected) →
    ∃ e e', LastGiving pe.exports kept e ∧ LastGiving pe.exports rejected e' ∧
      e.rva = e'.rva

section Descriptors

variable {pe : Portable} {name other : String} {e e' : Export}

/-- The descriptor of a name is that of the last export which counts for it. -/
theorem get?_of_lastGiving (h : LastGiving pe.exports name e) :
    (exportSymbols pe).get? name =
      some ⟨Address.addSaturating pe.imageBase e.rva.toUInt64, 0⟩ :=
  (get?_exportSymbols pe name _).mpr ⟨e, h, Export.liesAt_iff.mpr rfl⟩

/-- Two names share a descriptor if their exports are at one place, or if both
addresses reach the largest word. -/
theorem get?_eq_get?_iff (h : LastGiving pe.exports name e)
    (h' : LastGiving pe.exports other e') :
    (exportSymbols pe).get? name = (exportSymbols pe).get? other ↔
      e.rva = e'.rva ∨ 2 ^ 64 - 1 ≤ pe.imageBase.toNat + e.rva.toNat ∧
        2 ^ 64 - 1 ≤ pe.imageBase.toNat + e'.rva.toNat := by
  rw [get?_of_lastGiving h, get?_of_lastGiving h', Option.some.injEq,
    Descriptor.mk.injEq, Address.addSaturating_eq_iff]
  exact and_iff_left rfl

/-- If all addresses fit, names that share a descriptor are of one place. -/
theorem Fits.rva_eq (hfits : pe.Fits) (h : LastGiving pe.exports name e)
    (h' : LastGiving pe.exports other e')
    (heq : (exportSymbols pe).get? name = (exportSymbols pe).get? other) :
    e.rva = e'.rva := by
  rw [get?_eq_get?_iff h h', ← UInt32.toNat_inj] at heq
  rw [← UInt32.toNat_inj]
  have hfirst := hfits.symbol name e h
  have hsecond := hfits.symbol other e' h'
  omega

end Descriptors

section Fitting

variable {pe : Portable} {bytes : Bytes} {image : CodeImage}

/-- The code of an executable lies at the place of its code section. -/
theorem loadAddress_of_codeImage (h : pe.codeImage bytes = .ok image)
    {s : Section} (hs : s ∈ pe.sections) (hcode : s.IsCode) :
    image.loadAddress =
      Address.addSaturating pe.imageBase s.virtualAddress.toUInt64 := by
  obtain ⟨only, hok, -, hload⟩ := codeImage_eq_ok h
  obtain rfl := (isCode_iff_of_codeSection hok s).mp ⟨hs, hcode⟩
  exact hload

/-- Where everything fits, nothing is clamped.  A descriptor keeps a name in the
map, and that name is one of the table. -/
theorem Fits.unclamped (hfits : pe.Fits) (h : pe.codeImage bytes = .ok image) :
    pe.Unclamped image where
  load := by
    intro s hs hcode
    rw [loadAddress_of_codeImage h hs hcode, Address.toNat_addSaturating_eq_iff]
    exact hfits.code s hs hcode
  primary := by
    intro name e he
    refine ⟨_, get?_of_lastGiving he, ?_⟩
    show (Address.addSaturating pe.imageBase e.rva.toUInt64).toNat = _
    rw [Address.toNat_addSaturating_eq_iff]
    exact hfits.symbol name e he
  apart := by
    intro name other e e' he he' hne heq
    exact hne (hfits.rva_eq he he' heq)
  kept := by
    intro policy names notes hnames name e descriptor he hname
    have hvalue : descriptor ∈ (exportSymbols pe).values :=
      List.mem_map.mpr
        ⟨_, (Ordered.mem_toList_iff _ name descriptor).mpr hname, rfl⟩
    rw [← NameMap.mem_keys_ofSymbols hnames, Ordered.mem_keys_iff] at hvalue
    obtain ⟨other, hother⟩ := hvalue
    have hlisted := NameMap.get?_of_get?_ofSymbols hnames hother
    obtain ⟨e', he', -⟩ := (get?_exportSymbols pe other descriptor).mp hlisted
    exact ⟨other, e', hother, he',
      hfits.rva_eq he' he (hlisted.trans hname.symm)⟩
  collision := by
    intro descriptor kept rejected herror
    obtain ⟨_, _, _, hfirst, hsame⟩ :=
      NameMap.ofSymbols_reject_eq_error_iff.mp herror
    cases hsame
    obtain ⟨e, he, -⟩ := (get?_exportSymbols pe kept descriptor).mp hfirst.kept_at
    obtain ⟨e', he', -⟩ :=
      (get?_exportSymbols pe rejected descriptor).mp hfirst.rejected_at
    exact ⟨e, e', he, he',
      hfits.rva_eq he he' (hfirst.kept_at.trans hfirst.rejected_at.symm)⟩

theorem Unclamped.fits (h : pe.Unclamped image) : pe.Fits where
  code := by
    intro s hs hcode
    rw [← h.load s hs hcode]
    exact image.loadAddress.toNat_lt
  symbol := by
    intro name e he
    obtain ⟨descriptor, -, hprimary⟩ := h.primary name e he
    rw [← hprimary]
    exact descriptor.primary.toNat_lt

/-- A base leaves room for all distances if it leaves room for a 32-bit word. -/
theorem fits_of_imageBase (h : pe.imageBase.toNat + 2 ^ 32 ≤ 2 ^ 64) :
    pe.Fits where
  code := by
    intro s _ _
    have hdistance := s.virtualAddress.toNat_lt
    omega
  symbol := by
    intro name e _
    have hdistance := e.rva.toNat_lt
    omega

end Fitting

/-- Of an executable with a code image nothing is cut off exactly if all its
addresses fit a word, as they do if the base leaves room for a 32-bit distance,
and so whenever the base itself is a 32-bit word.  An address that does not fit
becomes the largest one, and exports at different places share a descriptor
exactly if both addresses reach the largest one. -/
theorem unclamped_iff_fits {pe : Portable} {bytes : Bytes} {image : CodeImage}
    (h : pe.codeImage bytes = .ok image) :
    (pe.Unclamped image ↔ pe.Fits) ∧
    (pe.imageBase.toNat + 2 ^ 32 ≤ 2 ^ 64 → pe.Fits) ∧
    (pe.imageBase.toNat < 2 ^ 32 → pe.Fits) ∧
    (∀ s ∈ pe.sections, s.IsCode →
      2 ^ 64 ≤ pe.imageBase.toNat + s.virtualAddress.toNat →
      image.loadAddress = Address.last) ∧
    (∀ name e, LastGiving pe.exports name e →
      2 ^ 64 ≤ pe.imageBase.toNat + e.rva.toNat →
      (exportSymbols pe).get? name = some ⟨Address.last, 0⟩) ∧
    ∀ name other e e', LastGiving pe.exports name e →
      LastGiving pe.exports other e' → e.rva ≠ e'.rva →
      ((exportSymbols pe).get? name = (exportSymbols pe).get? other ↔
        2 ^ 64 - 1 ≤ pe.imageBase.toNat + e.rva.toNat ∧
          2 ^ 64 - 1 ≤ pe.imageBase.toNat + e'.rva.toNat) := by
  refine ⟨⟨Unclamped.fits, fun hfits => hfits.unclamped h⟩, fits_of_imageBase,
    ?_, ?_, ?_, ?_⟩
  · intro hbase
    exact fits_of_imageBase (by omega)
  · intro s hs hcode hbeyond
    rw [loadAddress_of_codeImage h hs hcode]
    exact Address.addSaturating_of_beyond hbeyond
  · intro name e he hbeyond
    rw [get?_of_lastGiving he, Address.addSaturating_of_beyond hbeyond]
  · intro name other e e' he he' hne
    rw [get?_eq_get?_iff he he']
    exact or_iff_right hne

end Portable

/-! ## An executable at the end of the addresses -/

deriving instance DecidableEq for Section, Export, Portable

/-- A library of the 64-bit form whose base is the last page.  Its only section
is the first page after the base; it exports `alpha` at the beginning of that
page and `beta` sixteen bytes later.  The headers with the base, the alignments
and the export directory come first, then the section table, then the code with
the tables of the exports and their names. -/
def farLibrary : Bytes :=
  [0x4D, 0x5A] ++ List.replicate 58 0 ++ [0x80] ++ List.replicate 67 0 ++
  [0x50, 0x45, 0, 0, 0x64, 0x86, 1] ++ List.replicate 13 0 ++
  [0xF0, 0, 0x22, 0x20, 0x0B, 2] ++ List.replicate 23 0 ++
  [0xF0, 0xFF, 0xFF, 0xFF, 0xFF, 0xFF, 0xFF, 0, 0x10, 0, 0, 0, 2] ++
  List.replicate 70 0 ++ [0x10, 0, 0, 0, 0x20, 0x10, 0, 0, 0x60] ++
  List.replicate 123 0 ++
  [0x2E, 0x74, 0x65, 0x78, 0x74, 0, 0, 0, 0, 1, 0, 0, 0, 0x10, 0, 0, 0, 1, 0, 0,
    0, 2] ++
  List.replicate 14 0 ++ [0x20, 0, 0, 0x60] ++ List.replicate 80 0 ++
  [0xC3] ++ List.replicate 15 0 ++ [0xC3] ++ List.replicate 27 0 ++
  [0x67, 0x10, 0, 0, 1, 0, 0, 0, 2, 0, 0, 0, 2, 0, 0, 0, 0x48, 0x10, 0, 0, 0x50,
    0x10, 0, 0, 0x58, 0x10, 0, 0, 0, 0x10, 0, 0, 0x10, 0x10, 0, 0, 0x5C, 0x10,
    0, 0, 0x62, 0x10, 0, 0, 0, 0, 1, 0, 0x61, 0x6C, 0x70, 0x68, 0x61, 0, 0x62,
    0x65, 0x74, 0x61, 0, 0x66, 0x61, 0x72, 0x2E, 0x64, 0x6C, 0x6C] ++
  List.replicate 146 0

/-- The section of this library and both of its exports are taken for the
largest address, and the two exports for one. -/
theorem far_exports_merged :
    ∃ pe image, Portable.parse? farLibrary = some pe ∧
      pe.codeImage farLibrary = .ok image ∧ ¬ pe.Unclamped image ∧
      image.loadAddress = Address.last ∧
      (exportSymbols pe).toList =
        [("alpha", ⟨Address.last, 0⟩), ("beta", ⟨Address.last, 0⟩)] ∧
      NameMap.ofSymbols (exportSymbols pe) .reject =
        .error (.nameCollision ⟨Address.last, 0⟩ "alpha" "beta") := by
  let text : Section :=
    ⟨some ".text", 0x100, 0x1000, 0x100, 0x200, 0x60000020⟩
  let pe : Portable := ⟨0xFFFFFFFFFFFFF000, [text],
    [⟨some "alpha", 0x1000, false⟩, ⟨some "beta", 0x1010, false⟩]⟩
  have hparse : Portable.parse? farLibrary = some pe := by decide +kernel
  have hlength : 0x200 + 0x100 ≤ farLibrary.length := by decide +kernel
  have hcode : codeSection pe = .ok text := rfl
  obtain ⟨image, himage, -⟩ := codeImage_of_inside hcode hlength
  obtain ⟨hunclamped, -, -, hload, -⟩ := Portable.unclamped_iff_fits himage
  have htext : text.IsCode := .inl rfl
  have hbeyond :
      2 ^ 64 ≤ pe.imageBase.toNat + text.virtualAddress.toNat := by decide
  have hsymbols : (exportSymbols pe).toList =
      [("alpha", ⟨Address.last, 0⟩), ("beta", ⟨Address.last, 0⟩)] := by
    decide +kernel
  refine ⟨pe, image, hparse, himage, fun h => ?_,
    hload text List.mem_cons_self htext hbeyond, hsymbols, ?_⟩
  · have hfits := (hunclamped.mp h).code text List.mem_cons_self htext
    exact absurd hbeyond (Nat.not_le_of_lt hfits)
  · rw [NameMap.ofSymbols, hsymbols]
    rfl

end Image

end Relift
