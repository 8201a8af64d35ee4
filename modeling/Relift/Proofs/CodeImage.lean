import Mathlib.Data.Nat.Bitwise
import Relift.Image.Code

/-!
# The code of an executable

An executable has a code image if exactly one of its sections counts as code and
the file has all bytes that this section claims.  `Section.IsCode` says which
sections count, `CodeImage.TakenFrom` which image a section gives.  The other
sections and the order of the table have no part in it, since only the sections
that count are looked at (`codeSection_of_perm`).

## Main result

* `Portable.codeImage_exact` — which code image an executable has, and for what
  it is refused.
-/

namespace Relift

/-- A sum of two words is cut off at the largest word. -/
theorem Address.toNat_addSaturating (a b : UInt64) :
    (Address.addSaturating a b).toNat =
      min (a.toNat + b.toNat) (2 ^ 64 - 1) := by
  have hsize : UInt64.size = 2 ^ 64 := rfl
  unfold Address.addSaturating
  by_cases hfits : a.toNat + b.toNat < UInt64.size
  · rw [if_pos hfits, UInt64.toNat_add, Nat.mod_eq_of_lt hfits]
    omega
  · have hlast : Address.last.toNat = 2 ^ 64 - 1 := rfl
    rw [if_neg hfits, hlast]
    omega

namespace Image

/-! ## Ranges of bytes -/

section Slices

variable {bytes : Bytes} {offset length : Nat}

theorem exists_slice? (h : offset + length ≤ bytes.length) :
    ∃ part, slice? bytes offset length = some part ∧ part.length = length ∧
      ∀ i < length, part[i]? = bytes[offset + i]? := by
  refine ⟨(bytes.drop offset).take length, if_pos h, ?_, ?_⟩
  · rw [List.length_take, List.length_drop]
    omega
  · intro i hi
    rw [List.getElem?_take_of_lt hi, List.getElem?_drop]

theorem slice?_eq_none (h : bytes.length < offset + length) :
    slice? bytes offset length = none :=
  if_neg (Nat.not_le_of_lt h)

end Slices

/-! ## The code section -/

/-- A section counts as code: it is named `.text`, or the bit for execution is
set in its characteristics. -/
def Section.IsCode (s : Section) : Prop :=
  s.name = some ".text" ∨ s.characteristics.toNat.testBit 29 = true

instance (s : Section) : Decidable s.IsCode :=
  inferInstanceAs (Decidable (_ ∨ _))

theorem and_executableMark_ne_zero (word : UInt32) :
    word &&& executableMark ≠ 0 ↔ word.toNat.testBit 29 = true := by
  have hmark : executableMark.toNat = 2 ^ 29 := rfl
  rw [Ne, ← UInt32.toNat_inj, UInt32.toNat_and, hmark, Nat.and_two_pow]
  cases word.toNat.testBit 29 <;> decide

theorem Section.isCode_iff (s : Section) : s.isCode = true ↔ s.IsCode := by
  rw [Section.isCode, Bool.or_eq_true, beq_iff_eq, bne_iff_ne,
    and_executableMark_ne_zero]
  rfl

theorem length_filter_isCode (sections : List Section) :
    (sections.filter Section.isCode).length =
      sections.countP fun s => s.IsCode := by
  rw [← List.countP_eq_length_filter]
  refine List.countP_congr fun s _ => ?_
  rw [s.isCode_iff, decide_eq_true_iff]

section CodeSection

variable {pe other : Portable}

theorem codeSection_of_filter {s : Section}
    (h : pe.sections.filter Section.isCode = [s]) : codeSection pe = .ok s := by
  rw [codeSection, h]

theorem codeSection_of_count
    (h : (pe.sections.countP fun s => s.IsCode) ≠ 1) :
    codeSection pe =
      .error (.sectionResolution (pe.sections.countP fun s => s.IsCode)) := by
  rw [← length_filter_isCode] at h ⊢
  unfold codeSection
  split
  next only hfilter =>
    rw [hfilter] at h
    exact absurd rfl h
  next => rfl

/-- A table in which one section counts as code has it as its code section. -/
theorem exists_codeSection
    (h : (pe.sections.countP fun s => s.IsCode) = 1) :
    ∃ s ∈ pe.sections, s.IsCode ∧
      (∀ t ∈ pe.sections, t.IsCode → t = s) ∧ codeSection pe = .ok s := by
  rw [← length_filter_isCode] at h
  obtain ⟨s, hfilter⟩ := List.length_eq_one_iff.mp h
  have hmem : ∀ t, t ∈ pe.sections ∧ t.IsCode ↔ t = s := by
    intro t
    rw [← t.isCode_iff, ← List.mem_filter, hfilter, List.mem_singleton]
  obtain ⟨hs, hcode⟩ := (hmem s).mpr rfl
  exact ⟨s, hs, hcode, fun t ht htcode => (hmem t).mp ⟨ht, htcode⟩,
    codeSection_of_filter hfilter⟩

/-- The code section of a table is the one section that counts as code. -/
theorem isCode_iff_of_codeSection {s : Section} (h : codeSection pe = .ok s)
    (t : Section) : t ∈ pe.sections ∧ t.IsCode ↔ t = s := by
  by_cases hcount : (pe.sections.countP fun s => s.IsCode) = 1
  · obtain ⟨only, hmem, hcode, honly, hok⟩ := exists_codeSection hcount
    rw [hok] at h
    cases h
    constructor
    · rintro ⟨ht, htcode⟩
      exact honly t ht htcode
    · rintro rfl
      exact ⟨hmem, hcode⟩
  · rw [codeSection_of_count hcount] at h
    cases h

/-- The order of the table and sections that do not count as code have no part
in the choice. -/
theorem codeSection_of_perm {inserted : List Section}
    (hinserted : ∀ s ∈ inserted, ¬ s.IsCode)
    (hperm : other.sections.Perm (inserted ++ pe.sections)) :
    codeSection other = codeSection pe := by
  have hnone : inserted.filter Section.isCode = [] := by
    refine List.filter_eq_nil_iff.mpr fun s hs => ?_
    rw [s.isCode_iff]
    exact hinserted s hs
  have hfilter : (other.sections.filter Section.isCode).Perm
      (pe.sections.filter Section.isCode) := by
    have h := hperm.filter Section.isCode
    rwa [List.filter_append, hnone, List.nil_append] at h
  have hcount := hfilter.length_eq
  rw [length_filter_isCode, length_filter_isCode] at hcount
  by_cases hone : (pe.sections.countP fun s => s.IsCode) = 1
  · rw [← length_filter_isCode] at hone
    obtain ⟨s, hs⟩ := List.length_eq_one_iff.mp hone
    rw [hs, List.perm_singleton] at hfilter
    rw [codeSection_of_filter hs, codeSection_of_filter hfilter]
  · rw [codeSection_of_count hone, ← hcount, codeSection_of_count (hcount ▸ hone)]

end CodeSection

/-! ## The code image -/

end Image

/-- A code image is the one that a section gives: its bytes are those of the
file from the section's pointer on, as many as the raw size says, and it lies at
the section's place above the base, or at the largest address if that does not
fit. -/
structure CodeImage.TakenFrom (image : CodeImage) (imageBase : UInt64)
    (s : Image.Section) (bytes : Bytes) : Prop where
  loadAddress : image.loadAddress.toNat =
    min (imageBase.toNat + s.virtualAddress.toNat) (2 ^ 64 - 1)
  length : image.code.length = s.rawSize.toNat
  byte : ∀ i < s.rawSize.toNat,
    image.code[i]? = bytes[s.rawPointer.toNat + i]?

namespace Image

section CodeImages

variable {pe : Portable} {s : Section} {bytes : Bytes}

theorem codeImage_of_inside (hcode : codeSection pe = .ok s)
    (hinside : s.rawPointer.toNat + s.rawSize.toNat ≤ bytes.length) :
    ∃ image, pe.codeImage bytes = .ok image ∧
      image.TakenFrom pe.imageBase s bytes := by
  obtain ⟨part, hpart, hlength, hbyte⟩ := exists_slice? hinside
  refine ⟨⟨Address.addSaturating pe.imageBase s.virtualAddress.toUInt64, part⟩,
    ?_, ?_, hlength, hbyte⟩
  · rw [Portable.codeImage, hcode]
    simp only [bind, Except.bind, hpart]
  · rw [Address.toNat_addSaturating, UInt32.toNat_toUInt64]

theorem codeImage_of_outside (hcode : codeSection pe = .ok s)
    (houtside : bytes.length < s.rawPointer.toNat + s.rawSize.toNat) :
    pe.codeImage bytes = .error (.image (outsideText s.rawPointer.toNat
      (s.rawPointer.toNat + s.rawSize.toNat) bytes.length)) := by
  rw [Portable.codeImage, hcode]
  simp only [bind, Except.bind, slice?_eq_none houtside]

theorem codeImage_of_refused {e : Error} (hcode : codeSection pe = .error e) :
    pe.codeImage bytes = .error e := by
  rw [Portable.codeImage, hcode]
  rfl

/-- The code image of an executable is the content of its code section. -/
theorem codeImage_eq_ok {image : CodeImage}
    (h : pe.codeImage bytes = .ok image) :
    ∃ code, codeSection pe = .ok code ∧
      slice? bytes code.rawPointer.toNat code.rawSize.toNat =
        some image.code ∧
      image.loadAddress =
        Address.addSaturating pe.imageBase code.virtualAddress.toUInt64 := by
  unfold Portable.codeImage at h
  rcases hcode : codeSection pe with e | code
  · rw [hcode] at h
    cases h
  · rw [hcode] at h
    simp only [bind, Except.bind] at h
    cases hslice : slice? bytes code.rawPointer.toNat code.rawSize.toNat with
    | none =>
        rw [hslice] at h
        cases h
    | some content =>
        rw [hslice] at h
        cases h
        exact ⟨code, rfl, hslice, rfl⟩

end CodeImages

/-- An executable is refused with the number of its code sections unless there
is one.  If there is one, its code image is taken from it, or the executable is
refused because the section goes beyond the end of the file.  Neither the order
of the section table nor sections that do not count as code change the
answer. -/
theorem Portable.codeImage_exact (pe : Portable) (bytes : Bytes) :
    let count := pe.sections.countP fun s => s.IsCode
    (count ≠ 1 → pe.codeImage bytes = .error (.sectionResolution count)) ∧
    (count = 1 → ∃ s ∈ pe.sections, s.IsCode ∧
      (∀ t ∈ pe.sections, t.IsCode → t = s) ∧
      let start := s.rawPointer.toNat
      let stop := start + s.rawSize.toNat
      (stop ≤ bytes.length → ∃ image, pe.codeImage bytes = .ok image ∧
        image.TakenFrom pe.imageBase s bytes) ∧
      (bytes.length < stop → pe.codeImage bytes =
        .error (.image (outsideText start stop bytes.length)))) ∧
    ∀ (other : Portable) (inserted : List Section),
      other.imageBase = pe.imageBase → (∀ s ∈ inserted, ¬ s.IsCode) →
      other.sections.Perm (inserted ++ pe.sections) →
      other.codeImage bytes = pe.codeImage bytes := by
  intro count
  refine ⟨fun hcount => ?_, fun hcount => ?_, ?_⟩
  · exact codeImage_of_refused (codeSection_of_count hcount)
  · obtain ⟨s, hs, hiscode, honly, hcode⟩ := exists_codeSection hcount
    exact ⟨s, hs, hiscode, honly, codeImage_of_inside hcode,
      codeImage_of_outside hcode⟩
  · intro other inserted hbase hinserted hperm
    rw [codeImage, codeImage, hbase, codeSection_of_perm hinserted hperm]

/-- An empty section may begin at the end of the file, but not after it. -/
example :
    let executable (pointer : UInt32) : Portable :=
      ⟨0x400000, [⟨none, 512, 0x1000, 0, pointer, 0x60000020⟩], []⟩
    (executable 3).codeImage [0x4D, 0x5A, 0x90] = .ok ⟨0x401000, []⟩ ∧
      (executable 4).codeImage [0x4D, 0x5A, 0x90] =
        .error (.image
          "code section raw data 0x4..0x4 lies outside the 3-byte file") := by
  exact ⟨rfl, rfl⟩

end Image

end Relift
