import Relift.Text.Utf8

/-!
# Texts come back from their bytes

A text that is written to a file as UTF-8 is read back as it was.  Reading cuts
off one character at a time, so it is enough to follow one character
(`utf8Units_utf8OfChar`); its four forms are told apart by the lead byte, and
the bytes after it pass as continuation bytes because a character is no
surrogate and not beyond the last code point.

The bytes of texts also keep the order of their characters (`utf8_lt_utf8`), so
it makes no difference by which of the two names are sorted.
-/

namespace Relift.Text

/-! ## One sequence of bytes -/

theorem isTail_iff {b : UInt8} :
    isTail b = true ↔ 0x80 ≤ b.toNat ∧ b.toNat ≤ 0xBF := by
  simp [isTail, UInt8.le_iff_toNat_le]

private theorem not_lt_of_le_toNat {a b : UInt8} (h : b.toNat ≤ a.toNat) :
    ¬ a < b := by
  rw [UInt8.lt_iff_toNat_lt]
  omega

private theorem between_iff {a low high : UInt8} :
    (low ≤ a && a ≤ high) = true ↔ low.toNat ≤ a.toNat ∧ a.toNat ≤ high.toNat := by
  simp [UInt8.le_iff_toNat_le]

theorem utf8Units_one {a : UInt8} (h : a.toNat < 0x80) (rest : Bytes) :
    utf8Units (a :: rest) = some (Char.ofNat a.toNat) :: utf8Units rest := by
  have ha : a < 0x80 := UInt8.lt_iff_toNat_lt.mpr h
  rw [utf8Units.eq_def]
  simp only [ha, if_true]

theorem utf8Units_two {a b : UInt8} (h : 0xC2 ≤ a.toNat ∧ a.toNat ≤ 0xDF)
    (hb : isTail b = true) (rest : Bytes) :
    utf8Units (a :: b :: rest) =
      some (Char.ofNat (a.toNat % 32 * 64 + tailBits b)) :: utf8Units rest := by
  have hone : ¬ a < 0x80 := not_lt_of_le_toNat (Nat.le_trans (by decide) h.1)
  have htwo : (0xC2 ≤ a && a ≤ 0xDF) = true := between_iff.mpr h
  rw [utf8Units, if_neg hone, if_pos htwo, if_pos hb]

theorem utf8Units_three {a b c : UInt8} (h : 0xE0 ≤ a.toNat ∧ a.toNat ≤ 0xEF)
    (hb : isSecond a b = true) (hc : isTail c = true) (rest : Bytes) :
    utf8Units (a :: b :: c :: rest) =
      some (Char.ofNat (a.toNat % 16 * 4096 + tailBits b * 64 + tailBits c)) ::
        utf8Units rest := by
  have hone : ¬ a < 0x80 := not_lt_of_le_toNat (Nat.le_trans (by decide) h.1)
  have htwo : ¬ (0xC2 ≤ a && a ≤ 0xDF) = true := by
    rw [between_iff]
    show ¬ (0xC2 ≤ a.toNat ∧ a.toNat ≤ 0xDF)
    omega
  have hthree : (0xE0 ≤ a && a ≤ 0xEF) = true := between_iff.mpr h
  rw [utf8Units, if_neg hone, if_neg htwo, if_pos hthree]
  simp only [hb, hc, Bool.not_true, Bool.false_eq_true, if_false]

theorem utf8Units_four {a b c d : UInt8}
    (h : 0xF0 ≤ a.toNat ∧ a.toNat ≤ 0xF4) (hb : isSecond a b = true)
    (hc : isTail c = true) (hd : isTail d = true) (rest : Bytes) :
    utf8Units (a :: b :: c :: d :: rest) =
      some (Char.ofNat (a.toNat % 8 * 262144 + tailBits b * 4096 +
        tailBits c * 64 + tailBits d)) :: utf8Units rest := by
  have hone : ¬ a < 0x80 := not_lt_of_le_toNat (Nat.le_trans (by decide) h.1)
  have htwo : ¬ (0xC2 ≤ a && a ≤ 0xDF) = true := by
    rw [between_iff]
    show ¬ (0xC2 ≤ a.toNat ∧ a.toNat ≤ 0xDF)
    omega
  have hthree : ¬ (0xE0 ≤ a && a ≤ 0xEF) = true := by
    rw [between_iff]
    show ¬ (0xE0 ≤ a.toNat ∧ a.toNat ≤ 0xEF)
    omega
  have hfour : (0xF0 ≤ a && a ≤ 0xF4) = true := between_iff.mpr h
  rw [utf8Units, if_neg hone, if_neg htwo, if_neg hthree, if_pos hfour]
  simp only [hb, hc, hd, Bool.not_true, Bool.false_eq_true, if_false]

/-- A continuation byte may follow a lead byte unless the pair would be an
overlong form, a surrogate or beyond the last code point. -/
theorem isSecond_of_isTail {lead b : UInt8} (hb : isTail b = true)
    (hE0 : lead.toNat = 0xE0 → 0xA0 ≤ b.toNat)
    (hED : lead.toNat = 0xED → b.toNat ≤ 0x9F)
    (hF0 : lead.toNat = 0xF0 → 0x90 ≤ b.toNat)
    (hF4 : lead.toNat = 0xF4 → b.toNat ≤ 0x8F) : isSecond lead b = true := by
  obtain ⟨hlow, hhigh⟩ := isTail_iff.mp hb
  unfold isSecond
  split
  next h => exact between_iff.mpr ⟨hE0 (congrArg UInt8.toNat h), hhigh⟩
  next =>
    split
    next h => exact between_iff.mpr ⟨hlow, hED (congrArg UInt8.toNat h)⟩
    next =>
      split
      next h => exact between_iff.mpr ⟨hF0 (congrArg UInt8.toNat h), hhigh⟩
      next =>
        split
        next h => exact between_iff.mpr ⟨hlow, hF4 (congrArg UInt8.toNat h)⟩
        next => exact hb

/-! ## One character -/

private theorem toNat_byte {n : Nat} (h : n < 256) : (UInt8.ofNat n).toNat = n :=
  UInt8.toNat_ofNat_of_lt' h

/-- Six bits as a continuation byte. -/
private theorem isTail_byte {n : Nat} (h : n < 64) :
    isTail (UInt8.ofNat (0x80 + n)) = true := by
  rw [isTail_iff, toNat_byte (by omega)]
  omega

private theorem tailBits_byte {n : Nat} (h : n < 64) :
    tailBits (UInt8.ofNat (0x80 + n)) = n := by
  rw [tailBits, toNat_byte (by omega)]
  omega

private theorem utf8Units_of_lt_800 {n : Nat} (h : 0x80 ≤ n) (h' : n < 0x800)
    (rest : Bytes) :
    utf8Units (UInt8.ofNat (0xC0 + n / 64) :: UInt8.ofNat (0x80 + n % 64) ::
        rest) = some (Char.ofNat n) :: utf8Units rest := by
  have hlead : (UInt8.ofNat (0xC0 + n / 64)).toNat = 0xC0 + n / 64 :=
    toNat_byte (by omega)
  have htail : n % 64 < 64 := by omega
  have hvalue : (0xC0 + n / 64) % 32 * 64 + n % 64 = n := by omega
  rw [utf8Units_two (by rw [hlead]; omega) (isTail_byte htail), hlead,
    tailBits_byte htail, hvalue]

private theorem utf8Units_of_lt_10000 {n : Nat} (h : 0x800 ≤ n)
    (h' : n < 0x10000) (hvalid : n < 0xD800 ∨ 0xDFFF < n) (rest : Bytes) :
    utf8Units (UInt8.ofNat (0xE0 + n / 4096) ::
        UInt8.ofNat (0x80 + n / 64 % 64) :: UInt8.ofNat (0x80 + n % 64) ::
        rest) = some (Char.ofNat n) :: utf8Units rest := by
  have hlead : (UInt8.ofNat (0xE0 + n / 4096)).toNat = 0xE0 + n / 4096 :=
    toNat_byte (by omega)
  have hbits : n / 64 % 64 < 64 := by omega
  have hsecond : (UInt8.ofNat (0x80 + n / 64 % 64)).toNat = 0x80 + n / 64 % 64 :=
    toNat_byte (by omega)
  have htail : n % 64 < 64 := by omega
  have hpair : isSecond (UInt8.ofNat (0xE0 + n / 4096))
      (UInt8.ofNat (0x80 + n / 64 % 64)) = true := by
    apply isSecond_of_isTail (isTail_byte hbits) <;> rw [hlead, hsecond] <;> omega
  have hvalue : (0xE0 + n / 4096) % 16 * 4096 + n / 64 % 64 * 64 + n % 64 = n := by
    omega
  rw [utf8Units_three (by rw [hlead]; omega) hpair (isTail_byte htail), hlead,
    tailBits_byte hbits, tailBits_byte htail, hvalue]

private theorem utf8Units_of_lt_110000 {n : Nat} (h : 0x10000 ≤ n)
    (h' : n < 0x110000) (rest : Bytes) :
    utf8Units (UInt8.ofNat (0xF0 + n / 262144) ::
        UInt8.ofNat (0x80 + n / 4096 % 64) ::
        UInt8.ofNat (0x80 + n / 64 % 64) :: UInt8.ofNat (0x80 + n % 64) ::
        rest) = some (Char.ofNat n) :: utf8Units rest := by
  have hlead : (UInt8.ofNat (0xF0 + n / 262144)).toNat = 0xF0 + n / 262144 :=
    toNat_byte (by omega)
  have hbits : n / 4096 % 64 < 64 := by omega
  have hsecond : (UInt8.ofNat (0x80 + n / 4096 % 64)).toNat =
      0x80 + n / 4096 % 64 := toNat_byte (by omega)
  have hthird : n / 64 % 64 < 64 := by omega
  have htail : n % 64 < 64 := by omega
  have hpair : isSecond (UInt8.ofNat (0xF0 + n / 262144))
      (UInt8.ofNat (0x80 + n / 4096 % 64)) = true := by
    apply isSecond_of_isTail (isTail_byte hbits) <;> rw [hlead, hsecond] <;> omega
  have hvalue : (0xF0 + n / 262144) % 8 * 262144 + n / 4096 % 64 * 4096 +
      n / 64 % 64 * 64 + n % 64 = n := by omega
  rw [utf8Units_four (by rw [hlead]; omega) hpair (isTail_byte hthird)
    (isTail_byte htail), hlead, tailBits_byte hbits, tailBits_byte hthird,
    tailBits_byte htail, hvalue]

/-- A character has one of four forms, which its code point tells apart. -/
theorem utf8OfChar_cases (c : Char) :
    (c.toNat < 0x80 ∧ utf8OfChar c = [UInt8.ofNat c.toNat]) ∨
    (0x80 ≤ c.toNat ∧ c.toNat < 0x800 ∧ utf8OfChar c =
      [UInt8.ofNat (0xC0 + c.toNat / 64), UInt8.ofNat (0x80 + c.toNat % 64)]) ∨
    (0x800 ≤ c.toNat ∧ c.toNat < 0x10000 ∧ utf8OfChar c =
      [UInt8.ofNat (0xE0 + c.toNat / 4096),
        UInt8.ofNat (0x80 + c.toNat / 64 % 64),
        UInt8.ofNat (0x80 + c.toNat % 64)]) ∨
    (0x10000 ≤ c.toNat ∧ c.toNat < 0x110000 ∧ utf8OfChar c =
      [UInt8.ofNat (0xF0 + c.toNat / 262144),
        UInt8.ofNat (0x80 + c.toNat / 4096 % 64),
        UInt8.ofNat (0x80 + c.toNat / 64 % 64),
        UInt8.ofNat (0x80 + c.toNat % 64)]) := by
  have hvalid : c.toNat < 0xD800 ∨ 0xDFFF < c.toNat ∧ c.toNat < 0x110000 :=
    c.valid
  unfold utf8OfChar
  by_cases hone : c.toNat < 0x80
  · exact .inl ⟨hone, if_pos hone⟩
  · by_cases htwo : c.toNat < 0x800
    · refine .inr (.inl ⟨by omega, htwo, ?_⟩)
      simp only [hone, htwo, if_true, if_false]
    · by_cases hthree : c.toNat < 0x10000
      · refine .inr (.inr (.inl ⟨by omega, hthree, ?_⟩))
        simp only [hone, htwo, hthree, if_true, if_false]
      · refine .inr (.inr (.inr ⟨by omega, by omega, ?_⟩))
        simp only [hone, htwo, hthree, if_false]

/-- Reading cuts off the character that was written first. -/
theorem utf8Units_utf8OfChar (c : Char) (rest : Bytes) :
    utf8Units (utf8OfChar c ++ rest) = some c :: utf8Units rest := by
  have hvalid : c.toNat < 0xD800 ∨ 0xDFFF < c.toNat ∧ c.toNat < 0x110000 :=
    c.valid
  have hself : Char.ofNat c.toNat = c := Char.ofNat_toNat c
  rcases utf8OfChar_cases c with ⟨h, hform⟩ | ⟨h, h', hform⟩ | ⟨h, h', hform⟩ |
    ⟨h, h', hform⟩
  · have hbyte : (UInt8.ofNat c.toNat).toNat = c.toNat := toNat_byte (by omega)
    rw [hform, List.singleton_append, utf8Units_one (by rw [hbyte]; exact h),
      hbyte, hself]
  · rw [hform]
    exact (utf8Units_of_lt_800 h h' rest).trans (by rw [hself])
  · rw [hform]
    exact (utf8Units_of_lt_10000 h h' (by omega) rest).trans (by rw [hself])
  · rw [hform]
    exact (utf8Units_of_lt_110000 h h' rest).trans (by rw [hself])

theorem utf8Units_utf8 (text : List Char) :
    utf8Units (text.flatMap utf8OfChar) = text.map some := by
  induction text with
  | nil => rfl
  | cons c text ih =>
      rw [List.flatMap_cons, utf8Units_utf8OfChar, ih, List.map_cons]

/-- A text is read back from its UTF-8 form. -/
theorem ofUtf8?_utf8 (text : String) : ofUtf8? (utf8 text) = some text := by
  have hunits : ∀ chars : List Char, (chars.map some).mapM id = some chars := by
    intro chars
    induction chars with
    | nil => rfl
    | cons c chars ih => simp [ih]
  rw [ofUtf8?, utf8, utf8Units_utf8, hunits, Option.map_some,
    String.ofList_toList]

/-! ## The order of texts

The lead byte grows with the number of bytes, and among forms of equal length
the bytes are digits of the code point.  So the first byte in which two texts
differ decides between them as the first character does.
-/

/-- The first byte in which two rows of bytes differ decides. -/
private theorem byte_cons_lt {m n : Nat} {left right : Bytes} (hn : n < 256)
    (hle : m ≤ n) (h : m = n → left < right) :
    UInt8.ofNat m :: left < UInt8.ofNat n :: right := by
  rw [List.cons_lt_cons_iff]
  by_cases heq : m = n
  · exact .inr ⟨congrArg UInt8.ofNat heq, h heq⟩
  · left
    rw [UInt8.lt_iff_toNat_lt, toNat_byte (by omega), toNat_byte hn]
    omega

/-- A smaller character has a smaller form, whatever follows.  Only two forms of
the same length can have the same lead byte. -/
theorem utf8OfChar_append_lt {a b : Char} (h : a < b) (left right : Bytes) :
    utf8OfChar a ++ left < utf8OfChar b ++ right := by
  have hlt : a.toNat < b.toNat := h
  rcases utf8OfChar_cases a with ⟨ha, haform⟩ | ⟨ha, ha', haform⟩ |
      ⟨ha, ha', haform⟩ | ⟨ha, ha', haform⟩ <;>
    rcases utf8OfChar_cases b with ⟨hb, hbform⟩ | ⟨hb, hb', hbform⟩ |
      ⟨hb, hb', hbform⟩ | ⟨hb, hb', hbform⟩ <;>
    rw [haform, hbform] <;>
    refine byte_cons_lt (by omega) (by omega) fun hlead => ?_
  all_goals try omega
  · exact byte_cons_lt (by omega) (by omega) fun hlast => absurd hlast (by omega)
  · exact byte_cons_lt (by omega) (by omega) fun hsecond =>
      byte_cons_lt (by omega) (by omega) fun hlast => absurd hlast (by omega)
  · exact byte_cons_lt (by omega) (by omega) fun hsecond =>
      byte_cons_lt (by omega) (by omega) fun hthird =>
        byte_cons_lt (by omega) (by omega) fun hlast => absurd hlast (by omega)

private theorem flatMap_utf8OfChar_lt {text other : List Char}
    (h : text < other) :
    text.flatMap utf8OfChar < other.flatMap utf8OfChar := by
  induction h with
  | @nil c rest =>
      rw [List.flatMap_cons]
      rcases utf8OfChar_cases c with ⟨-, hform⟩ | ⟨-, -, hform⟩ |
          ⟨-, -, hform⟩ | ⟨-, -, hform⟩ <;>
        rw [hform] <;> exact List.nil_lt_cons _ _
  | rel hlt =>
      rw [List.flatMap_cons, List.flatMap_cons]
      exact utf8OfChar_append_lt hlt _ _
  | cons _ ih =>
      rw [List.flatMap_cons, List.flatMap_cons]
      exact List.append_left_lt ih

/-- Texts are ordered as their bytes are. -/
theorem utf8_lt_utf8 {text other : String} :
    utf8 text < utf8 other ↔ text < other := by
  constructor
  · intro hbytes
    refine Decidable.byContradiction fun hnot => ?_
    have hle : other ≤ text := String.not_lt.mp hnot
    by_cases hlt : other < text
    · exact List.lt_asymm (flatMap_utf8OfChar_lt hlt) hbytes
    · have heq : other = text := String.le_antisymm hle (String.not_lt.mp hlt)
      rw [heq] at hbytes
      exact List.lt_irrefl _ hbytes
  · exact flatMap_utf8OfChar_lt

theorem utf8_le_utf8 {text other : String} :
    utf8 text ≤ utf8 other ↔ text ≤ other := by
  rw [← List.not_lt, ← String.not_lt, utf8_lt_utf8]

/-- Texts are ordered as their code points are. -/
theorem utf8_lt_utf8_iff_codePoints {text other : String} :
    utf8 text < utf8 other ↔ List.Lex (· < ·) (text.toList.map Char.toNat)
      (other.toList.map Char.toNat) := by
  have hmono : ∀ a b : Char, a < b → a.toNat < b.toNat := fun _ _ h => h
  rw [utf8_lt_utf8]
  constructor
  · intro hlt
    exact List.map_lt hmono hlt
  · intro hcodes
    refine Decidable.byContradiction fun hnot => ?_
    by_cases hlt : other < text
    · exact List.lt_asymm (List.map_lt hmono hlt) hcodes
    · have heq : other = text :=
        String.le_antisymm (String.not_lt.mp hnot) (String.not_lt.mp hlt)
      rw [heq] at hcodes
      exact List.lt_irrefl _ hcodes

end Relift.Text
