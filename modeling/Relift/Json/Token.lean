import Relift.Json.Basic

/-!
# Reading JSON tokens

Only space, tab, carriage return and line feed may stand between tokens.  A
number is a whole part without superfluous zeros, with an optional fraction and
an optional exponent.  A string holds no raw control character.
-/

namespace Relift.Json

/-- Whether a character may stand between tokens. -/
def isSeparator (c : Char) : Bool :=
  c == ' ' || c == '\t' || c == '\r' || c == '\n'

/-- The rest of a text after a given beginning. -/
def afterWord? : List Char → List Char → Option (List Char)
  | [], rest => some rest
  | _ :: _, [] => none
  | w :: word, c :: rest => if w = c then afterWord? word rest else none

theorem length_afterWord? {word text rest : List Char} (h : afterWord? word text = some rest) :
    rest.length ≤ text.length := by
  induction word generalizing text with
  | nil => simp_all [afterWord?]
  | cons w word ih =>
    cases text with
    | nil => simp [afterWord?] at h
    | cons c text =>
      rw [afterWord?] at h
      split at h
      · exact Nat.le_succ_of_le (ih h)
      · simp at h

/-! ## Numbers -/

/-- The digits at the beginning of a text, of which there must be one, and the
text after them. -/
def someDigits? (text : List Char) : Option (List Char × List Char) :=
  if (text.takeWhile Char.isDigit).isEmpty then none
  else some (text.takeWhile Char.isDigit, text.dropWhile Char.isDigit)

/-- The whole part of a number: a single zero, or digits that do not begin with
one. -/
def wholePart? : List Char → Option (List Char × List Char)
  | '0' :: rest => some (['0'], rest)
  | text => someDigits? text

/-- An optional fraction: a point and at least one digit. -/
def fractionPart? : List Char → Option (List Char × List Char)
  | '.' :: rest => (someDigits? rest).map fun (digits, rest) => ('.' :: digits, rest)
  | text => some ([], text)

/-- An optional sign. -/
def signPart : List Char → List Char × List Char
  | '+' :: rest => (['+'], rest)
  | '-' :: rest => (['-'], rest)
  | text => ([], text)

/-- An optional exponent: its mark, an optional sign and at least one digit. -/
def exponentPart? : List Char → Option (List Char × List Char)
  | [] => some ([], [])
  | c :: rest =>
    if c = 'e' || c = 'E' then
      (someDigits? (signPart rest).2).map fun (digits, after) =>
        (c :: (signPart rest).1 ++ digits, after)
    else some ([], c :: rest)

/-- A number without its minus sign. -/
def magnitude? (text : List Char) : Option (List Char × List Char) := do
  let (whole, text) ← wholePart? text
  let (fraction, text) ← fractionPart? text
  let (exponent, text) ← exponentPart? text
  some (whole ++ fraction ++ exponent, text)

theorem length_someDigits? {text digits rest : List Char}
    (h : someDigits? text = some (digits, rest)) : rest.length < text.length := by
  rw [someDigits?] at h
  split at h
  · simp at h
  next hne =>
    have hsplit := congrArg List.length (List.takeWhile_append_dropWhile (p := Char.isDigit) (l := text))
    have hpos : 0 < (text.takeWhile Char.isDigit).length := by
      simpa [List.length_pos_iff] using hne
    simp only [List.length_append] at hsplit
    simp only [Option.some.injEq, Prod.mk.injEq] at h
    rw [← h.2]
    omega

theorem length_wholePart? {text digits rest : List Char}
    (h : wholePart? text = some (digits, rest)) : rest.length < text.length := by
  rw [wholePart?.eq_def] at h
  split at h
  · simp_all
  · exact length_someDigits? h

theorem length_fractionPart? {text digits rest : List Char}
    (h : fractionPart? text = some (digits, rest)) : rest.length ≤ text.length := by
  rw [fractionPart?.eq_def] at h
  split at h
  · obtain ⟨⟨d, r⟩, hd, heq⟩ := Option.map_eq_some_iff.mp h
    have := length_someDigits? hd
    simp_all
    omega
  · simp_all

theorem length_signPart (text : List Char) : (signPart text).2.length ≤ text.length := by
  rw [signPart.eq_def]
  split <;> simp

theorem length_exponentPart? {text digits rest : List Char}
    (h : exponentPart? text = some (digits, rest)) : rest.length ≤ text.length := by
  rw [exponentPart?.eq_def] at h
  split at h
  · simp_all
  · next c tail =>
    split at h
    · obtain ⟨⟨d, r⟩, hd, heq⟩ := Option.map_eq_some_iff.mp h
      have h1 := length_someDigits? hd
      have h2 := length_signPart tail
      simp_all
      omega
    · simp_all

theorem length_magnitude? {text literal rest : List Char}
    (h : magnitude? text = some (literal, rest)) : rest.length < text.length := by
  simp only [magnitude?, Option.bind_eq_bind, Option.bind_eq_some_iff] at h
  obtain ⟨⟨w, r₁⟩, h₁, ⟨f, r₂⟩, h₂, ⟨e, r₃⟩, h₃, heq⟩ := h
  have := length_wholePart? h₁
  have := length_fractionPart? h₂
  have := length_exponentPart? h₃
  simp_all
  omega

/-! ## Strings -/

/-- A part of a string: a character, or a 16-bit unit that an escape gives. -/
inductive StringUnit where
  | char (c : Char)
  | unit (code : Nat)

/-- The value of a hexadecimal digit. -/
def hexValue? (c : Char) : Option Nat :=
  if c.isDigit then some (c.toNat - '0'.toNat)
  else if 'a' ≤ c && c ≤ 'f' then some (c.toNat - 'a'.toNat + 10)
  else if 'A' ≤ c && c ≤ 'F' then some (c.toNat - 'A'.toNat + 10)
  else none

/-- The value of four hexadecimal digits. -/
def unitOfHex? (a b c d : Char) : Option Nat := do
  some (((← hexValue? a) * 16 + (← hexValue? b)) * 256 + (← hexValue? c) * 16 + (← hexValue? d))

/-- The character that a short escape stands for. -/
def shortEscape? : Char → Option Char
  | '"' => some '"'
  | '\\' => some '\\'
  | '/' => some '/'
  | 'b' => some '\x08'
  | 'f' => some '\x0c'
  | 'n' => some '\n'
  | 'r' => some '\r'
  | 't' => some '\t'
  | _ => none

/-- The parts of a string whose opening quote has been read, and the text after
its closing quote. -/
def stringUnits? : List Char → Option (List StringUnit × List Char)
  | [] => none
  | '"' :: rest => some ([], rest)
  | '\\' :: 'u' :: a :: b :: c :: d :: rest =>
    match unitOfHex? a b c d, stringUnits? rest with
    | some code, some (units, after) => some (.unit code :: units, after)
    | _, _ => none
  | '\\' :: e :: rest =>
    match shortEscape? e, stringUnits? rest with
    | some c, some (units, after) => some (.char c :: units, after)
    | _, _ => none
  | c :: rest =>
    if c = '\\' || c.toNat < 0x20 then none
    else
      match stringUnits? rest with
      | some (units, after) => some (.char c :: units, after)
      | none => none

theorem length_stringUnits? {text rest : List Char} {units : List StringUnit}
    (h : stringUnits? text = some (units, rest)) : rest.length ≤ text.length := by
  fun_induction stringUnits? text generalizing units rest <;> simp_all <;> grind

/-- Whether a unit is the first half of a surrogate pair. -/
def isHighSurrogate (code : Nat) : Bool :=
  0xD800 ≤ code && code ≤ 0xDBFF

/-- Whether a unit is the second half of a surrogate pair. -/
def isLowSurrogate (code : Nat) : Bool :=
  0xDC00 ≤ code && code ≤ 0xDFFF

/-- The text that the parts of a string spell, unless half a pair stands
alone. -/
def spelled? : List StringUnit → Option (List Char)
  | [] => some []
  | .char c :: rest => (spelled? rest).map fun text => c :: text
  | .unit high :: .unit low :: rest =>
    if isHighSurrogate high && isLowSurrogate low then
      (spelled? rest).map fun text =>
        Char.ofNat (0x10000 + (high - 0xD800) * 0x400 + (low - 0xDC00)) :: text
    else if isHighSurrogate high || isLowSurrogate high then none
    else (spelled? (.unit low :: rest)).map fun text => Char.ofNat high :: text
  | .unit code :: rest =>
    if isHighSurrogate code || isLowSurrogate code then none
    else (spelled? rest).map fun text => Char.ofNat code :: text

/-! ## Texts -/

/-- The token that begins with a character, and the text after it. -/
def nextToken? (c : Char) (rest : List Char) : Option (Token × List Char) :=
  match c with
  | '\x7b' => some (.openBrace, rest)
  | '\x7d' => some (.closeBrace, rest)
  | '[' => some (.openBracket, rest)
  | ']' => some (.closeBracket, rest)
  | ',' => some (.comma, rest)
  | ':' => some (.colon, rest)
  | 'n' => (afterWord? ['u', 'l', 'l'] rest).map fun after => (.null, after)
  | 't' => (afterWord? ['r', 'u', 'e'] rest).map fun after => (.boolean true, after)
  | 'f' => (afterWord? ['a', 'l', 's', 'e'] rest).map fun after => (.boolean false, after)
  | '"' =>
    (stringUnits? rest).map fun (units, after) =>
      (.string ((spelled? units).map String.ofList), after)
  | '-' => (magnitude? rest).map fun (literal, after) => (.number ('-' :: literal), after)
  | c => (magnitude? (c :: rest)).map fun (literal, after) => (.number literal, after)

theorem length_nextToken? {c : Char} {rest after : List Char} {token : Token}
    (h : nextToken? c rest = some (token, after)) : after.length ≤ rest.length := by
  rw [nextToken?.eq_def] at h
  split at h
  case h_7 | h_8 | h_9 =>
    obtain ⟨r, hr, heq⟩ := Option.map_eq_some_iff.mp h
    have := length_afterWord? hr
    simp_all
  case h_10 =>
    obtain ⟨⟨u, r⟩, hr, heq⟩ := Option.map_eq_some_iff.mp h
    have := length_stringUnits? hr
    simp_all
  case h_11 =>
    obtain ⟨⟨l, r⟩, hr, heq⟩ := Option.map_eq_some_iff.mp h
    have := length_magnitude? hr
    simp only [Prod.mk.injEq] at heq
    rw [← heq.2]
    omega
  case h_12 =>
    obtain ⟨⟨l, r⟩, hr, heq⟩ := Option.map_eq_some_iff.mp h
    have := length_magnitude? hr
    simp only [Prod.mk.injEq, List.length_cons] at heq this
    rw [← heq.2]
    omega
  all_goals simp_all

/-- The tokens of a text, unless something in it is no token. -/
def tokens? (text : List Char) : Option (List Token) :=
  match text with
  | [] => some []
  | c :: rest =>
    if isSeparator c then tokens? rest
    else
      match _hnext : nextToken? c rest with
      | none => none
      | some (token, after) => (tokens? after).map fun following => token :: following
termination_by text.length
decreasing_by
  · simp
  · have := length_nextToken? _hnext
    simp only [List.length_cons]
    omega

end Relift.Json
