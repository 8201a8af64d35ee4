/-!
# Characters as bytes

The UTF-8 form of a text, and the two ways to read bytes as a text: strictly,
where anything broken refuses the whole, and leniently, where every broken
sequence becomes one replacement character.  Both read the same list of units.
-/

namespace Relift

/-- The content of a file or of an output stream. -/
abbrev Bytes := List UInt8

namespace Text

/-- The UTF-8 form of one character. -/
def utf8OfChar (c : Char) : Bytes :=
  let n := c.toNat
  if n < 0x80 then [UInt8.ofNat n]
  else if n < 0x800 then [UInt8.ofNat (0xC0 + n / 64), UInt8.ofNat (0x80 + n % 64)]
  else if n < 0x10000 then
    [UInt8.ofNat (0xE0 + n / 4096), UInt8.ofNat (0x80 + n / 64 % 64),
      UInt8.ofNat (0x80 + n % 64)]
  else
    [UInt8.ofNat (0xF0 + n / 262144), UInt8.ofNat (0x80 + n / 4096 % 64),
      UInt8.ofNat (0x80 + n / 64 % 64), UInt8.ofNat (0x80 + n % 64)]

/-- The UTF-8 form of a text. -/
def utf8 (text : String) : Bytes :=
  text.toList.flatMap utf8OfChar

/-- Whether a byte continues a sequence. -/
def isTail (b : UInt8) : Bool :=
  0x80 ≤ b && b ≤ 0xBF

/-- Whether a byte may follow a given lead byte: the ranges after `E0`, `ED`,
`F0` and `F4` keep out overlong forms, surrogates and what lies beyond the last
code point. -/
def isSecond (lead b : UInt8) : Bool :=
  if lead = 0xE0 then 0xA0 ≤ b && b ≤ 0xBF
  else if lead = 0xED then 0x80 ≤ b && b ≤ 0x9F
  else if lead = 0xF0 then 0x90 ≤ b && b ≤ 0xBF
  else if lead = 0xF4 then 0x80 ≤ b && b ≤ 0x8F
  else isTail b

/-- The payload of a continuation byte. -/
def tailBits (b : UInt8) : Nat :=
  b.toNat % 64

/-- Bytes cut into characters; `none` stands for a broken sequence, of which
each unit holds the longest part that could still have become a character. -/
def utf8Units : Bytes → List (Option Char)
  | [] => []
  | a :: rest =>
    if a < 0x80 then some (Char.ofNat a.toNat) :: utf8Units rest
    else if 0xC2 ≤ a && a ≤ 0xDF then
      match rest with
      | [] => [none]
      | b :: rest =>
        if isTail b then some (Char.ofNat (a.toNat % 32 * 64 + tailBits b)) :: utf8Units rest
        else none :: utf8Units (b :: rest)
    else if 0xE0 ≤ a && a ≤ 0xEF then
      match rest with
      | [] => [none]
      | [b] => if isSecond a b then [none] else none :: utf8Units [b]
      | b :: c :: rest =>
        if !isSecond a b then none :: utf8Units (b :: c :: rest)
        else if !isTail c then none :: utf8Units (c :: rest)
        else
          some (Char.ofNat (a.toNat % 16 * 4096 + tailBits b * 64 + tailBits c)) ::
            utf8Units rest
    else if 0xF0 ≤ a && a ≤ 0xF4 then
      match rest with
      | [] => [none]
      | [b] => if isSecond a b then [none] else none :: utf8Units [b]
      | [b, c] =>
        if !isSecond a b then none :: utf8Units [b, c]
        else if !isTail c then none :: utf8Units [c]
        else [none]
      | b :: c :: d :: rest =>
        if !isSecond a b then none :: utf8Units (b :: c :: d :: rest)
        else if !isTail c then none :: utf8Units (c :: d :: rest)
        else if !isTail d then none :: utf8Units (d :: rest)
        else
          some (Char.ofNat
            (a.toNat % 8 * 262144 + tailBits b * 4096 + tailBits c * 64 + tailBits d)) ::
            utf8Units rest
    else none :: utf8Units rest

/-- The text that bytes spell, unless a sequence is broken. -/
def ofUtf8? (bytes : Bytes) : Option String :=
  ((utf8Units bytes).mapM id).map String.ofList

/-- The text that bytes spell, with a replacement character for each broken
sequence. -/
def ofUtf8Lossy (bytes : Bytes) : String :=
  String.ofList ((utf8Units bytes).map fun c? => c?.getD '�')

end Text

end Relift
