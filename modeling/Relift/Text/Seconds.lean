/-!
# Seconds with one decimal

A duration is shown in seconds with one decimal.  It is first a binary
floating-point number of 53 bits: whole seconds plus the rest divided by 10⁹,
each operation rounded to nearest, ties to even.  That number is then rounded
once more, exactly, to tenths, ties to even.  All of it is done here with whole
numbers: a value is a numerator over a power of two.
-/

namespace Relift.Text

/-- A quotient rounded to the nearest whole number, ties to even. -/
def divideToEven (numerator denominator : Nat) : Nat :=
  let quotient := numerator / denominator
  let twice := 2 * (numerator % denominator)
  if twice < denominator then quotient
  else if denominator < twice then quotient + 1
  else quotient + quotient % 2

/-- A power of two. -/
def powerOfTwo (exponent : Nat) : Nat :=
  Nat.pow 2 exponent

/-- The number `mantissa / 2 ^ scale`. -/
structure Dyadic where
  mantissa : Nat
  scale : Nat
deriving DecidableEq

namespace Dyadic

/-- The bits of a mantissa. -/
def precision : Nat :=
  53

/-- How finely quotients are first cut; far below the last bit of any value in
question. -/
def fineness : Nat :=
  120

/-- The scale at which a quotient has exactly as many bits as a mantissa
holds: the quotient times `2 ^ fineness` tells its size. -/
def scaleFor (numerator denominator : Nat) : Nat :=
  let size := (numerator * powerOfTwo fineness / denominator).log2 + 1
  fineness + precision - size

/-- A quotient rounded to a mantissa of 53 bits.  The quotients here are less
than `2 ^ 53`, so that no bits before the point are lost. -/
def ofQuotient (numerator denominator : Nat) : Dyadic :=
  let scale := scaleFor numerator denominator
  ⟨divideToEven (numerator * powerOfTwo scale) denominator, scale⟩

/-- The rounded sum of a whole number and a value. -/
def addWhole (whole : Nat) (x : Dyadic) : Dyadic :=
  ofQuotient (whole * powerOfTwo x.scale + x.mantissa) (powerOfTwo x.scale)

/-- The number of tenths in a value, rounded with ties to even. -/
def tenths (x : Dyadic) : Nat :=
  divideToEven (10 * x.mantissa) (powerOfTwo x.scale)

end Dyadic

/-- Nanoseconds in a second. -/
def nanosecondsPerSecond : Nat :=
  1000000000

/-- A duration in nanoseconds as a binary number of seconds. -/
def secondsOfNanoseconds (nanoseconds : Nat) : Dyadic :=
  Dyadic.addWhole (nanoseconds / nanosecondsPerSecond)
    (Dyadic.ofQuotient (nanoseconds % nanosecondsPerSecond) nanosecondsPerSecond)

/-- A duration in seconds with one decimal. -/
def seconds (nanoseconds : Nat) : String :=
  let tenths := (secondsOfNanoseconds nanoseconds).tenths
  toString (tenths / 10) ++ "." ++ toString (tenths % 10)

end Relift.Text
