/-!
# TypingSession — double-precision numbers

A number in the binary interchange format of 64 bits: a sign, eleven bits of
exponent and fifty-two bits of fraction. A finite number is its sign times
`significand * 2 ^ exponent`.
-/

namespace TypingSession

/-- A double-precision number, by its bits. -/
structure Double where
  /-- The sign, then the exponent field, then the fraction. -/
  bits : UInt64
deriving DecidableEq, Repr, Inhabited

namespace Double

/-- Whether the sign bit is set. -/
def isNegative (d : Double) : Bool := Nat.pow 2 63 ≤ d.bits.toNat

/-- The eleven bits of the exponent. -/
def exponentField (d : Double) : Nat := d.bits.toNat / Nat.pow 2 52 % Nat.pow 2 11

/-- The fifty-two bits of the fraction. -/
def fraction (d : Double) : Nat := d.bits.toNat % Nat.pow 2 52

/-- Whether the bits stand for no number. -/
def isNaN (d : Double) : Bool := d.exponentField == 2047 && d.fraction != 0

/-- Whether the number is one of the two infinities. -/
def isInfinite (d : Double) : Bool := d.exponentField == 2047 && d.fraction == 0

/-- Whether the number is one of the two zeros. -/
def isZero (d : Double) : Bool := d.exponentField == 0 && d.fraction == 0

/-- The whole number whose multiple by a power of two is the magnitude. -/
def significand (d : Double) : Nat :=
  if d.exponentField = 0 then d.fraction else Nat.pow 2 52 + d.fraction

/-- The power of two by which the significand is multiplied. -/
def exponent (d : Double) : Int := max d.exponentField 1 - 1075

/-- Whether the next smaller magnitude is only half as far away as the next
larger one, as at a power of two. -/
def isBoundary (d : Double) : Bool := d.fraction == 0 && 1 < d.exponentField

/-- Equality of numbers: the two zeros are equal, and what is no number equals
nothing. -/
def equal (a b : Double) : Bool :=
  !a.isNaN && !b.isNaN && (a.bits == b.bits || (a.isZero && b.isZero))

end Double

end TypingSession
