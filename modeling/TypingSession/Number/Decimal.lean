/-!
# TypingSession — decimal numerals

A decimal numeral is a whole number times a power of ten. `Decimal.positional`
writes it with every digit in its place, never with an exponent.
-/

namespace TypingSession

/-- The numeral of `coefficient * 10 ^ exponent`. -/
structure Decimal where
  /-- The digits, read as a whole number. -/
  coefficient : Nat
  /-- The place of the last digit. -/
  exponent : Int
deriving DecidableEq, Repr, Inhabited

/-- The numeral with all its places: zeros up to the point for a whole number,
and a point, after a zero if nothing else is before it, for a fraction. -/
def Decimal.positional (d : Decimal) : List Char :=
  let digits := Nat.toDigits 10 d.coefficient
  match d.exponent with
  | .ofNat n => digits ++ List.replicate n '0'
  | .negSucc n =>
    let places := n + 1
    if places < digits.length then
      digits.take (digits.length - places) ++ '.' :: digits.drop (digits.length - places)
    else
      ['0', '.'] ++ List.replicate (places - digits.length) '0' ++ digits

end TypingSession
