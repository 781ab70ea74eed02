import TypingSession.Number.Decimal
import TypingSession.Number.Double

/-!
# TypingSession — the shortest numeral of a double

Among the decimal numerals that read back as a given double, `shortest` chooses
one with the fewest digits and, of those, the nearest; halfway between two it
takes the larger. The numerals that read back are those between the midpoints to
the neighbouring doubles, the midpoints included when the significand is even.

All arithmetic is exact. The magnitude and the two midpoints are whole multiples
of a quarter of the last binary place, and each grid of decimal numerals is
compared with them after both sides have been made whole.
-/

namespace TypingSession

/-- A magnitude with the interval of magnitudes that round to it, as multiples
of one fraction `1 / unit`. -/
structure RoundingInterval where
  /-- The lower end. -/
  low : Nat
  /-- The magnitude itself. -/
  value : Nat
  /-- The upper end. -/
  high : Nat
  /-- How many parts make up one. -/
  unit : Nat
  /-- Whether the two ends round to the magnitude as well. -/
  closed : Bool
deriving Repr

namespace RoundingInterval

/-- The interval of a finite double. -/
def ofDouble (d : Double) : RoundingInterval :=
  -- half of the distance to each neighbour, in quarters of the last binary place
  let quarters := 4 * d.significand
  let below := if d.isBoundary then 1 else 2
  let (scale, unit) := match d.exponent - 2 with
    | .ofNat n => (Nat.pow 2 n, 1)
    | .negSucc n => (1, Nat.pow 2 (n + 1))
  { low := (quarters - below) * scale
    value := quarters * scale
    high := (quarters + 2) * scale
    unit
    closed := d.significand % 2 == 0 }

/-- Whether `n / unit` rounds to the magnitude. -/
def contains (i : RoundingInterval) (n : Nat) : Bool :=
  if i.closed then i.low ≤ n && n ≤ i.high else i.low < n && n < i.high

/-- The interval with all its parts multiplied, numerators by `n` and the unit
by `m`. -/
def rescale (i : RoundingInterval) (n m : Nat) : RoundingInterval :=
  { i with low := i.low * n, value := i.value * n, high := i.high * n, unit := i.unit * m }

/-- How many digits stand before the point; not positive for a magnitude below
one, where it counts the zeros that follow the point. -/
def magnitude (i : RoundingInterval) : Int :=
  if i.unit ≤ i.value then (Nat.toDigits 10 (i.value / i.unit)).length
  else
    -- the least power of ten that brings the value up to one
    let reciprocal := (i.unit + i.value - 1) / i.value
    1 - (Nat.toDigits 10 (reciprocal - 1)).length

/-- The numeral on the grid of multiples of `10 ^ exponent` that rounds to the
magnitude, the nearer one if both neighbours on the grid do. -/
def onGrid? (i : RoundingInterval) (exponent : Int) : Option Decimal :=
  let i := match exponent with
    | .ofNat n => i.rescale 1 (Nat.pow 10 n)
    | .negSucc n => i.rescale (Nat.pow 10 (n + 1)) 1
  let below := i.value / i.unit
  let above := below + 1
  match i.contains (below * i.unit), i.contains (above * i.unit) with
  | true, true =>
    if i.value - below * i.unit < above * i.unit - i.value then some ⟨below, exponent⟩
    else some ⟨above, exponent⟩
  | true, false => some ⟨below, exponent⟩
  | false, true => some ⟨above, exponent⟩
  | false, false => none

/-- The numeral with the fewest digits that rounds to the magnitude. Seventeen
digits are always enough for a finite double. -/
def shortest (i : RoundingInterval) : Decimal :=
  ((List.range 17).findSome? fun n : Nat => i.onGrid? (i.magnitude - (n + 1))).getD ⟨0, 0⟩

end RoundingInterval

/-! ## Numbers as text -/

/-- The same numeral with one digit where rounding up a nine has made it two. -/
def Decimal.carried (d : Decimal) : Decimal :=
  if d.coefficient = 10 then ⟨1, d.exponent + 1⟩ else d

/-- A number as text: the shortest numeral that reads back, in positional form,
behind a minus sign if the sign bit is set. -/
def Double.text (d : Double) : String :=
  if d.isNaN then "NaN"
  else
    let sign := if d.isNegative then "-" else ""
    if d.isInfinite then sign ++ "inf"
    else if d.isZero then sign ++ "0"
    else sign ++ String.ofList (RoundingInterval.ofDouble d).shortest.carried.positional

end TypingSession
