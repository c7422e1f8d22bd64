/-!
# The fewest decimal digits of a double

A finite double stands for `significand · 2 ^ exponent`.  The reals that round
to it form an interval around that value, whose ends belong to it exactly when
the significand is even.  `shortest` looks for the coarsest decimal grid that
has a point in the interval, and takes the point nearest to the value: the
result reads back as the same double, no text with fewer digits does, and none
with as many digits lies nearer.
-/

namespace Provision.Decimal

/-- The digits of a decimal number `digits · 10 ^ exponent`. -/
structure Digits where
  digits : Nat
  exponent : Int
deriving DecidableEq, Repr

/-- A finite binary number `significand · 2 ^ exponent`; `narrowBelow` holds for the powers of two,
whose lower neighbour is only half as far away as the upper one. -/
structure Binary where
  significand : Nat
  exponent : Int
  narrowBelow : Bool
deriving DecidableEq, Repr

/-- The parts of the finite double with the given bits, without its sign. -/
def Binary.ofBits (bits : UInt64) : Binary :=
  let fraction : Nat := bits.toNat % 0x10000000000000
  let biased : Nat := bits.toNat / 0x10000000000000 % 0x800
  if biased = 0 then ⟨fraction, -1074, false⟩
  else ⟨0x10000000000000 + fraction, (biased : Int) - 1075, fraction = 0 && biased > 1⟩

/-- `base ^ exponent` as a numerator and a denominator. -/
def power (base : Nat) (exponent : Int) : Nat × Nat :=
  if 0 ≤ exponent then (base.pow exponent.toNat, 1) else (1, base.pow (-exponent).toNat)

/-- The smallest `places` for which `numerator · 10 ^ places` reaches `denominator`, counted up
from zero for at most `fuel` steps. -/
def placesBelowOne (denominator : Nat) : Nat → Nat → Nat
  | 0, _ => 0
  | fuel + 1, numerator =>
    if denominator ≤ numerator then 0 else placesBelowOne denominator fuel (numerator * 10) + 1

/-- The exponent of the leading decimal digit of a positive quotient. -/
def leadingExponent (numerator denominator : Nat) : Int :=
  if denominator ≤ numerator then ((Nat.toDigits 10 (numerator / denominator)).length : Int) - 1
  else -(placesBelowOne denominator 400 numerator : Int)

/-- The point of the grid of step `10 ^ exponent` that is nearest to the value among those that
round to it, if there is one; of two equally near points the even one. -/
def onGrid? (value : Binary) (exponent : Int) : Option Nat :=
  let (binaryUp, binaryDown) := power 2 (value.exponent - 2)
  let (decimalUp, decimalDown) := power 10 exponent
  let unit := binaryUp * decimalDown
  let step := decimalUp * binaryDown
  let centre := 4 * value.significand * unit
  let low := centre - (if value.narrowBelow then 1 else 2) * unit
  let high := centre + 2 * unit
  let closed := value.significand % 2 == 0
  let inside (point : Nat) : Bool :=
    let place := point * step
    if closed then low ≤ place && place ≤ high else low < place && place < high
  let below := centre / step
  let above := below + 1
  match decide (0 < below) && inside below, inside above with
  | false, false => none
  | true, false => some below
  | false, true => some above
  | true, true =>
    let toBelow := centre - below * step
    let toAbove := above * step - centre
    if toBelow < toAbove then some below
    else if toAbove < toBelow then some above
    else if below % 2 = 0 then some below else some above

/-- The first grid point found when the grid is refined digit by digit from `exponent` on. -/
def refine (value : Binary) : Nat → Int → Digits
  | 0, exponent => ⟨0, exponent⟩
  | fuel + 1, exponent =>
    match onGrid? value exponent with
    | some point => ⟨point, exponent⟩
    | none => refine value fuel (exponent - 1)

/-- Moves the zeros at the end of the digits into the exponent. -/
def stripZeros : Nat → Digits → Digits
  | 0, number => number
  | fuel + 1, number =>
    if number.digits ≠ 0 ∧ number.digits % 10 = 0 then
      stripZeros fuel ⟨number.digits / 10, number.exponent + 1⟩
    else number

/-- The fewest digits that read back as a positive finite double. -/
def shortest (value : Binary) : Digits :=
  let (up, down) := power 2 value.exponent
  let leading := leadingExponent (value.significand * up) down
  stripZeros 400 (refine value 18 leading)

end Provision.Decimal
