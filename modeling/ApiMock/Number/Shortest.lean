import ApiMock.Number.Binary64

/-!
# Shortest decimal digits

The shortest decimal that reads back as a number: of the decimals nearer to it than to any
other number of the format, one with the fewest digits, and of those the nearest. The search
runs through decimal grids of one to seventeen digits and tests the two neighbours of the
number on each, in exact arithmetic.
-/
namespace ApiMock

/-- A positive decimal: `digits * 10 ^ exponent`. -/
structure Decimal where
  /-- The digits as a natural. -/
  digits : Nat
  /-- The place of the last digit. -/
  exponent : Int
  deriving DecidableEq, Repr

/-- A positive quotient with the interval of the quotients that round to the same number, all
over one denominator. -/
structure RoundingInterval where
  /-- Numerator of the least quotient that rounds to the number. -/
  low : Nat
  /-- Numerator of the number itself. -/
  mid : Nat
  /-- Numerator of the greatest quotient that rounds to the number. -/
  high : Nat
  /-- The common denominator. -/
  denominator : Nat
  /-- Whether the two ends themselves round to the number. -/
  closed : Bool

namespace RoundingInterval

/-- The interval of a positive number `significand * 2 ^ exponent`. The gap below a power of two
is half as wide, except at the least exponent. -/
def ofDyadic (significand : Nat) (exponent : Int) : RoundingInterval :=
  let below := if significand = 2 ^ 52 ∧ -1074 < exponent then 1 else 2
  let up := if 2 ≤ exponent then 2 ^ (exponent - 2).toNat else 1
  let down := if 2 ≤ exponent then 1 else 2 ^ (2 - exponent).toNat
  { low := (4 * significand - below) * up
    mid := 4 * significand * up
    high := (4 * significand + 2) * up
    denominator := down
    closed := significand % 2 == 0 }

/-- Whether `digits * 10 ^ exponent` lies in the interval. -/
def contains (interval : RoundingInterval) (digits : Nat) (exponent : Int) : Bool :=
  let point := digits * 10 ^ exponent.toNat * interval.denominator
  let unit := 10 ^ (-exponent).toNat
  let low := interval.low * unit
  let high := interval.high * unit
  if interval.closed then low ≤ point && point ≤ high else low < point && point < high

/-- The decimal of the interval on the grid of one place, if there is one: the nearer neighbour
of the number when both lie in the interval, and of two equally near the greater one or the
even one. -/
def onGrid? (interval : RoundingInterval) (tieUp : Bool) (exponent : Int) : Option Nat :=
  let above := interval.mid * 10 ^ (-exponent).toNat
  let below := interval.denominator * 10 ^ exponent.toNat
  let floor := above / below
  let rest := above % below
  match interval.contains floor exponent, interval.contains (floor + 1) exponent with
  | false, false => none
  | true, false => some floor
  | false, true => some (floor + 1)
  | true, true =>
    if 2 * rest < below then some floor
    else if below < 2 * rest then some (floor + 1)
    else some (if tieUp || floor % 2 == 1 then floor + 1 else floor)

/-- The place of the first digit of the number: the greatest power of ten at most it. The guess
from the binary logarithm is off by one at most. -/
def leadingPlace (interval : RoundingInterval) : Int :=
  let log2 : Int := (interval.mid.log2 : Int) - interval.denominator.log2
  let guess : Int := (log2 - 1) * 1233 / 4096
  let reaches (place : Int) : Bool :=
    interval.denominator * 10 ^ place.toNat ≤ interval.mid * 10 ^ (-place).toNat
  if reaches (guess + 2) then guess + 2
  else if reaches (guess + 1) then guess + 1
  else if reaches guess then guess
  else guess - 1

/-- The first grid from a place on that has a decimal of the interval. -/
def search (interval : RoundingInterval) (tieUp : Bool) (place : Int) : Nat → Option Decimal
  | 0 => none
  | grids + 1 =>
    match interval.onGrid? tieUp place with
    | some digits => some ⟨digits, place⟩
    | none => interval.search tieUp (place - 1) grids

end RoundingInterval

namespace Decimal

/-- Drop up to `places` zeros at the end of the digits. -/
def dropZeros : Nat → Decimal → Decimal
  | 0, decimal => decimal
  | places + 1, decimal =>
    if decimal.digits % 10 = 0 then dropZeros places ⟨decimal.digits / 10, decimal.exponent + 1⟩
    else decimal

/-- The shortest decimal that reads back as the positive number `significand * 2 ^ exponent`.
Seventeen digits always suffice. -/
def shortest (tieUp : Bool) (significand : Nat) (exponent : Int) : Decimal :=
  let interval := RoundingInterval.ofDyadic significand exponent
  ((interval.search tieUp interval.leadingPlace 17).map (dropZeros 17)).getD ⟨0, 0⟩

end Decimal

end ApiMock
