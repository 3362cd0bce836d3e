import ApiMock.Json.Basic

/-!
# Numerals

What number a numeral of a JSON text stands for. A numeral without point and exponent is an
integer as long as it fits 64 bits. Any other is gathered into a 64-bit significand and a power
of ten; each of the two is rounded to the nearest number of the format, and so is their product
or quotient.
-/
namespace ApiMock

/-- The parts of a numeral. -/
structure Numeral where
  /-- Whether a minus sign leads. -/
  negative : Bool
  /-- The digits before the point. -/
  whole : List Nat
  /-- The digits after the point, if there is one. -/
  fraction : Option (List Nat)
  /-- The exponent, if there is one. -/
  exponent : Option Int

namespace Numeral

/-- A significand below `2 ^ 64` with the power of ten that scales it. -/
structure Gathered where
  /-- The digits taken so far. -/
  significand : Nat
  /-- The power of ten. -/
  exponent : Int
  /-- Whether a digit was left out because it did not fit. -/
  full : Bool

namespace Gathered

/-- Whether a digit can be appended to the significand. -/
def fits (gathered : Gathered) (digit : Nat) : Bool :=
  !gathered.full && gathered.significand * 10 + digit < 2 ^ 64

/-- Take a digit before the point; one that does not fit scales by ten instead. -/
def addWhole (gathered : Gathered) (digit : Nat) : Gathered :=
  if gathered.fits digit then
    { gathered with significand := gathered.significand * 10 + digit }
  else { gathered with exponent := gathered.exponent + 1, full := true }

/-- Take a digit after the point; one that does not fit is dropped. -/
def addFraction (gathered : Gathered) (digit : Nat) : Gathered :=
  if gathered.fits digit then
    { gathered with
      significand := gathered.significand * 10 + digit
      exponent := gathered.exponent - 1 }
  else { gathered with full := true }

end Gathered

/-- The power of ten, rounded, as an exact quotient of naturals. -/
def roundedPower (exponent : Nat) : Nat × Nat :=
  match (Binary64.ofNat (10 ^ exponent)).meaning with
  | .finite _ significand place => Binary64.scaledDown significand 1 (-place)
  | _ => (1, 0)

/-- A number times a power of ten, in steps of at most `10 ^ 308` downwards; nothing when the
result is beyond the format. -/
def scaleTen (x : Binary64) (exponent : Int) : Nat → Option Binary64
  | 0 => some x
  | steps + 1 =>
    if exponent.natAbs ≤ 308 then
      let (above, below) := roundedPower exponent.natAbs
      let scaled := if 0 ≤ exponent then x.scale above below else x.scale below above
      if scaled.isFinite then some scaled else none
    else if 0 ≤ exponent then none
    else
      let (above, below) := roundedPower 308
      scaleTen (x.scale below above) (exponent + 308) steps

/-- The number that a numeral stands for; nothing when it is beyond the format. -/
def toNumber? (numeral : Numeral) : Option Number :=
  let whole := numeral.whole.foldl Gathered.addWhole ⟨0, 0, false⟩
  let signed (magnitude : Binary64) : Number :=
    .float (if numeral.negative then magnitude.negate else magnitude)
  if numeral.fraction.isNone && numeral.exponent.isNone && !whole.full then
    if !numeral.negative then some (.integer whole.significand)
    else if whole.significand = 0 ∨ 2 ^ 63 < whole.significand then
      some (signed (Binary64.ofNat whole.significand))
    else some (.integer (-whole.significand))
  else
    let digits := (numeral.fraction.getD []).foldl Gathered.addFraction { whole with full := false }
    if digits.significand = 0 then some (signed (Binary64.ofNat 0))
    else
      (scaleTen (Binary64.ofNat digits.significand)
        (digits.exponent + numeral.exponent.getD 0) 4).map signed

end Numeral

end ApiMock
