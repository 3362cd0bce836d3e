import ApiMock.Number.Power

/-!
# Numbers of the format binary64

A number is kept as its 64 bits; `Binary64.meaning` reads them as not-a-number, an infinity or
an exact dyadic rational. Rounding to whole numbers and the rounding of exact quotients to the
nearest number of the format are computed on that exact meaning, never in machine arithmetic.
-/
namespace ApiMock

/-- A number of the format binary64, as its bits. -/
structure Binary64 where
  /-- Sign, eleven bits of exponent and fifty-two of fraction, from the top. -/
  bits : UInt64
  deriving DecidableEq, Repr

namespace Binary64

/-- What the bits of a number stand for. -/
inductive Meaning where
  /-- Not a number. -/
  | nan
  /-- One of the two infinities. -/
  | infinite (negative : Bool)
  /-- The rational number `significand * 2 ^ exponent` with a sign; zero has both signs. -/
  | finite (negative : Bool) (significand : Nat) (exponent : Int)
  deriving DecidableEq, Repr

/-- Whether the sign bit is set. -/
def isNegative (x : Binary64) : Bool := 2 ^ 63 ≤ x.bits.toNat

/-- The exact meaning of a number. -/
def meaning (x : Binary64) : Meaning :=
  let field : Nat := x.bits.toNat / 2 ^ 52 % 2 ^ 11
  let fraction : Nat := x.bits.toNat % 2 ^ 52
  if field = 2 ^ 11 - 1 then
    if fraction = 0 then .infinite x.isNegative else .nan
  else if field = 0 then
    .finite x.isNegative fraction (-1074)
  else
    .finite x.isNegative (2 ^ 52 + fraction) ((field : Int) - 1075)

/-- Whether a number is neither infinite nor not-a-number. -/
def isFinite (x : Binary64) : Bool :=
  match x.meaning with
  | .finite .. => true
  | _ => false

/-- The number with the given magnitude bits and sign. -/
def ofMagnitude (negative : Bool) (magnitude : Nat) : Binary64 :=
  ⟨UInt64.ofNat (if negative then 2 ^ 63 + magnitude else magnitude)⟩

/-- Magnitude bits of infinity; the bits of every finite magnitude are below. -/
def infinityBits : Nat := (2 ^ 11 - 1) * 2 ^ 52

/-- The infinity of a sign. -/
def infinity (negative : Bool) : Binary64 := ofMagnitude negative infinityBits

/-- Not a number. -/
def notANumber : Binary64 := ofMagnitude false (infinityBits + 2 ^ 51)

/-- The number with the other sign. -/
def negate (x : Binary64) : Binary64 :=
  ofMagnitude (!x.isNegative) (x.bits.toNat % 2 ^ 63)

/-- The quotient of two naturals rounded to a natural, a tie to the even one. -/
def roundEven (numerator denominator : Nat) : Nat :=
  let quotient := numerator / denominator
  let rest := numerator % denominator
  if 2 * rest < denominator then quotient
  else if denominator < 2 * rest then quotient + 1
  else quotient + quotient % 2

/-- Numerator and denominator of `numerator / denominator / 2 ^ exponent`. -/
def scaledDown (numerator denominator : Nat) (exponent : Int) : Nat × Nat :=
  if 0 ≤ exponent then (numerator, denominator * 2 ^ exponent.toNat)
  else (numerator * 2 ^ (-exponent).toNat, denominator)

/-- Magnitude bits of the number nearest to a positive quotient, a tie to the even significand.
The exponent is the least that the format has at which the significand stays below `2 ^ 53`. -/
def nearestBits (numerator denominator : Nat) : Nat :=
  let low : Int := max ((numerator.log2 : Int) - denominator.log2 - 53) (-1074)
  let (above, below) := scaledDown numerator denominator low
  let exponent := if 2 ^ 53 ≤ above / below then low + 1 else low
  let (above, below) := scaledDown numerator denominator exponent
  min infinityBits ((exponent + 1074).toNat * 2 ^ 52 + roundEven above below)

/-- The number nearest to a quotient of naturals, a tie to the even significand; magnitudes
beyond the format become infinite. A denominator of zero counts as an infinite quotient. -/
def ofRatio (negative : Bool) (numerator denominator : Nat) : Binary64 :=
  if numerator = 0 then ofMagnitude negative 0
  else if denominator = 0 then infinity negative
  else ofMagnitude negative (nearestBits numerator denominator)

/-- The number nearest to a natural. -/
def ofNat (n : Nat) : Binary64 := ofRatio false n 1

/-- The number nearest to an integer. -/
def ofInt (n : Int) : Binary64 := ofRatio (n < 0) n.natAbs 1

/-- The nearest number to the product of a finite number and a quotient of naturals. -/
def scale (x : Binary64) (numerator denominator : Nat) : Binary64 :=
  match x.meaning with
  | .finite negative significand exponent =>
    let (above, below) := scaledDown (significand * numerator) denominator (-exponent)
    ofRatio negative above below
  | _ => x

/-- The greatest integer that is at most `significand * 2 ^ exponent`. -/
def dyadicFloor (significand exponent : Int) : Int :=
  if 0 ≤ exponent then significand * 2 ^ exponent.toNat
  else significand / 2 ^ (-exponent).toNat

/-- The greatest integer within `[-limit, limit]` that is at most a number; not-a-number counts
as zero, and a number below the interval gives its lower end. -/
def floorWithin (limit : Nat) (x : Binary64) : Int :=
  match x.meaning with
  | .nan => 0
  | .infinite negative => if negative then -limit else limit
  | .finite negative significand exponent =>
    let signed : Int := if negative then -significand else significand
    max (-limit) (min limit (dyadicFloor signed exponent))

/-- The least integer within `[-limit, limit]` that is at least a number; not-a-number counts as
zero, and a number above the interval gives its upper end. -/
def ceilWithin (limit : Nat) (x : Binary64) : Int :=
  match x.meaning with
  | .nan => 0
  | .infinite negative => if negative then -limit else limit
  | .finite negative significand exponent =>
    let signed : Int := if negative then -significand else significand
    max (-limit) (min limit (-dyadicFloor (-signed) exponent))

end Binary64

end ApiMock
