import ApiMock.Json.Basic
import Mathlib.Data.Rat.Floor
/-!
# The order of numbers and rounding within a range

Numbers of the format binary64 are compared with rationals through their exact meaning. Rounding
to a whole number within a range of integers is then exactly what the comparison asks for: an
integer of the range that a number admits as a bound is never cut off, and once the number admits
one integer of the range, every integer that rounding lets through is admitted as well.
-/
namespace ApiMock

namespace Binary64

/-- The integer significand with its sign. -/
def signed (negative : Bool) (significand : Nat) : Int :=
  if negative then -significand else significand

/-- A number is at most a rational. Not-a-number is not comparable. -/
def AtMost (x : Binary64) (q : ℚ) : Prop :=
  match x.meaning with
  | .nan => False
  | .infinite negative => negative = true
  | .finite negative significand exponent => signed negative significand * (2 : ℚ) ^ exponent ≤ q

/-- A number is at least a rational. Not-a-number is not comparable. -/
def AtLeast (x : Binary64) (q : ℚ) : Prop :=
  match x.meaning with
  | .nan => False
  | .infinite negative => negative = false
  | .finite negative significand exponent => q ≤ signed negative significand * (2 : ℚ) ^ exponent

/-- The floor of a dyadic number is the floor of the rational that it stands for. -/
theorem dyadicFloor_eq_floor (significand exponent : Int) :
    dyadicFloor significand exponent = ⌊(significand : ℚ) * 2 ^ exponent⌋ := by
  unfold dyadicFloor
  by_cases whole : 0 ≤ exponent
  · obtain ⟨power, rfl⟩ := Int.eq_ofNat_of_zero_le whole
    have cast : (significand : ℚ) * 2 ^ (power : Int) = ((significand * 2 ^ power : Int) : ℚ) := by
      push_cast
      rw [zpow_natCast]
    rw [if_pos whole, cast, Int.floor_intCast, Int.toNat_natCast]
  · obtain ⟨power, equal⟩ := Int.eq_ofNat_of_zero_le (show 0 ≤ -exponent by omega)
    have split : exponent = -(power : Int) := by omega
    have cast : (significand : ℚ) * 2 ^ exponent = (significand : ℚ) / ((2 ^ power : Nat) : ℚ) := by
      rw [split, zpow_neg, zpow_natCast, div_eq_mul_inv]
      push_cast
      rfl
    rw [if_neg whole, cast, Rat.floor_intCast_div_natCast, equal, Int.toNat_natCast]
    push_cast
    rfl

/-- An integer is at most the floor of a dyadic number exactly when it is at most the number. -/
theorem le_dyadicFloor_iff {significand exponent n : Int} :
    n ≤ dyadicFloor significand exponent ↔ (n : ℚ) ≤ significand * 2 ^ exponent := by
  rw [dyadicFloor_eq_floor, Int.le_floor]

/-- The ceiling of a dyadic number is at most an integer exactly when the number is. -/
theorem neg_dyadicFloor_le_iff {significand exponent n : Int} :
    -dyadicFloor (-significand) exponent ≤ n ↔ (significand : ℚ) * 2 ^ exponent ≤ n := by
  rw [neg_le, le_dyadicFloor_iff]
  push_cast
  rw [neg_mul, neg_le_neg_iff]

/-- A number rounded to an integer and cut to the range of a limit. Not-a-number counts as zero, and
the infinities go to the ends of the range. -/
def roundedWithin (limit : Nat) (round : ℚ → Int) (x : Binary64) : Int :=
  match x.meaning with
  | .nan => 0
  | .infinite negative => if negative then -limit else limit
  | .finite negative significand exponent =>
    max (-limit) (min limit (round (signed negative significand * (2 : ℚ) ^ exponent)))

/-- Rounding down within a range takes the floor. -/
theorem floorWithin_eq (limit : Nat) (x : Binary64) :
    floorWithin limit x = x.roundedWithin limit Int.floor := by
  unfold floorWithin roundedWithin
  cases x.meaning with
  | nan => rfl
  | infinite negative => rfl
  | finite negative significand exponent =>
    simp only [dyadicFloor_eq_floor]
    rfl

/-- Rounding up within a range takes the ceiling. -/
theorem ceilWithin_eq (limit : Nat) (x : Binary64) :
    ceilWithin limit x = x.roundedWithin limit Int.ceil := by
  unfold ceilWithin roundedWithin
  cases x.meaning with
  | nan => rfl
  | infinite negative => rfl
  | finite negative significand exponent =>
    have ceil : -dyadicFloor (-signed negative significand) exponent =
        ⌈signed negative significand * (2 : ℚ) ^ exponent⌉ := by
      rw [dyadicFloor_eq_floor, Int.cast_neg, neg_mul, Int.floor_neg, neg_neg]
    simp only [← ceil]
    rfl

/-- An integer of the range that a number admits from above survives rounding down. -/
theorem le_floorWithin {limit : Nat} {x : Binary64} {n : Int} (small : n ≤ limit)
    (admitted : x.AtLeast n) : n ≤ floorWithin limit x := by
  unfold AtLeast at admitted
  unfold floorWithin
  cases reads : x.meaning with
  | nan => simp [reads] at admitted
  | infinite negative =>
    simp only [reads] at admitted
    simpa [admitted] using small
  | finite negative significand exponent =>
    simp only [reads] at admitted
    exact le_max_of_le_right (le_min small (le_dyadicFloor_iff.mpr admitted))

/-- An integer of the range that a number admits from below survives rounding up. -/
theorem ceilWithin_le {limit : Nat} {x : Binary64} {n : Int} (large : -(limit : Int) ≤ n)
    (admitted : x.AtMost n) : ceilWithin limit x ≤ n := by
  unfold AtMost at admitted
  unfold ceilWithin
  cases reads : x.meaning with
  | nan => simp [reads] at admitted
  | infinite negative =>
    simp only [reads] at admitted
    simpa [admitted] using large
  | finite negative significand exponent =>
    simp only [reads] at admitted
    exact max_le large (min_le_of_right_le (neg_dyadicFloor_le_iff.mpr admitted))

/-- Once a number admits an integer of the range from above, rounding it down lets through only
what it admits. -/
theorem atLeast_of_le_floorWithin {limit : Nat} {x : Binary64} {known n : Int}
    (large : -(limit : Int) ≤ known) (admitted : x.AtLeast known)
    (inside : n ≤ floorWithin limit x) : x.AtLeast n := by
  unfold AtLeast at admitted ⊢
  unfold floorWithin at inside
  cases reads : x.meaning with
  | nan => simp [reads] at admitted
  | infinite negative => simpa [reads] using admitted
  | finite negative significand exponent =>
    simp only [reads] at admitted inside ⊢
    have above := le_dyadicFloor_iff.mpr admitted
    have below : n ≤ dyadicFloor (signed negative significand) exponent := by
      unfold signed at above ⊢
      omega
    exact le_dyadicFloor_iff.mp below

/-- Once a number admits an integer of the range from below, rounding it up lets through only
what it admits. -/
theorem atMost_of_ceilWithin_le {limit : Nat} {x : Binary64} {known n : Int}
    (small : known ≤ limit) (admitted : x.AtMost known) (inside : ceilWithin limit x ≤ n) :
    x.AtMost n := by
  unfold AtMost at admitted ⊢
  unfold ceilWithin at inside
  cases reads : x.meaning with
  | nan => simp [reads] at admitted
  | infinite negative => simpa [reads] using admitted
  | finite negative significand exponent =>
    simp only [reads] at admitted inside ⊢
    have below := neg_dyadicFloor_le_iff.mpr admitted
    have above : -dyadicFloor (-signed negative significand) exponent ≤ n := by
      unfold signed at below ⊢
      omega
    exact neg_dyadicFloor_le_iff.mp above

end Binary64

/-- The rational number that a number stands for; nothing where there is none. -/
def Number.rational? : Number → Option ℚ
  | .integer value => some value
  | .float value =>
    match value.meaning with
    | .finite negative significand exponent =>
      some (Binary64.signed negative significand * (2 : ℚ) ^ exponent)
    | _ => none

end ApiMock
