import ApiMock.Number.Shortest

/-!
# Decimal text of numbers

How the shortest digits of a number are written out. Two layouts are in use: the one of JSON
texts, which keeps a fraction on whole numbers and turns to an exponent far from one, and the
plain one of rendered expressions, which does neither.
-/
namespace ApiMock

/-- The decisions of a written form of numbers. -/
structure NumberLayout where
  /-- The places of the first digit for which no exponent is written; none for all of them. -/
  plainPlaces : Option (Int × Int)
  /-- Whether a whole number without exponent carries the fraction of one zero. -/
  wholeFraction : Bool
  /-- Whether the greater of two equally near digit texts is written, else the even one. -/
  tieUp : Bool

namespace NumberLayout

/-- JSON texts write no exponent for first digits from the fifth decimal to the sixteenth whole
place, and whole numbers with a fraction. -/
def json : NumberLayout := ⟨some (-5, 15), true, false⟩

/-- Plain texts never write an exponent, and no fraction on whole numbers. -/
def plain : NumberLayout := ⟨none, false, true⟩

/-- Digits written without exponent; `place` is the place of the first of them. -/
def positional (layout : NumberLayout) (digits : List Char) (place : Int) : List Char :=
  if place < 0 then
    ['0', '.'] ++ List.replicate (-place - 1).toNat '0' ++ digits
  else
    let whole := place.toNat + 1
    let padded := digits ++ List.replicate (whole - digits.length) '0'
    let fraction := digits.drop whole
    padded.take whole ++
      (if fraction.isEmpty then (if layout.wholeFraction then ['.', '0'] else [])
        else '.' :: fraction)

/-- Digits written with one digit before the point and a signed exponent. -/
def scientific (digits : List Char) (place : Int) : List Char :=
  let fraction := digits.drop 1
  digits.take 1 ++ (if fraction.isEmpty then [] else '.' :: fraction) ++
    ['e', if place < 0 then '-' else '+'] ++ Nat.toDigits 10 place.natAbs

/-- The text of a positive decimal. -/
def decimal (layout : NumberLayout) (value : Decimal) : List Char :=
  let digits := Nat.toDigits 10 value.digits
  let place := value.exponent + digits.length - 1
  match layout.plainPlaces with
  | some (least, greatest) =>
    if least ≤ place ∧ place ≤ greatest then layout.positional digits place
    else scientific digits place
  | none => layout.positional digits place

/-- The text of a finite magnitude. -/
def magnitude (layout : NumberLayout) (significand : Nat) (exponent : Int) : List Char :=
  if significand = 0 then (if layout.wholeFraction then ['0', '.', '0'] else ['0'])
  else layout.decimal (Decimal.shortest layout.tieUp significand exponent)

/-- The text of a number; the sign of zero is kept. -/
def write (layout : NumberLayout) (x : Binary64) : String :=
  match x.meaning with
  | .nan => "NaN"
  | .infinite negative => if negative then "-inf" else "inf"
  | .finite negative significand exponent =>
    String.ofList ((if negative then ['-'] else []) ++ layout.magnitude significand exponent)

end NumberLayout

end ApiMock
