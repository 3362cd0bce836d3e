/-!
# Instants

Points in time as milliseconds since the start of 1970, and their text in universal time.
-/
namespace ApiMock

/-- A point in time, in milliseconds since the start of 1970. -/
abbrev Instant := Int

namespace Instant

/-- The milliseconds of a day. -/
def dayLength : Int := 24 * 60 * 60 * 1000

/-- Year, month and day of the day with a number, counted from the start of 1970. The year starts
in March here, so that a leap day is its last one. -/
def civil (day : Int) : Int × Int × Int :=
  let shifted := day + 719468
  let era := shifted / 146097
  let dayOfEra := shifted % 146097
  let yearOfEra := (dayOfEra - dayOfEra / 1460 + dayOfEra / 36524 - dayOfEra / 146096) / 365
  let dayOfYear := dayOfEra - (365 * yearOfEra + yearOfEra / 4 - yearOfEra / 100)
  let month := (5 * dayOfYear + 2) / 153
  let year := yearOfEra + era * 400
  (if month < 10 then year else year + 1, if month < 10 then month + 3 else month - 9,
    dayOfYear - (153 * month + 2) / 5 + 1)

/-- A number with leading zeros. -/
def padded (width : Nat) (n : Int) : String :=
  let digits := Nat.toDigits 10 n.toNat
  String.ofList (List.replicate (width - digits.length) '0' ++ digits)

/-- The text of a point in time, in universal time and to the millisecond. -/
def text (instant : Instant) : String :=
  let (year, month, day) := civil (instant / dayLength)
  let time := instant % dayLength
  padded 4 year ++ "-" ++ padded 2 month ++ "-" ++ padded 2 day ++ "T" ++
    padded 2 (time / 3600000) ++ ":" ++ padded 2 (time / 60000 % 60) ++ ":" ++
    padded 2 (time / 1000 % 60) ++ "." ++ padded 3 (time % 1000) ++ "Z"

end Instant

end ApiMock
