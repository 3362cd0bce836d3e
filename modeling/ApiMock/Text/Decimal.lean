import ApiMock.Number.Power
import ApiMock.Text.Basic

/-!
# Decimal naturals in text

Reading a natural below a limit: ASCII digits, leading zeros and one leading plus sign allowed,
nothing else.
-/
namespace ApiMock.Text

/-- The value of a decimal digit. -/
def digitValue (c : Char) : Nat := c.toNat - '0'.toNat

/-- The natural that digits write, the most significant first. -/
def ofDigits (digits : List Nat) : Nat := digits.foldl (fun n digit => n * 10 + digit) 0

/-- The natural that a text of digits writes. -/
def digitsNat? (text : List Char) : Option Nat :=
  if text.isEmpty then none
  else if text.all Char.isDigit then some (ofDigits (text.map digitValue))
  else none

/-- The natural below `limit` that a text writes. -/
def natBelow? (limit : Nat) (text : String) : Option Nat :=
  let unsigned := match text.toList with
    | '+' :: rest => rest
    | rest => rest
  (digitsNat? unsigned).filter (· < limit)

end ApiMock.Text
