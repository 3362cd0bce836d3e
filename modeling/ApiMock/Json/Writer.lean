import ApiMock.Json.Basic
import ApiMock.Number.Layout
import ApiMock.Text.Basic

/-!
# Compact JSON texts

The text of a value without spaces, members in their order. Strings are quoted with the fewest
escapes that JSON allows; other characters stand for themselves.
-/
namespace ApiMock

/-- A lower-case hexadecimal digit. -/
def hexDigit (n : Nat) : Char := (Nat.toDigits 16 (n % 16)).headD '0'

/-- The decimal text of an integer. -/
def integerText (n : Int) : String :=
  if n < 0 then "-" ++ Nat.repr n.natAbs else Nat.repr n.natAbs

/-- The JSON text of a number. -/
def Number.text : Number → String
  | integer value => integerText value
  | float value => NumberLayout.json.write value

namespace Json

/-- A character within a quoted string: quotes, backslashes and controls are escaped. -/
def escapeChar (c : Char) : List Char :=
  if c = '"' then ['\\', '"']
  else if c = '\\' then ['\\', '\\']
  else if c = '\n' then ['\\', 'n']
  else if c = '\r' then ['\\', 'r']
  else if c = '\t' then ['\\', 't']
  else if c.toNat = 8 then ['\\', 'b']
  else if c.toNat = 12 then ['\\', 'f']
  else if c.toNat < 32 then
    ['\\', 'u', '0', '0', hexDigit (c.toNat / 16), hexDigit c.toNat]
  else [c]

/-- A quoted string. -/
def quote (text : String) : String :=
  "\"" ++ Text.onChars (List.flatMap escapeChar) text ++ "\""

mutual

/-- The compact text of a value. -/
def write : Json → String
  | null => "null"
  | bool value => if value then "true" else "false"
  | num value => value.text
  | str value => quote value
  | arr items => "[" ++ ",".intercalate (writeItems items) ++ "]"
  | obj members => "\x7b" ++ ",".intercalate (writeMembers members) ++ "\x7d"

/-- The texts of the items of an array. -/
def writeItems : List Json → List String
  | [] => []
  | item :: rest => write item :: writeItems rest

/-- The texts of the members of an object. -/
def writeMembers : List (String × Json) → List String
  | [] => []
  | (key, value) :: rest => (quote key ++ ":" ++ write value) :: writeMembers rest

end

end Json

end ApiMock
