import ApiMock.Text.Basic

/-!
# Quoted text in messages

How messages show a text that they quote: between double quotes, every character that has no
visible form of its own as an escape.
-/
namespace ApiMock.Text

/-- The characters that stand for one character of a quoted text. -/
def quotedChar (c : Char) : List Char :=
  if c = '"' then ['\\', '"']
  else if c = '\\' then ['\\', '\\']
  else if c = '\n' then ['\\', 'n']
  else if c = '\r' then ['\\', 'r']
  else if c = '\t' then ['\\', 't']
  else if c.toNat = 0 then ['\\', '0']
  else if Unicode.isVisible c then [c]
  else ['\\', 'u', '\x7b'] ++ Nat.toDigits 16 c.toNat ++ ['\x7d']

/-- A text as messages quote it. -/
def quoted (text : String) : String := "\"" ++ onChars (List.flatMap quotedChar) text ++ "\""

end ApiMock.Text
