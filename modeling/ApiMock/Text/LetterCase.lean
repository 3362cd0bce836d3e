import ApiMock.Text.Basic

/-!
# Letter case of texts

Lower case is the full mapping of each character, except that a capital sigma at the end of a
word becomes the final form of the letter.
-/
namespace ApiMock.Text

/-- Whether the first character that does not merely attach to a word is a cased letter. -/
def meetsCased : List Char → Bool
  | [] => false
  | c :: rest => if Unicode.isCaseIgnorable c then meetsCased rest else Unicode.isCased c

/-- Lower case of the rest of a text; `passed` holds the characters before it, last first. A
sigma is final when a cased letter precedes it and none follows. -/
def lowerAfter (passed : List Char) : List Char → List Char
  | [] => []
  | c :: rest =>
    let lowered :=
      if c = 'Σ' then
        if meetsCased passed && !meetsCased rest then ['ς'] else ['σ']
      else Unicode.lowercase c
    lowered ++ lowerAfter (c :: passed) rest

/-- Lower case of a text. -/
def lowerChars (text : List Char) : List Char := lowerAfter [] text

/-- Lower case of a text. -/
def lower (text : String) : String := onChars lowerChars text

/-- Upper case of the first character, the rest unchanged. -/
def capitalizeChars : List Char → List Char
  | [] => []
  | c :: rest => Unicode.uppercase c ++ rest

end ApiMock.Text
