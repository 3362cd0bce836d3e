import ApiMock.Text.LetterCase

/-!
# Words and camel case

A text is cut into words at everything that is neither a letter nor an ASCII digit, and within
a run of letters and digits where the kind of character changes. Camel case joins the words of
a text: the first in lower case, each later one capitalized.
-/
namespace ApiMock.Text

/-- The kinds of characters that words are made of. -/
inductive WordKind where
  /-- An upper-case letter. -/
  | upper
  /-- Any other letter. -/
  | lower
  /-- An ASCII digit. -/
  | digit
  deriving DecidableEq, Repr

/-- The kind of a character, or none for one that separates words. -/
def wordKind? (c : Char) : Option WordKind :=
  if c.isDigit then some .digit
  else if Unicode.isUppercase c then some .upper
  else if Unicode.isAlphabetic c then some .lower
  else none

/-- Whether a word ends between two neighbours, given the kind of the character after them: at
a capital after a small letter, between letters and digits, and before the last capital of a
run that small letters follow. -/
def breaksBetween : WordKind → WordKind → Option WordKind → Bool
  | .lower, .upper, _ => true
  | .digit, .upper, _ => true
  | .digit, .lower, _ => true
  | .upper, .digit, _ => true
  | .lower, .digit, _ => true
  | .upper, .upper, next => next == some .lower
  | _, _, _ => false

/-- Whether a word ends before the second of two neighbours, `rest` being what follows them. -/
def wordBreak (left right : Char) (rest : List Char) : Bool :=
  match wordKind? left, wordKind? right with
  | some leftKind, some rightKind =>
    breaksBetween leftKind rightKind (rest.head?.bind wordKind?)
  | _, _ => false

/-- The words of a run of letters and digits. -/
def runWords : List Char → List (List Char)
  | [] => []
  | [c] => [[c]]
  | c :: d :: rest =>
    if wordBreak c d rest then
      [c] :: runWords (d :: rest)
    else
      match runWords (d :: rest) with
      | [] => [[c]]
      | word :: others => (c :: word) :: others

/-- The words of a text, in order. -/
def wordsOf (text : List Char) : List (List Char) :=
  (pieces (fun c => (wordKind? c).isNone) text).flatMap runWords

/-- The words of a text, in order. -/
def words (text : String) : List String := (wordsOf text.toList).map String.ofList

/-- Words joined in camel case. -/
def joinCamel : List (List Char) → List Char
  | [] => []
  | first :: later =>
    lowerChars first ++ later.flatMap fun word => capitalizeChars (lowerChars word)

/-- A text in camel case. -/
def camelCase (text : String) : String := onChars (fun chars => joinCamel (wordsOf chars)) text

end ApiMock.Text
