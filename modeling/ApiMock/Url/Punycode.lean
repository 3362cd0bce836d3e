import ApiMock.Text.Decimal

/-!
# Punycode

The ASCII form of texts beyond ASCII in host names. Before the last hyphen stand the ASCII
characters of the text, after it numbers of base thirty-six, each of which tells the next code
point and its place in the text. How long a number is depends on its digits and on a bias that
follows the numbers before it, so that a text is read digit by digit.
-/
namespace ApiMock.Url

/-- A text that is read, and how far the next number has been read. -/
structure Punycode where
  /-- The characters so far. -/
  text : List Char
  /-- The code point of the last character that was added. -/
  code : Nat
  /-- Where the next number starts from. -/
  start : Nat
  /-- The next number as far as it has been read, counted from zero. -/
  number : Nat
  /-- What the next digit of the number is multiplied by. -/
  weight : Nat
  /-- The base times the place of the next digit. -/
  step : Nat
  /-- What decides how long the next number is. -/
  bias : Nat

namespace Punycode

/-- A text of which the ASCII characters were read. -/
def initial (basic : List Char) : Punycode := ⟨basic, 128, 0, 0, 1, 36, 72⟩

/-- The value of a digit: the letters, in either case, and then the decimal digits. -/
def digit? (c : Char) : Option Nat :=
  if c.isAlpha then some (c.toLower.toNat - 'a'.toNat)
  else if c.isDigit then some (26 + Text.digitValue c)
  else none

/-- The least digit that does not end a number. -/
def threshold (step bias : Nat) : Nat :=
  if step ≤ bias then 1 else if bias + 26 ≤ step then 26 else step - bias

/-- The bias for a scaled distance. -/
def scaledBias (distance steps : Nat) : Nat :=
  if 455 < distance then scaledBias (distance / 35) (steps + 36)
  else steps + 36 * distance / (distance + 38)
termination_by distance

/-- The bias after a number that covered a distance and completed a text of `length`. -/
def nextBias (distance length : Nat) (isFirst : Bool) : Nat :=
  let scaled := if isFirst then distance / 700 else distance / 2
  scaledBias (scaled + scaled / length) 0

/-- Add the character of a number that is complete; nothing where it is no character. -/
def addCharacter (state : Punycode) : Option Punycode :=
  let length := state.text.length + 1
  let code := state.code + state.number / length
  let place := state.number % length
  if code.isValidChar then
    some {
      text := state.text.insertIdx place (Char.ofNat code)
      code := code
      start := place + 1
      number := place + 1
      weight := 1
      step := 36
      bias := nextBias (state.number - state.start) length (state.start == 0) }
  else none

/-- Read a digit. Numbers and weights fit in thirty-two bits. -/
def addDigit (state : Punycode) (digit : Nat) : Option Punycode :=
  let limit := threshold state.step state.bias
  let longer := { state with number := state.number + digit * state.weight }
  let weight := state.weight * (36 - limit)
  if 2 ^ 32 ≤ longer.number then none
  else if digit < limit then longer.addCharacter
  else if weight < 2 ^ 32 then some { longer with weight := weight, step := state.step + 36 }
  else none

/-- The ASCII characters of an encoded text, and its digits. -/
def parts (encoded : List Char) : List Char × List Char :=
  match encoded.reverse.dropWhile (· != '-') with
  | _ :: last :: before =>
    ((last :: before).reverse, (encoded.reverse.takeWhile (· != '-')).reverse)
  | _ => ([], encoded)

/-- The text that is encoded. -/
def decode? (encoded : List Char) : Option (List Char) := do
  let digits ← (parts encoded).2.mapM digit?
  let state ← digits.foldlM addDigit (initial (parts encoded).1)
  if state.step = 36 then some state.text else none

end Punycode

end ApiMock.Url
