import ApiMock.Number.Power

/-!
# Random draws

Everything random is drawn from a source of 32-bit words. What is stated of a draw holds for
every source, whatever words it gives. Draws below a number are exact: a word is multiplied by the
number, the high half of the product is the result, and words whose low half falls beyond the last
full share are refused.
-/
namespace ApiMock

/-- A source of 32-bit words; drawing one leaves another state. -/
class WordSource (σ : Type) where
  /-- The next word and the state after it. -/
  next : σ → UInt32 × σ

namespace Random

variable {σ : Type} [WordSource σ]

/-- Draw a word. -/
def word : StateM σ UInt32 := fun state => WordSource.next state

/-- Draw a word as a natural. -/
def narrow : StateM σ Nat := do
  return (← word).toNat

/-- Draw two words as one natural, the low half first. -/
def wide : StateM σ Nat := do
  let low ← narrow
  let high ← narrow
  return high * 2 ^ 32 + low

/-- The greatest low half of a product that is kept: the bound shifted up to the word's width,
less one. -/
def lastKept (width bound : Nat) : Nat := bound * 2 ^ (width - 1 - bound.log2) - 1

/-- Draw a natural below a bound with a number of attempts; after the last one it is zero. -/
def attempt (width : Nat) (draw : StateM σ Nat) (bound : Nat) : Nat → StateM σ Nat
  | 0 => return 0
  | attempts + 1 => do
    let product := (← draw) * bound
    if product % 2 ^ width ≤ lastKept width bound then return product / 2 ^ width
    else attempt width draw bound attempts

/-- How many attempts there are at a draw. At least half of all words are kept, so random words use
them all up with a probability of at most one in `2 ^ 1000`. A source that gives nothing but refused
words gets zero after the last attempt, where a loop without a bound would go on drawing. -/
def patience : Nat := 1000

/-- Draw a natural below a bound from single words. -/
def below (bound : Nat) : StateM σ Nat := attempt 32 narrow bound patience

/-- Draw a natural below a bound from pairs of words. -/
def belowWide (bound : Nat) : StateM σ Nat := attempt 64 wide bound patience

/-- Draw an integer of a range that is not empty. -/
def between (low high : Int) : StateM σ Int := do
  return low + (← belowWide (high - low + 1).toNat)

/-- Draw one of some values; from none nothing is drawn. -/
def choose? {α : Type} (values : List α) : StateM σ (Option α) :=
  if values.isEmpty then return none
  else do return values[(← below values.length)]?

/-- Draw a truth value: the top bit of a word. -/
def truth : StateM σ Bool := do
  return 2 ^ 31 ≤ (← narrow)

/-- Draw the low bits of a word below a power of two. -/
def lowBits (count : Nat) : StateM σ Nat := do
  return (← narrow) % 2 ^ count

/-- The results of a draw that is repeated. -/
def repeated {α : Type} (draw : StateM σ α) : Nat → StateM σ (List α)
  | 0 => return []
  | times + 1 => do
    let first ← draw
    let rest ← repeated draw times
    return first :: rest

/-- Draw positions of a list one by one, each from one position more than the one before; a
position drawn before gives way to the newest one, which takes the place before it. -/
def positionsFrom (newest : Nat) : Nat → List Nat → StateM σ (List Nat)
  | 0, drawn => return drawn
  | count + 1, drawn => do
    let position ← below (newest + 1)
    let place := drawn.idxOf position
    let drawn :=
      if place < drawn.length then drawn.take place ++ newest :: drawn.drop place
      else drawn ++ [position]
    positionsFrom (newest + 1) count drawn

/-- Draw distinct positions of a list of `length` values, in random order. -/
def positions (length count : Nat) : StateM σ (List Nat) :=
  positionsFrom (length - count) count []

end Random

end ApiMock
