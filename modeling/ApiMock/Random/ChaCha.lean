import ApiMock.Random.Source

/-!
# The ChaCha source

A stream of words from a seed: the blocks of the ChaCha cipher with twelve rounds, whose key is
spread out from the seed and whose counter starts at zero.
-/
namespace ApiMock

/-- The state of a ChaCha stream. -/
structure ChaCha where
  /-- The eight words of the key. -/
  key : List UInt32
  /-- The number of the next block. -/
  counter : UInt64
  /-- The words of the last block that were not drawn. -/
  pending : List UInt32
  deriving DecidableEq, Repr

namespace ChaCha

/-- A word rotated to the left. -/
def rotateLeft (word count : UInt32) : UInt32 := (word <<< count) ||| (word >>> (32 - count))

/-- The words of a block. -/
abbrev Block := Vector UInt32 16

/-- Mix four words of a block. -/
def quarterRound (block : Block) (a b c d : Fin 16) : Block :=
  let first := block[a] + block[b]
  let fourth := rotateLeft (block[d] ^^^ first) 16
  let third := block[c] + fourth
  let second := rotateLeft (block[b] ^^^ third) 12
  let first := first + second
  let fourth := rotateLeft (fourth ^^^ first) 8
  let third := third + fourth
  let second := rotateLeft (second ^^^ third) 7
  (((block.set a first).set b second).set c third).set d fourth

/-- Mix the columns of a block and then its diagonals. -/
def doubleRound (block : Block) : Block :=
  let block := quarterRound block 0 4 8 12
  let block := quarterRound block 1 5 9 13
  let block := quarterRound block 2 6 10 14
  let block := quarterRound block 3 7 11 15
  let block := quarterRound block 0 5 10 15
  let block := quarterRound block 1 6 11 12
  let block := quarterRound block 2 7 8 13
  quarterRound block 3 4 9 14

/-- The words that every block starts with. -/
def constants : List UInt32 := [0x61707865, 0x3320646e, 0x79622d32, 0x6b206574]

/-- The block that a key and a counter start from. -/
def initial (key : List UInt32) (counter : UInt64) : Block :=
  let words := constants ++ key ++ [counter.toUInt32, (counter >>> 32).toUInt32]
  Vector.ofFn fun place => words.getD place.val 0

/-- The words of the block with a number. -/
def block (key : List UInt32) (counter : UInt64) : List UInt32 :=
  let start := initial key counter
  let mixed := (List.range 6).foldl (fun block _ => doubleRound block) start
  (Vector.zipWith (· + ·) start mixed).toList

/-- Draw a word; an exhausted block is followed by the next one. -/
def next (state : ChaCha) : UInt32 × ChaCha :=
  match state.pending with
  | word :: rest => (word, { state with pending := rest })
  | [] =>
    match block state.key state.counter with
    | word :: rest => (word, { state with counter := state.counter + 1, pending := rest })
    | [] => (0, state)

instance : WordSource ChaCha := ⟨next⟩

/-- The state that follows a state of the generator which spreads seeds. -/
def spread (state : UInt64) : UInt64 := state * 6364136223846793005 + 11634580027462260723

/-- The word that the generator which spreads seeds gives in a state. -/
def spreadWord (state : UInt64) : UInt32 :=
  let mixed := (((state >>> 18) ^^^ state) >>> 27).toUInt32
  let count := (state >>> 59).toUInt32
  (mixed >>> count) ||| (mixed <<< (32 - count))

/-- The first words that a seed spreads out to. -/
def spreadWords (state : UInt64) : Nat → List UInt32
  | 0 => []
  | count + 1 => spreadWord (spread state) :: spreadWords (spread state) count

/-- The stream of a seed. -/
def ofSeed (seed : UInt64) : ChaCha := ⟨spreadWords seed 8, 0, []⟩

end ChaCha

end ApiMock
