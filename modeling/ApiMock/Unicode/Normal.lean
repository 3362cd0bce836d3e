import ApiMock.Unicode.CombiningClass
import ApiMock.Unicode.Decomposition

/-!
# Composed texts

The form of a text in which characters and marks are composed as far as they can be: everything
comes apart, marks are ordered by their class, and then each mark joins the character before it
if the two are one character. Syllables of Hangul come apart by a rule of their own: 588 for each
leading consonant, 28 of them for each vowel, and the first of those without a final consonant.
-/
namespace ApiMock.Unicode

/-- The place of a character in a row of `count` code points. -/
def placeIn? (first count : Nat) (c : Char) : Option Nat :=
  if first ≤ c.toNat && c.toNat < first + count then some (c.toNat - first) else none

/-- The code point of the first syllable. -/
def firstSyllable : Nat := 0xAC00

/-- The place of a character among the syllables. -/
def syllable? (c : Char) : Option Nat := placeIn? firstSyllable 11172 c

/-- What a character comes apart into. -/
def decompose (c : Char) : List Char :=
  match syllable? c with
  | some place =>
    let lead := Char.ofNat (0x1100 + place / 588)
    let vowel := Char.ofNat (0x1161 + place % 588 / 28)
    if place % 28 = 0 then [lead, vowel] else [lead, vowel, Char.ofNat (0x11A7 + place % 28)]
  | none =>
    match decompositions.lookup c.toNat with
    | some codes => codes.map Char.ofNat
    | none => [c]

/-- The syllable that two characters compose to. -/
def composeSyllable? (first second : Char) : Option Char :=
  match placeIn? 0x1100 19 first, placeIn? 0x1161 21 second with
  | some lead, some vowel => some (Char.ofNat (firstSyllable + lead * 588 + vowel * 28))
  | _, _ =>
    match syllable? first, placeIn? 0x11A8 27 second with
    | some place, some final =>
      if place % 28 = 0 then some (Char.ofNat (firstSyllable + place + final + 1)) else none
    | _, _ => none

/-- The character that two characters compose to: the one that comes apart as they do. -/
def compose? (first second : Char) : Option Char :=
  match composeSyllable? first second with
  | some composed => some composed
  | none =>
    let codes := (decompose first).map Char.toNat ++ [second.toNat]
    (decompositions.find? fun entry => entry.2 == codes).map fun entry => Char.ofNat entry.1

/-- Put a character in front of a text, behind the marks of a lower class there. -/
def insertOrdered (c : Char) : List Char → List Char
  | [] => [c]
  | next :: rest =>
    if 0 < combiningClass next && combiningClass next < combiningClass c then
      next :: insertOrdered c rest
    else c :: next :: rest

/-- A text with the marks after each character ordered by class. -/
def order (text : List Char) : List Char := text.foldr insertOrdered []

/-- Compose a text with the character before it. The marks between the two that did not compose
are given backwards: they block what is not of a higher class. -/
def composeOnto (base : Char) (between : List Char) : List Char → List Char
  | [] => base :: between.reverse
  | c :: rest =>
    let isBlocked := between.head?.any fun last => combiningClass c ≤ combiningClass last
    match if isBlocked then none else compose? base c with
    | some composed => composeOnto composed between rest
    | none =>
      if combiningClass c = 0 then base :: between.reverse ++ composeOnto c [] rest
      else composeOnto base (c :: between) rest

/-- The composed form of a text. -/
def normalize (text : List Char) : List Char :=
  match order (text.flatMap decompose) with
  | [] => []
  | base :: rest => composeOnto base [] rest

end ApiMock.Unicode
