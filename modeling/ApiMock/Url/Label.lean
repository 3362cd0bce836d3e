import ApiMock.Text.Basic
import ApiMock.Unicode.Direction
import ApiMock.Unicode.HostMapping
import ApiMock.Unicode.Joining
import ApiMock.Unicode.Normal
import ApiMock.Url.Punycode

/-!
# Labels of host names

A name is read as its labels between dots. Characters that stand for others are replaced first,
and a label that is encoded in ASCII stands for the text that it encodes. A label is in order if
its characters are allowed, each in its place; and where letters from right to left occur in a
name, each label has to be readable in one way only.
-/
namespace ApiMock.Url

/-- Characters that no host contains. -/
def isForbidden (c : Char) : Bool :=
  c.toNat == 0 || "\t\n\r #/:<>?@[\\]^|".toList.contains c

/-- Characters that no name of a server contains. -/
def isForbiddenInName (c : Char) : Bool :=
  isForbidden c || c.toNat < 32 || c.toNat == 127 || c == '%'

/-- The characters without a form that join the letters beside them or keep them apart. -/
def isJoiner (c : Char) : Bool := c.toNat == 0x200C || c.toNat == 0x200D

/-- Whether the first letter of a text, marks before it aside, satisfies a test. -/
def startsWithLetter (test : Char → Bool) (text : List Char) : Bool :=
  (text.dropWhile Unicode.isTransparent).head?.any test

/-- Whether a joiner has a place between two texts, of which the one before is given backwards:
after a virama, and, if it keeps letters apart, between letters that would join. -/
def mayJoin (joiner : Char) (before after : List Char) : Bool :=
  before.head?.any Unicode.isVirama ||
    (joiner.toNat == 0x200C && startsWithLetter Unicode.joinsNext before &&
      startsWithLetter Unicode.joinsPrevious after)

/-- Whether all joiners of a text have a place after a text that is given backwards. -/
def allMayJoin (before : List Char) : List Char → Bool
  | [] => true
  | c :: rest => (!isJoiner c || mayJoin c before rest) && allMayJoin (c :: before) rest

/-- The greatest length of a label beyond ASCII. -/
def labelLimit : Nat := 1000

/-- The greatest length of an encoded text. -/
def encodedLimit : Nat := 2000

/-- Whether the characters of a label are in order: none is forbidden, the first is no mark, and
the joiners have a place. -/
def isLabel (label : List Char) : Bool :=
  !label.any isForbiddenInName && !label.head?.any Unicode.isMark && allMayJoin [] label &&
    (label.all Unicode.isAscii || label.length ≤ labelLimit)

/-- Whether a text is one that is encoded in a label: it goes beyond ASCII, and it is what the
characters of host names stand for, composed. -/
def isInternational (text : List Char) : Bool :=
  !text.all Unicode.isAscii && text.all Unicode.isHostCharacter && Unicode.normalize text == text

/-- What a label stands for: the text that it encodes if it says so, and itself otherwise. -/
def decodeLabel? (label : List Char) : Option (List Char) :=
  match Text.afterChars? "xn--".toList label with
  | some encoded =>
    if encoded.all Unicode.isAscii && encoded.length ≤ encodedLimit then
      (Punycode.decode? encoded).filter isInternational
    else none
  | none => some label

/-- Whether a character is written from right to left, be it a letter or a digit. -/
def isRightToLeft (c : Char) : Bool :=
  Unicode.direction c == .rightToLeft || Unicode.direction c == .arabicNumber

/-- Whether a label can be read in one way only: it starts with a letter, it ends, marks aside,
with a letter or digit of its direction, and it mixes neither letters of both directions nor, from
right to left, digits of both kinds. -/
def hasOneDirection (label : List Char) : Bool :=
  match label.map Unicode.direction with
  | [] => true
  | first :: rest =>
    let backwards := rest.reverse.dropWhile (· == .nonspacing)
    match first with
    | .leftToRight =>
      backwards.head?.all (fun last => last == .leftToRight || last == .europeanNumber) &&
        !backwards.contains .rightToLeft && !backwards.contains .arabicNumber
    | .rightToLeft =>
      backwards.head?.all (fun last =>
          last == .rightToLeft || last == .europeanNumber || last == .arabicNumber) &&
        !backwards.contains .leftToRight &&
        !(backwards.contains .europeanNumber && backwards.contains .arabicNumber)
    | _ => false

/-- The labels of a name, each as the text that it stands for; nothing where the name is not in
order. -/
def nameLabels? (name : List Char) : Option (List (List Char)) := do
  let mapped ← name.mapM Unicode.hostMapping?
  let labels ← (Text.pieces (· == '.') (Unicode.normalize mapped.flatten)).mapM decodeLabel?
  if labels.all isLabel &&
      (labels.all hasOneDirection || !labels.any (fun label => label.any isRightToLeft)) then
    some labels
  else none

end ApiMock.Url
