import ApiMock.Unicode.Alphabetic
import ApiMock.Unicode.Case
import ApiMock.Unicode.CaseMap
import ApiMock.Unicode.Visible

/-!
# Character properties

The Unicode properties and case mappings of one character. Within ASCII each is given by its
plain rule, and the tables decide beyond it.
-/
namespace ApiMock.Unicode

/-- A character of the ASCII range. -/
def isAscii (c : Char) : Bool := c.toNat < 128

/-- The property White_Space. -/
def isWhiteSpace (c : Char) : Bool :=
  c == ' ' || (9 ≤ c.toNat && c.toNat ≤ 13) || c.toNat == 0x85 || c.toNat == 0xA0 ||
    c.toNat == 0x1680 || (0x2000 ≤ c.toNat && c.toNat ≤ 0x200A) || c.toNat == 0x2028 ||
    c.toNat == 0x2029 || c.toNat == 0x202F || c.toNat == 0x205F || c.toNat == 0x3000

/-- The property Alphabetic: letters, and marks that act as letters. -/
def isAlphabetic (c : Char) : Bool :=
  if isAscii c then c.isAlpha else inRuns alphabeticRuns c

/-- The property Uppercase. -/
def isUppercase (c : Char) : Bool :=
  if isAscii c then c.isUpper else inRuns uppercaseRuns c

/-- The property Lowercase. -/
def isLowercase (c : Char) : Bool :=
  if isAscii c then c.isLower else inRuns lowercaseRuns c

/-- The property Cased: characters that have, or are, a letter case. -/
def isCased (c : Char) : Bool :=
  if isAscii c then c.isAlpha else inRuns casedRuns c

/-- The property Case_Ignorable: characters that do not separate a letter from its word. -/
def isCaseIgnorable (c : Char) : Bool := inRuns caseIgnorableRuns c

/-- The full lower-case mapping of one character. -/
def lowercase (c : Char) : List Char :=
  if isAscii c then [c.toLower] else mapCase lowerExpansions lowerShifts c

/-- The full upper-case mapping of one character. -/
def uppercase (c : Char) : List Char :=
  if isAscii c then [c.toUpper] else mapCase upperExpansions upperShifts c

/-- A mark that attaches to the character before it. -/
def isExtendingMark (c : Char) : Bool := inRuns extendingMarkRuns c

/-- A character with a visible form of its own, the space included. -/
def isVisible (c : Char) : Bool :=
  if isAscii c then ' ' ≤ c && c ≤ '~'
  else !inRuns invisibleRuns c && !isExtendingMark c

end ApiMock.Unicode
