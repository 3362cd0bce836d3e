import ApiMock.Unicode.HostExpansion
import ApiMock.Unicode.HostName
import ApiMock.Unicode.HostVariant
import ApiMock.Unicode.Property

/-!
# The mapping of host names

What a character stands for in a host name. A character may stand for itself, be left out, stand
for another text, as capital letters do, or have no place in a host name at all.
-/
namespace ApiMock.Unicode

/-- A character that stands for itself in a host name. -/
def isHostCharacter (c : Char) : Bool :=
  if isAscii c then !c.isUpper else inRuns hostNameRuns c

/-- What a character stands for in the rows of variants. -/
def variant? (c : Char) : Option Char :=
  hostVariants.findSome? fun row =>
    if row.1 ≤ c.toNat then row.2[c.toNat - row.1]?.map Char.ofNat else none

/-- What a character stands for that is another text. -/
def hostCounterpart? (c : Char) : Option (List Char) :=
  match hostExpansions.lookup c.toNat with
  | some codes => some (codes.map Char.ofNat)
  | none =>
    match variant? c <|> hostShifts.findSome? (fun shift => shift.apply? c.toNat) with
    | some counterpart => some [counterpart]
    | none => if lowercase c = [c] then none else some (lowercase c)

/-- What a character stands for in a host name; nothing where it has no place there. -/
def hostMapping? (c : Char) : Option (List Char) :=
  if isHostCharacter c then some [c]
  else if inRuns hostIgnoredRuns c then some []
  else hostCounterpart? c

end ApiMock.Unicode
