/-!
# Runs of code points

Unicode properties are sets of code points that come in runs. A run names its first and last
member and the step between members, so alternating letters of a bicameral alphabet are one
run too.
-/
namespace ApiMock.Unicode

/-- First member, last member and the distance between members. -/
abbrev Run := Nat × Nat × Nat

/-- Membership of a code point in a run. -/
def Run.contains : Run → Nat → Bool
  | (first, last, step), code => first ≤ code && code ≤ last && (code - first) % step == 0

/-- Membership of a character in a property given by its runs. -/
def inRuns (runs : List Run) (c : Char) : Bool :=
  runs.any fun run => run.contains c.toNat

/-- A run of characters that change case by the same distance. -/
abbrev Shift := Nat × Nat × Nat × Int

/-- The counterpart of a code point in a run of one distance. -/
def Shift.apply? : Shift → Nat → Option Char
  | (first, last, step, distance), code =>
    if Run.contains (first, last, step) code then
      some (Char.ofNat ((code : Int) + distance).toNat)
    else
      none

/-- The full case mapping given by its expansions and its runs of one distance: a character that
neither names maps to itself. -/
def mapCase (expansions : List (Nat × List Nat)) (shifts : List Shift) (c : Char) : List Char :=
  match expansions.lookup c.toNat with
  | some codes => codes.map Char.ofNat
  | none => [(shifts.findSome? fun shift => shift.apply? c.toNat).getD c]

end ApiMock.Unicode
