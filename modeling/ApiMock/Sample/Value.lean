import ApiMock.Generator.Compile
import ApiMock.Generator.Expression
import ApiMock.Sample.Strings

/-!
# Values of generators

A random value of a generator, as the expressions of the mock module would make it up. Components
of the schema registry are compiled without a registry, so that none of them refers to another and
a value of one needs no further look-up.
-/
namespace ApiMock

namespace Sample

/-- The greatest integer up to which all are exact numbers of the format binary64. -/
def maxInteger : Nat := 2 ^ 53 - 1

/-- The greatest length of a sampled array. -/
def maxArrayLength : Nat := 1000

/-- The least integer that a lower bound admits; without one it is zero. -/
def leastInteger (minimum : Option Binary64) : Int :=
  (minimum.map (Binary64.ceilWithin maxInteger)).getD 0

/-- The greatest integer that an upper bound admits. -/
def greatestInteger (maximum : Option Binary64) : Int :=
  (maximum.map (Binary64.floorWithin maxInteger)).getD maxInteger

variable {σ : Type} [WordSource σ]

/-- An integer between bounds. Where there is at most one, or none, it is the least. -/
def integer (minimum maximum : Option Binary64) : StateM σ Int :=
  let low := leastInteger minimum
  let high := greatestInteger maximum
  if high ≤ low then return low else Random.between low high

/-- The length of an array between bounds, both of them capped. Where there is at most one, or
none, it is the least. -/
def arrayLength (minimum : Nat) (maximum : LengthBound) : StateM σ Nat :=
  let low := min minimum maxArrayLength
  let high := min maximum.value maxArrayLength
  if high ≤ low then return low else do return low + (← Random.belowWide (high - low + 1))

/-- The keys of an object with made-up keys: distinct words. -/
def recordKeys : StateM σ (List String) := do
  let positions ← Random.positions vocabulary.length recordSize
  return positions.map fun position => vocabulary.getD position ""

/-- Values under keys, drawn in the order of the keys. -/
def underKeys (draw : StateM σ Json) : List String → StateM σ (List (String × Json))
  | [] => return []
  | key :: rest => do
    let value ← draw
    let members ← underKeys draw rest
    return (key, value) :: members

end Sample

namespace Generator

variable {σ : Type} [WordSource σ]

mutual

/-- A value of a generator; `component` supplies the values of registry components. -/
def sampleWith (component : String → StateM σ Json) (now : Instant) : Generator → StateM σ Json
  | null => return .null
  | literal value => return value
  | oneOf alternatives =>
    if alternatives.isEmpty then return .null
    else do
      let place ← Random.below alternatives.length
      sampleAt component now alternatives place
  | registry name => component name
  | enum values => do return (← Random.choose? values).getD .null
  | text kind => do return .str (← Sample.text now kind)
  | integer minimum maximum => do
    return .num (.integer (← Sample.integer minimum maximum))
  | boolean => do return .bool (← Random.truth)
  | record values => do
    let keys ← Sample.recordKeys
    return .obj (← Sample.underKeys (sampleWith component now values) keys)
  | object properties => do
    return .obj (Entries.ofWrites (← sampleProperties component now properties))
  | array minimum maximum items => do
    let length ← Sample.arrayLength minimum maximum
    return .arr (← Random.repeated (sampleWith component now items) length)

/-- A value of the generator at a place of a list. -/
def sampleAt (component : String → StateM σ Json) (now : Instant) :
    List Generator → Nat → StateM σ Json
  | [], _ => return .null
  | generator :: _, 0 => sampleWith component now generator
  | _ :: rest, place + 1 => sampleAt component now rest place

/-- Values of named generators, in order. -/
def sampleProperties (component : String → StateM σ Json) (now : Instant) :
    List (String × Generator) → StateM σ (List (String × Json))
  | [] => return []
  | (name, generator) :: rest => do
    let value ← sampleWith component now generator
    let members ← sampleProperties component now rest
    return (name, value) :: members

end

end Generator

/-- The generators of the components of a schema registry. -/
abbrev Registry := Entries Generator

namespace Registry

/-- The registry of schema components. They are compiled without a registry. -/
def ofComponents (options : Options) (components : Entries Schema) : Registry :=
  components.map fun entry =>
    (entry.1, entry.2.generator { options with registryModule := none } none)

variable {σ : Type} [WordSource σ]

/-- A value of a component; an unknown one gives null, as does a reference within one. -/
def sample (registry : Registry) (now : Instant) (name : String) : StateM σ Json :=
  match Entries.get? registry name with
  | some generator => generator.sampleWith (fun _ => return .null) now
  | none => return .null

end Registry

/-- A value of a generator, with the components of a registry. -/
def Generator.sample {σ : Type} [WordSource σ] (registry : Registry) (now : Instant)
    (generator : Generator) : StateM σ Json :=
  generator.sampleWith (registry.sample now) now

end ApiMock
