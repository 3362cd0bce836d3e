import ApiMock.Generator.StringKind
import ApiMock.Json.Writer
import ApiMock.Random.Source
import ApiMock.Sample.Instant

/-!
# Made-up strings

A random string of each kind, put together from short lists of words and names.
-/
namespace ApiMock.Sample

/-- Words for keys, slugs and domains. -/
def vocabulary : List String :=
  ["alias", "amet", "aut", "beatae", "culpa", "dolor", "dolorem", "eius", "error", "harum",
    "ipsum", "iure", "labore", "magnam", "minus", "nemo", "nihil", "odio", "omnis", "quas",
    "quia", "sequi", "sunt", "velit"]

/-- First names of persons. -/
def firstNames : List String :=
  ["Ada", "Alan", "Barbara", "Dennis", "Edsger", "Grace", "Ken", "Linus", "Margaret", "Niklaus"]

/-- Last names of persons. -/
def lastNames : List String :=
  ["Hamilton", "Hopper", "Kernighan", "Knuth", "Liskov", "Lovelace", "Ritchie", "Thompson",
    "Turing", "Wirth"]

/-- Top levels of domains. -/
def topLevels : List String := ["com", "net", "org", "io", "dev"]

/-- How far back a past date lies at most: a year in milliseconds. -/
def yearLength : Int := 365 * Instant.dayLength

variable {σ : Type} [WordSource σ]

/-- One of some texts. -/
def oneText (texts : List String) : StateM σ String := do
  return (← Random.choose? texts).getD ""

/-- A domain. Its top level is drawn first. -/
def domain : StateM σ String := do
  let top ← oneText topLevels
  let name ← oneText vocabulary
  return name ++ "." ++ top

/-- A date of the past year. -/
def pastDate (now : Instant) : StateM σ String := do
  let offset ← Random.between 1 yearLength
  return Instant.text (now - offset)

/-- The text of sixteen bytes as a random identifier: version and variant take the place of six of
their bits. -/
def identifierText (bytes : List Nat) : String :=
  let marked := bytes.zipIdx.map fun entry =>
    if entry.2 = 6 then 0x40 + entry.1 % 16
    else if entry.2 = 8 then 0x80 + entry.1 % 64
    else entry.1
  let digits := marked.flatMap fun byte => [hexDigit (byte / 16), hexDigit byte]
  let part (start length : Nat) : String := String.ofList ((digits.drop start).take length)
  "-".intercalate [part 0 8, part 8 4, part 12 4, part 16 4, part 20 12]

/-- A string of a kind. -/
def text (now : Instant) : StringKind → StateM σ String
  | .pastDate => pastDate now
  | .uuid => do return identifierText (← Random.repeated (Random.lowBits 8) 16)
  | .email => do
    let first ← oneText firstNames
    let last ← oneText lastNames
    return Text.lowerAscii first ++ "." ++ Text.lowerAscii last ++ "@" ++ (← domain)
  | .domainName => domain
  | .ipv4 => do
    return ".".intercalate ((← Random.repeated (Random.lowBits 8) 4).map Nat.repr)
  | .ipv6 => do
    return ":".intercalate ((← Random.repeated (Random.lowBits 16) 8).map fun group =>
      String.ofList (Nat.toDigits 16 group))
  | .imageUrl => do return "https://picsum.photos/seed/" ++ (← oneText vocabulary) ++ "/640/480"
  | .url => do return "https://" ++ (← domain) ++ "/"
  | .fullName => do
    let first ← oneText firstNames
    let last ← oneText lastNames
    return first ++ " " ++ last
  | .slug => oneText vocabulary

end ApiMock.Sample
