import ApiMock.Generator.Basic
import ApiMock.Json.Writer

/-!
# Generators as expressions

The expression of the mock module that makes up the values of a generator. Literals appear as
compact JSON texts, and everything random is a call of the faker library.
-/
namespace ApiMock

/-- The number of keys of an object with made-up keys. -/
def recordSize : Nat := 5

/-- The name of the constant that holds the configured array length. -/
def arrayLengthName : String := "MAX_ARRAY_LENGTH"

/-- A numeric bound; one that is not finite is left undefined. -/
def boundText (bound : Binary64) : String :=
  if bound.isFinite then NumberLayout.plain.write bound else "undefined"

/-- The argument of the call that makes up an integer. -/
def rangeText : (minimum maximum : Option Binary64) → String
  | none, none => ""
  | some low, none => "\x7b min: " ++ boundText low ++ " \x7d"
  | none, some high => "\x7b max: " ++ boundText high ++ " \x7d"
  | some low, some high => "\x7b min: " ++ boundText low ++ ", max: " ++ boundText high ++ " \x7d"

/-- The greatest length of an array: its number if the schema names it, else the constant. -/
def LengthBound.text : LengthBound → String
  | declared length => Nat.repr length
  | configured _ => arrayLengthName

namespace Generator

mutual

/-- The expression of a generator. -/
def expression : Generator → String
  | null => "null"
  | literal value => value.write
  | oneOf alternatives =>
    "faker.helpers.arrayElement([" ++ ", ".intercalate (expressions alternatives) ++ "])"
  | registry name => "generateMock(schemas." ++ name ++ ")"
  | enum values => "faker.helpers.arrayElement(" ++ (Json.arr values).write ++ ")"
  | text kind => kind.call
  | integer minimum maximum => "faker.number.int(" ++ rangeText minimum maximum ++ ")"
  | boolean => "faker.datatype.boolean()"
  | record values =>
    "Object.fromEntries(faker.helpers.uniqueArray(() => faker.lorem.word(), " ++
      Nat.repr recordSize ++ ").map(key => [key, " ++ expression values ++ "]))"
  | object properties =>
    if properties.isEmpty then "\x7b\x7d"
    else "\x7b " ++ ", ".intercalate (propertyExpressions properties) ++ " \x7d"
  | array minimum maximum items =>
    "[...new Array(faker.number.int(\x7b min: " ++ Nat.repr minimum ++ ", max: " ++ maximum.text ++
      " \x7d)).keys()].map(_ => (" ++ expression items ++ "))"

/-- The expressions of a list of generators. -/
def expressions : List Generator → List String
  | [] => []
  | generator :: rest => expression generator :: expressions rest

/-- The members of an object expression. -/
def propertyExpressions : List (String × Generator) → List String
  | [] => []
  | (name, generator) :: rest =>
    (Json.quote name ++ ": " ++ expression generator) :: propertyExpressions rest

end

end Generator

end ApiMock
