import ApiMock.Generator.StringKind
import ApiMock.Json.Basic

/-!
# Generators

A generator describes how a value is made up. It has two readings: the expression rendered into
the mock module, and the values that sampling draws from it.
-/
namespace ApiMock

/-- The greatest length of a generated array. -/
inductive LengthBound where
  /-- The schema names it. -/
  | declared (length : Nat)
  /-- The options supply it. -/
  | configured (length : Nat)
  deriving DecidableEq, Repr

/-- The number of a bound, wherever it comes from. -/
def LengthBound.value : LengthBound → Nat
  | declared length => length
  | configured length => length

/-- A description of how a value is made up. -/
inductive Generator where
  /-- Always null. -/
  | null
  /-- Always the given value. -/
  | literal (value : Json)
  /-- A value of one of the alternatives. -/
  | oneOf (alternatives : List Generator)
  /-- A value of a component of the schema registry. -/
  | registry (name : String)
  /-- One of the given values. -/
  | enum (values : List Json)
  /-- A string of a kind. -/
  | text (kind : StringKind)
  /-- An integer between optional bounds. -/
  | integer (minimum maximum : Option Binary64)
  /-- A truth value. -/
  | boolean
  /-- An object with made-up keys. -/
  | record (values : Generator)
  /-- An object with given keys. -/
  | object (properties : List (String × Generator))
  /-- An array with a length between two bounds. -/
  | array (minimum : Nat) (maximum : LengthBound) (items : Generator)
  deriving Inhabited, Repr

/-- Whether a generator is the one that always gives null. -/
def Generator.isNull : Generator → Bool
  | null => true
  | _ => false

end ApiMock
