import ApiMock.Entries
import ApiMock.Number.Binary64

/-!
# JSON values

Values of JSON texts with objects in document order. Integers and fractions are kept apart, as
they are written apart.
-/
namespace ApiMock

/-- A number of a JSON text. -/
inductive Number where
  /-- A number written without fraction and exponent. -/
  | integer (value : Int)
  /-- Any other number. -/
  | float (value : Binary64)
  deriving DecidableEq, Repr

namespace Number

/-- The nearest number of the format binary64. -/
def toBinary64 : Number → Binary64
  | integer value => Binary64.ofInt value
  | float value => value

end Number

/-- A JSON value. -/
inductive Json where
  /-- The value null. -/
  | null
  /-- A truth value. -/
  | bool (value : Bool)
  /-- A number. -/
  | num (value : Number)
  /-- A string. -/
  | str (value : String)
  /-- An array. -/
  | arr (items : List Json)
  /-- An object with its members in document order. -/
  | obj (members : List (String × Json))
  deriving Inhabited, Repr

namespace Json

/-- The empty object. -/
def empty : Json := obj []

/-- The members of an object. -/
def members? : Json → Option (Entries Json)
  | obj members => some members
  | _ => none

/-- The items of an array. -/
def items? : Json → Option (List Json)
  | arr items => some items
  | _ => none

/-- The text of a string. -/
def text? : Json → Option String
  | str value => some value
  | _ => none

/-- The value under a key of an object; nothing for any other value. -/
def get? (value : Json) (key : String) : Option Json :=
  value.members?.bind fun members => Entries.get? members key

/-- The string under a key of an object. -/
def getText? (value : Json) (key : String) : Option String := (value.get? key).bind text?

/-- The value unless it is null. -/
def nonNull? : Json → Option Json
  | null => none
  | value => some value

/-- Whether a value is an object. -/
def isObject : Json → Bool
  | obj _ => true
  | _ => false

/-- Write a member into an object; other values stay as they are. -/
def setMember (value : Json) (key : String) (member : Json) : Json :=
  match value with
  | obj members => obj (Entries.insert members key member)
  | value => value

mutual

/-- Equality of values is decided member by member. -/
def decideEq : (left right : Json) → Decidable (left = right)
  | null, right => match right with
    | null => isTrue rfl
    | bool _ | num _ | str _ | arr _ | obj _ => isFalse nofun
  | bool a, right => match right with
    | bool b => decidable_of_iff (a = b) (by simp)
    | null | num _ | str _ | arr _ | obj _ => isFalse nofun
  | num a, right => match right with
    | num b => decidable_of_iff (a = b) (by simp)
    | null | bool _ | str _ | arr _ | obj _ => isFalse nofun
  | str a, right => match right with
    | str b => decidable_of_iff (a = b) (by simp)
    | null | bool _ | num _ | arr _ | obj _ => isFalse nofun
  | arr a, right => match right with
    | arr b =>
      match decideItems a b with
      | isTrue equal => isTrue (by rw [equal])
      | isFalse differ => isFalse fun equal => differ (by injection equal)
    | null | bool _ | num _ | str _ | obj _ => isFalse nofun
  | obj a, right => match right with
    | obj b =>
      match decideMembers a b with
      | isTrue equal => isTrue (by rw [equal])
      | isFalse differ => isFalse fun equal => differ (by injection equal)
    | null | bool _ | num _ | str _ | arr _ => isFalse nofun

/-- Equality of lists of values. -/
def decideItems : (left right : List Json) → Decidable (left = right)
  | [], [] => isTrue rfl
  | [], _ :: _ => isFalse nofun
  | _ :: _, [] => isFalse nofun
  | a :: as, b :: bs =>
    match decideEq a b, decideItems as bs with
    | isTrue head, isTrue tail => isTrue (by rw [head, tail])
    | isFalse differ, _ => isFalse fun equal => differ (by injection equal)
    | _, isFalse differ => isFalse fun equal => differ (by injection equal)

/-- Equality of lists of members. -/
def decideMembers : (left right : List (String × Json)) → Decidable (left = right)
  | [], [] => isTrue rfl
  | [], _ :: _ => isFalse nofun
  | _ :: _, [] => isFalse nofun
  | (j, a) :: as, (k, b) :: bs =>
    match decEq j k, decideEq a b, decideMembers as bs with
    | isTrue key, isTrue head, isTrue tail => isTrue (by rw [key, head, tail])
    | isFalse differ, _, _ => isFalse fun equal => differ (by injections)
    | _, isFalse differ, _ => isFalse fun equal => differ (by injections)
    | _, _, isFalse differ => isFalse fun equal => differ (by injection equal)

end

instance : DecidableEq Json := decideEq

end Json

end ApiMock
