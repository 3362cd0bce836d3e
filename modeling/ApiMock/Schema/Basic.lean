import ApiMock.Json.Basic

/-!
# Schemas

The description of a response body: the sixteen keywords of a schema that decide what values
look like. Every keyword is optional, and sub-schemas stand below six of them.
-/
namespace ApiMock

/-- The keyword `type`. -/
inductive TypeKeyword where
  /-- One type. -/
  | single (name : String)
  /-- A choice of types. -/
  | multiple (names : List String)
  deriving DecidableEq, Repr

/-- The keyword `additionalProperties`. -/
inductive Additional (σ : Type) where
  /-- Whether further properties may occur. -/
  | allowed (value : Bool)
  /-- What the values of further properties look like. -/
  | schema (values : σ)
  deriving DecidableEq, Repr

/-- A schema node. -/
structure Schema where
  /-- The type or types of the value. -/
  type : Option TypeKeyword := none
  /-- The kind of string. -/
  format : Option String := none
  /-- The list of the possible values. -/
  enum : Option (List Json) := none
  /-- A documented value. -/
  exampleValue : Option Json := none
  /-- The least number. -/
  minimum : Option Binary64 := none
  /-- The greatest number. -/
  maximum : Option Binary64 := none
  /-- The least number of items of an array. -/
  minLength : Option Nat := none
  /-- The greatest number of items of an array. -/
  maxLength : Option Nat := none
  /-- The properties of an object, in order. -/
  properties : Option (List (String × Schema)) := none
  /-- Further properties of an object. -/
  additionalProperties : Option (Additional Schema) := none
  /-- The items of an array. -/
  items : Option Schema := none
  /-- Schemas that hold together. -/
  allOf : Option (List Schema) := none
  /-- Schemas of which one holds. -/
  oneOf : Option (List Schema) := none
  /-- Schemas of which some hold. -/
  anyOf : Option (List Schema) := none
  /-- A pointer to a component that was left in place. -/
  reference : Option String := none
  /-- The component that this schema was expanded from. -/
  refName : Option String := none
  deriving Inhabited

namespace Schema

/-- The schema of one type and nothing else. -/
def ofType (name : String) : Schema := { type := some (.single name) }

/-- The last segment of a pointer, after its last slash. -/
def pointerTail (pointer : List Char) : List Char :=
  (pointer.reverse.takeWhile (· != '/')).reverse

/-- The component that a schema names, if any. A pointer left in place wins over the mark of an
expansion, and a pointer that ends in a slash names nothing. -/
def referenceName (schema : Schema) : Option String :=
  match schema.reference with
  | some pointer =>
    let name := String.ofList (pointerTail pointer.toList)
    if name.isEmpty then none else some name
  | none => schema.refName

end Schema

end ApiMock
