import ApiMock.Json.Writer
import ApiMock.Text.Quoted

/-!
# Decoding values

Typed values are read off JSON values. A decoder either accepts a value or names the cause of
its refusal; `DecodeError.message` is the only place where causes are worded.
-/
namespace ApiMock

/-- What a decoder asks of a value. -/
inductive Expectation where
  | string
  | boolean
  /-- A natural number below `2 ^ 64`. -/
  | natural
  /-- Any number. -/
  | number
  | sequence
  | map
  /-- A schema node. -/
  | schema
  /-- Generation options. -/
  | options
  /-- A whole document. -/
  | document
  /-- The information block of a document. -/
  | info
  /-- A path item of a document. -/
  | pathItem
  deriving DecidableEq, Repr

/-- Keywords whose value has one of several forms. -/
inductive Alternatives where
  /-- One type name or a list of them. -/
  | schemaType
  /-- A truth value or a schema. -/
  | additionalProperties
  deriving DecidableEq, Repr

/-- Why a value is refused. -/
inductive DecodeError where
  /-- The value is of another kind. -/
  | invalidType (found : Json) (expected : Expectation)
  /-- A negative integer stands where a natural is asked for. -/
  | negative (value : Int)
  /-- A schema in list form has too few entries. -/
  | tooShort (length : Nat)
  /-- A list form has too many entries. -/
  | tooLong (length : Nat)
  /-- The value has none of the forms of its keyword. -/
  | noAlternative (keyword : Alternatives)
  /-- A field is given twice. -/
  | duplicateField (name : String)
  /-- A required field is absent. -/
  | missingField (name : String)
  deriving DecidableEq, Repr

/-- How a message names what was asked for. -/
def Expectation.text : Expectation → String
  | string => "a string"
  | boolean => "a boolean"
  | natural => "u64"
  | number => "f64"
  | sequence => "a sequence"
  | map => "a map"
  | schema => "struct SchemaNode"
  | options => "struct GenerationOptions"
  | document => "struct Spec"
  | info => "struct Info"
  | pathItem => "struct PathItem"

/-- How a message names a keyword with several forms. -/
def Alternatives.text : Alternatives → String
  | schemaType => "SchemaType"
  | additionalProperties => "AdditionalProperties"

/-- A text between the quotes of code. -/
def codeQuoted (text : String) : String := "\x60" ++ text ++ "\x60"

/-- How a message names a value of an unexpected kind. -/
def Json.describe : Json → String
  | null => "null"
  | bool value => "boolean " ++ codeQuoted (if value then "true" else "false")
  | num (.integer value) => "integer " ++ codeQuoted (integerText value)
  | num (.float value) => "floating point " ++ codeQuoted (NumberLayout.json.write value)
  | str value => "string " ++ Text.quoted value
  | arr _ => "sequence"
  | obj _ => "map"

/-- The wording of a refusal. -/
def DecodeError.message : DecodeError → String
  | invalidType found expected =>
    "invalid type: " ++ found.describe ++ ", expected " ++ expected.text
  | negative value =>
    "invalid value: integer " ++ codeQuoted (integerText value) ++ ", expected u64"
  | tooShort length =>
    "invalid length " ++ Nat.repr length ++ ", expected struct SchemaNode with 16 elements"
  | tooLong length =>
    "invalid length " ++ Nat.repr length ++ ", expected fewer elements in array"
  | noAlternative keyword =>
    "data did not match any variant of untagged enum " ++ keyword.text
  | duplicateField name => "duplicate field " ++ codeQuoted name
  | missingField name => "missing field " ++ codeQuoted name

namespace Json

/-- The text of a string. -/
def decodeText : Json → Except DecodeError String
  | str value => .ok value
  | value => .error (.invalidType value .string)

/-- A truth value. -/
def decodeBool : Json → Except DecodeError Bool
  | bool value => .ok value
  | value => .error (.invalidType value .boolean)

/-- A natural number; a float is refused even when it is whole. -/
def decodeNat : Json → Except DecodeError Nat
  | num (.integer value) => if value < 0 then .error (.negative value) else .ok value.toNat
  | value => .error (.invalidType value .natural)

/-- Any number, as the nearest one of the format binary64. -/
def decodeNumber : Json → Except DecodeError Binary64
  | num value => .ok value.toBinary64
  | value => .error (.invalidType value .number)

/-- The items of an array. -/
def decodeItems : Json → Except DecodeError (List Json)
  | arr items => .ok items
  | value => .error (.invalidType value .sequence)

/-- An optional value: null counts as absent. -/
def decodeOptional {α : Type} (decode : Json → Except DecodeError α) :
    Json → Except DecodeError (Option α)
  | null => .ok none
  | value => (decode value).map some

end Json

end ApiMock
