import ApiMock.Json.Decode
import ApiMock.Schema.Basic

/-!
# Reading schemas

A schema is read off an object whose keys are keywords, or off a list that gives all sixteen
keywords in their order. Null counts as an absent keyword and unknown keys are ignored. The first
refusal in document order is the one reported.
-/
namespace ApiMock

/-- The keywords of a schema. -/
inductive Keyword where
  | type
  | format
  | enum
  | exampleValue
  | minimum
  | maximum
  | minLength
  | maxLength
  | properties
  | additionalProperties
  | items
  | allOf
  | oneOf
  | anyOf
  | reference
  | refName
  deriving DecidableEq, Repr

namespace Keyword

/-- The keywords in the order of the list form. -/
def all : List Keyword :=
  [type, format, enum, exampleValue, minimum, maximum, minLength, maxLength, properties,
    additionalProperties, items, allOf, oneOf, anyOf, reference, refName]

/-- The key that a document writes for a keyword. -/
def key : Keyword → String
  | type => "type"
  | format => "format"
  | enum => "enum"
  | exampleValue => "example"
  | minimum => "minimum"
  | maximum => "maximum"
  | minLength => "minLength"
  | maxLength => "maxLength"
  | properties => "properties"
  | additionalProperties => "additionalProperties"
  | items => "items"
  | allOf => "allOf"
  | oneOf => "oneOf"
  | anyOf => "anyOf"
  | reference => "$ref"
  | refName => "x-ref-name"

/-- The keyword that a key stands for. -/
def ofKey? (key : String) : Option Keyword := all.find? fun keyword => keyword.key == key

end Keyword

/-- One type name or a list of them. -/
def TypeKeyword.ofJson : Json → Except DecodeError TypeKeyword
  | .str name => .ok (.single name)
  | .arr items =>
    match items.mapM Json.text? with
    | some names => .ok (.multiple names)
    | none => .error (.noAlternative .schemaType)
  | _ => .error (.noAlternative .schemaType)

namespace Schema

/-- Read one keyword from a value that holds no schema under it. -/
def setPlain (schema : Schema) (keyword : Keyword) (value : Json) : Except DecodeError Schema :=
  match keyword with
  | .type => (TypeKeyword.ofJson value).map fun type => { schema with type := some type }
  | .format => value.decodeText.map fun format => { schema with format := some format }
  | .enum => value.decodeItems.map fun values => { schema with enum := some values }
  | .exampleValue => .ok { schema with exampleValue := some value }
  | .minimum => value.decodeNumber.map fun minimum => { schema with minimum := some minimum }
  | .maximum => value.decodeNumber.map fun maximum => { schema with maximum := some maximum }
  | .minLength => value.decodeNat.map fun least => { schema with minLength := some least }
  | .maxLength => value.decodeNat.map fun greatest => { schema with maxLength := some greatest }
  | .properties => .error (.invalidType value .map)
  | .additionalProperties =>
    match value with
    | .bool allowed => .ok { schema with additionalProperties := some (.allowed allowed) }
    | _ => .error (.noAlternative .additionalProperties)
  | .items => .error (.invalidType value .schema)
  | .allOf | .oneOf | .anyOf => .error (.invalidType value .sequence)
  | .reference => value.decodeText.map fun pointer => { schema with reference := some pointer }
  | .refName => value.decodeText.map fun name => { schema with refName := some name }

/-- Put the schema of further properties into a schema. What is wrong within it is not told. -/
def setAdditional (schema : Schema) :
    Except DecodeError Schema → Except DecodeError Schema
  | .ok values => .ok { schema with additionalProperties := some (.schema values) }
  | .error _ => .error (.noAlternative .additionalProperties)

mutual

/-- The schema that a value describes. -/
def ofJson : Json → Except DecodeError Schema
  | .obj members => ofMembers {} members
  | .arr items => ofItems {} items.length Keyword.all items
  | value => .error (.invalidType value .schema)
termination_by structural value => value

/-- Read the members of an object, in order, into a schema. -/
def ofMembers (schema : Schema) : List (String × Json) → Except DecodeError Schema
  | [] => .ok schema
  | (key, value) :: rest =>
    match Keyword.ofKey? key with
    | none => ofMembers schema rest
    | some keyword =>
      match setKeyword schema keyword value with
      | .ok schema => ofMembers schema rest
      | .error cause => .error cause
termination_by structural members => members

/-- Read the items of a list of `length` items into the keywords that are left. -/
def ofItems (schema : Schema) (length : Nat) :
    List Keyword → List Json → Except DecodeError Schema
  | [], [] => .ok schema
  | [], _ :: _ => .error (.tooLong length)
  | _ :: _, [] => .error (.tooShort length)
  | keyword :: keywords, value :: rest =>
    match setKeyword schema keyword value with
    | .ok schema => ofItems schema length keywords rest
    | .error cause => .error cause
termination_by structural _ items => items

/-- Read one keyword into a schema. -/
def setKeyword (schema : Schema) (keyword : Keyword) : Json → Except DecodeError Schema
  | .null => .ok schema
  | .arr items =>
    match keyword with
    | .additionalProperties => setAdditional schema (ofItems {} items.length Keyword.all items)
    | .items =>
      (ofItems {} items.length Keyword.all items).map fun items =>
        { schema with items := some items }
    | .allOf => (ofList items).map fun schemas => { schema with allOf := some schemas }
    | .oneOf => (ofList items).map fun schemas => { schema with oneOf := some schemas }
    | .anyOf => (ofList items).map fun schemas => { schema with anyOf := some schemas }
    | _ => setPlain schema keyword (.arr items)
  | .obj members =>
    match keyword with
    | .additionalProperties => setAdditional schema (ofMembers {} members)
    | .items => (ofMembers {} members).map fun items => { schema with items := some items }
    | .properties =>
      (ofProperties members).map fun properties => { schema with properties := some properties }
    | _ => setPlain schema keyword (.obj members)
  | value => setPlain schema keyword value
termination_by structural value => value

/-- Read a list of schemas. -/
def ofList : List Json → Except DecodeError (List Schema)
  | [] => .ok []
  | value :: rest =>
    match ofJson value with
    | .ok schema => (ofList rest).map (schema :: ·)
    | .error cause => .error cause
termination_by structural items => items

/-- Read named schemas. -/
def ofProperties : List (String × Json) → Except DecodeError (List (String × Schema))
  | [] => .ok []
  | (name, value) :: rest =>
    match ofJson value with
    | .ok schema => (ofProperties rest).map ((name, schema) :: ·)
    | .error cause => .error cause
termination_by structural members => members

end

end Schema

end ApiMock
