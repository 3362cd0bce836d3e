import ApiMock.Generator.Compile
import ApiMock.Proofs.Number.Rounding
/-!
# Valid values of schemas

`Schema.Admits` says which values a schema describes, keyword by keyword and without any rule for
making values up. All keywords of a schema hold together, and a keyword that is about another kind
of value than the one at hand asks for nothing. The bounds `minLength` and `maxLength` are about
the number of items of an array, formats are about nothing, and what a reference points at is not
looked into.
-/
namespace ApiMock

/-- The names that a type keyword lists. -/
def TypeKeyword.names : TypeKeyword → List String
  | .single name => [name]
  | .multiple names => names

/-- The types of values. Every integer is a number as well. -/
inductive Json.HasType : Json → String → Prop
  /-- Strings. -/
  | string (text : String) : HasType (.str text) "string"
  /-- Numbers. -/
  | number (n : Number) : HasType (.num n) "number"
  /-- Numbers without a fraction. -/
  | integer (n : Int) : HasType (.num (.integer n)) "integer"
  /-- Truth values. -/
  | boolean (truth : Bool) : HasType (.bool truth) "boolean"
  /-- Null. -/
  | null : HasType .null "null"
  /-- Objects. -/
  | object (members : List (String × Json)) : HasType (.obj members) "object"
  /-- Arrays. -/
  | array (items : List Json) : HasType (.arr items) "array"

namespace Schema

/-- What a schema asks of a number. -/
structure NumberDemands (schema : Schema) (q : ℚ) : Prop where
  /-- It is at least the least number. -/
  minimum : ∀ bound, schema.minimum = some bound → bound.AtMost q
  /-- It is at most the greatest number. -/
  maximum : ∀ bound, schema.maximum = some bound → bound.AtLeast q

/-- What a schema asks of an array; `part` says what the schema of its items asks of each. -/
structure ArrayDemands (part : Schema → Json → Prop) (schema : Schema) (elements : List Json) :
    Prop where
  /-- There are at least as many items as the lower bound says. -/
  minLength : ∀ bound, schema.minLength = some bound → bound ≤ elements.length
  /-- There are at most as many items as the upper bound says. -/
  maxLength : ∀ bound, schema.maxLength = some bound → elements.length ≤ bound
  /-- Every item is valid. -/
  items : ∀ items, schema.items = some items → ∀ element ∈ elements, part items element

/-- What a schema asks of an object; `part` says what the schemas of its members ask of each. -/
structure ObjectDemands (part : Schema → Json → Prop) (schema : Schema) (members : Entries Json) :
    Prop where
  /-- Every declared property is there and valid. -/
  properties : ∀ property ∈ schema.properties.getD [], ∃ value,
    members.get? property.1 = some value ∧ part property.2 value
  /-- Every further member is valid. -/
  additionalProperties : ∀ values, schema.additionalProperties = some (.schema values) →
    ∀ key value, (key, value) ∈ members →
      key ∉ Entries.keys (schema.properties.getD []) → part values value
  /-- There is no further member where none may be. -/
  closed : schema.additionalProperties = some (.allowed false) →
    ∀ key ∈ members.keys, key ∈ Entries.keys (schema.properties.getD [])

/-- What a schema asks of a value; `part` says what its sub-schemas ask. -/
structure Demands (part : Schema → Json → Prop) (schema : Schema) (value : Json) : Prop where
  /-- The value has one of the listed types. -/
  type : ∀ keyword, schema.type = some keyword → ∃ name ∈ keyword.names, value.HasType name
  /-- The value is one of the listed values. -/
  enum : ∀ values, schema.enum = some values → value ∈ values
  /-- The value is valid for all members of a composition. -/
  allOf : ∀ members, schema.allOf = some members → ∀ member ∈ members, part member value
  /-- The value is valid for an alternative. -/
  oneOf : ∀ alternatives, schema.oneOf = some alternatives →
    ∃ alternative ∈ alternatives, part alternative value
  /-- The value is valid for an alternative. -/
  anyOf : ∀ alternatives, schema.anyOf = some alternatives →
    ∃ alternative ∈ alternatives, part alternative value
  /-- A number is within the bounds. -/
  number : ∀ n q, value = .num n → n.rational? = some q → schema.NumberDemands q
  /-- An array has an admissible length and valid items. -/
  array : ∀ elements, value = .arr elements → schema.ArrayDemands part elements
  /-- An object has valid members. -/
  object : ∀ members, value = .obj members → schema.ObjectDemands part members

/-- The value is valid for the schema: it meets the demands, and so does each of its parts for the
sub-schema that is about it. -/
def Admits (schema : Schema) (value : Json) : Prop :=
  schema.Demands (fun part value => ∃ _ : part.depth < schema.depth, Admits part value) value
termination_by schema.depth

/-- A schema of one of the three lists is less deep than the schema. -/
theorem depth_listed_lt {schema listed : Schema} {schemas : List Schema}
    (lists : schema.allOf = some schemas ∨ schema.oneOf = some schemas ∨
      schema.anyOf = some schemas) (member : listed ∈ schemas) : listed.depth < schema.depth := by
  have below := depth_le_depthSchemas member
  cases schema
  simp only at lists
  rcases lists with rfl | rfl | rfl
  all_goals
    simp only [depth, depthSchemas?]
    omega

/-- Demands grow weaker with what the parts ask, and only less deep schemas are parts. -/
theorem Demands.imp {strong weak : Schema → Json → Prop} {schema : Schema} {value : Json}
    (weaken : ∀ part, part.depth < schema.depth → ∀ value, strong part value → weak part value)
    (demands : schema.Demands strong value) : schema.Demands weak value where
  type := demands.type
  enum := demands.enum
  allOf members composed member inside :=
    weaken member (depth_listed_lt (.inl composed) inside) value
      (demands.allOf members composed member inside)
  oneOf alternatives choice := by
    obtain ⟨alternative, member, valid⟩ := demands.oneOf alternatives choice
    exact ⟨alternative, member,
      weaken alternative (depth_listed_lt (.inr (.inl choice)) member) value valid⟩
  anyOf alternatives choice := by
    obtain ⟨alternative, member, valid⟩ := demands.anyOf alternatives choice
    exact ⟨alternative, member,
      weaken alternative (depth_listed_lt (.inr (.inr choice)) member) value valid⟩
  number := demands.number
  array elements equal := by
    obtain ⟨minLength, maxLength, items⟩ := demands.array elements equal
    exact ⟨minLength, maxLength, fun item found element member =>
      weaken item (depth_items_lt found) element (items item found element member)⟩
  object members equal := by
    obtain ⟨properties, additional, closed⟩ := demands.object members equal
    refine ⟨fun property member => ?_, fun values found key value member further =>
      weaken values (depth_additional_lt found) value
        (additional values found key value member further), closed⟩
    obtain ⟨value, read, valid⟩ := properties property member
    exact ⟨value, read, weaken property.2 (depth_property_lt member) value valid⟩

/-- A value is valid exactly when it meets the demands of the schema and its parts are valid. -/
theorem admits_iff {schema : Schema} {value : Json} :
    schema.Admits value ↔ schema.Demands Admits value := by
  rw [Admits]
  exact ⟨Demands.imp fun _ _ _ ⟨_, valid⟩ => valid,
    Demands.imp fun _ less _ valid => ⟨less, valid⟩⟩

end Schema

end ApiMock
