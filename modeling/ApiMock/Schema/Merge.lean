import ApiMock.Json.Merge
import ApiMock.Schema.Basic

/-!
# Merging schemas

Laying one schema over another, keyword by keyword. A keyword of the top schema wins; where both
have sub-schemas, literals or lists under a keyword, these merge in turn, lists place by place.
-/
namespace ApiMock.Schema

/-- Lay a list over another, place by place; the longer one decides the length. -/
def overlay {α : Type} (base top : List α) : List α := top ++ base.drop top.length

/-- Lay a type keyword over another: two lists merge place by place. -/
def mergeType : (base top : Option TypeKeyword) → Option TypeKeyword
  | some (.multiple base), some (.multiple top) => some (.multiple (overlay base top))
  | base, top => top.or base

/-- Lay a list of literals over another. -/
def mergeEnum : (base top : Option (List Json)) → Option (List Json)
  | some base, some top => some (Json.mergeItems base top)
  | base, top => top.or base

/-- Lay a documented value over another. -/
def mergeExample : (base top : Option Json) → Option Json
  | some base, some top => some (Json.merge base top)
  | base, top => top.or base

mutual

/-- Lay a schema over `base`. -/
def merged (base : Schema) : Schema → Schema
  | ⟨type, format, enum, exampleValue, minimum, maximum, minLength, maxLength, properties,
      additionalProperties, items, allOf, oneOf, anyOf, reference, refName⟩ =>
    { type := mergeType base.type type
      format := format.or base.format
      enum := mergeEnum base.enum enum
      exampleValue := mergeExample base.exampleValue exampleValue
      minimum := minimum.or base.minimum
      maximum := maximum.or base.maximum
      minLength := minLength.or base.minLength
      maxLength := maxLength.or base.maxLength
      properties := mergeProperties? base.properties properties
      additionalProperties := mergeAdditional? base.additionalProperties additionalProperties
      items := mergeSchema? base.items items
      allOf := mergeSchemas? base.allOf allOf
      oneOf := mergeSchemas? base.oneOf oneOf
      anyOf := mergeSchemas? base.anyOf anyOf
      reference := reference.or base.reference
      refName := refName.or base.refName }
termination_by structural top => top

/-- Lay an optional schema over another. -/
def mergeSchema? : (base top : Option Schema) → Option Schema
  | base, none => base
  | none, some new => some new
  | some old, some new => some (merged old new)
termination_by structural _ top => top

/-- Lay further properties over others: two schemas merge, and otherwise the top form wins. -/
def mergeAdditional? : (base top : Option (Additional Schema)) → Option (Additional Schema)
  | base, none => base
  | _, some (.allowed value) => some (.allowed value)
  | some (.schema old), some (.schema new) => some (.schema (merged old new))
  | _, some (.schema new) => some (.schema new)
termination_by structural _ top => top

/-- Lay optional properties over others. -/
def mergeProperties? : (base top : Option (List (String × Schema))) →
    Option (List (String × Schema))
  | base, none => base
  | none, some new => some new
  | some old, some new => some (mergeProperties old new)
termination_by structural _ top => top

/-- Lay properties over properties: known names keep their place, new ones follow in order. -/
def mergeProperties (base : List (String × Schema)) :
    List (String × Schema) → List (String × Schema)
  | [] => base
  | (name, schema) :: rest =>
    let merged := match Entries.get? base name with
      | some old => merged old schema
      | none => schema
    mergeProperties (Entries.insert base name merged) rest
termination_by structural top => top

/-- Lay an optional list of schemas over another. -/
def mergeSchemas? : (base top : Option (List Schema)) → Option (List Schema)
  | base, none => base
  | none, some new => some new
  | some old, some new => some (mergeSchemas old new)
termination_by structural _ top => top

/-- Lay schemas over schemas, place by place; the longer list decides the length. -/
def mergeSchemas : (base top : List Schema) → List Schema
  | base, [] => base
  | [], top => top
  | old :: base, new :: top => merged old new :: mergeSchemas base top
termination_by structural _ top => top

end

/-- The merge of any number of schemas, each laid over those before it. -/
def mergeAll (schemas : List Schema) : Schema := schemas.foldl merged {}

end ApiMock.Schema
