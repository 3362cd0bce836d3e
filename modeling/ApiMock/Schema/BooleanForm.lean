import ApiMock.Json.Basic

/-!
# Boolean schemas

A truth value may stand wherever a schema is expected. Such schemas say nothing about the shape
of a value and are replaced by the empty schema. The truth value of `additionalProperties` is no
schema and stays.
-/
namespace ApiMock.Json

mutual

/-- Replace the boolean schemas in a schema position and beneath it. -/
def normalize : Json → Json
  | bool _ => empty
  | obj members => obj (normalizeKeywords members)
  | value => value

/-- Replace the boolean schemas beneath the keywords of a schema. -/
def normalizeKeywords : List (String × Json) → List (String × Json)
  | [] => []
  | (key, value) :: rest =>
    let normalized :=
      if key = "items" then normalize value
      else if key = "properties" then normalizeProperties value
      else if key = "additionalProperties" then normalizeAdditional value
      else if key = "allOf" ∨ key = "oneOf" ∨ key = "anyOf" then normalizeList value
      else value
    (key, normalized) :: normalizeKeywords rest

/-- Replace the boolean schemas among named schemas. -/
def normalizeProperties : Json → Json
  | obj members => obj (normalizeMembers members)
  | value => value

/-- Replace the boolean schemas beneath the schema of further properties. -/
def normalizeAdditional : Json → Json
  | obj members => obj (normalizeKeywords members)
  | value => value

/-- Replace the boolean schemas of a list. -/
def normalizeList : Json → Json
  | arr items => arr (normalizeItems items)
  | value => value

/-- Replace each member's boolean schemas. -/
def normalizeMembers : List (String × Json) → List (String × Json)
  | [] => []
  | (key, value) :: rest => (key, normalize value) :: normalizeMembers rest

/-- Replace each item's boolean schemas. -/
def normalizeItems : List Json → List Json
  | [] => []
  | item :: rest => normalize item :: normalizeItems rest

end

end ApiMock.Json
