import ApiMock.Document.Operation

/-!
# The document model

The typed model of a whole document is stricter than a mock needs. Checking a document against it
is the task of a deserializer that is not part of the library: a `ModelCheck` is any such check, and
loading takes one. The check that runs here, `modelCheck`, stands in for it and knows less of the
model: that the version and the information block are required, and that every path item is an
object. `nonConformity?` finds the first departure from that in document order. It accepts what the
model refuses elsewhere, such as a number in place of the servers or of an operation.

A document that went through the model comes out in the model's order: maps by name, verbs and
keywords in a fixed order. Empty lists, absent values and what the model does not know are left out.
-/
namespace ApiMock

/-- The entries of a map in the order of their keys. -/
def Entries.sorted {α : Type} (entries : Entries α) : Entries α :=
  entries.mergeSort fun left right => left.1 ≤ right.1

namespace Json

/-- Change the value under a key of an object. -/
def mapMember (key : String) (change : Json → Json) : Json → Json
  | obj members => obj (members.map fun member =>
      if member.1 = key then (member.1, change member.2) else member)
  | value => value

/-- Change the values of an object and put its members in the order of their keys. -/
def mapSorted (change : Json → Json) : Json → Json
  | obj members => obj (Entries.sorted (members.map fun member => (member.1, change member.2)))
  | value => value

/-- The keywords that the model knows of a schema, in its order. -/
def schemaKeywords : List String :=
  ["allOf", "anyOf", "oneOf", "items", "prefixItems", "properties", "additionalProperties", "type",
    "enum", "const", "multipleOf", "maximum", "exclusiveMaximum", "minimum", "exclusiveMinimum",
    "maxLength", "minLength", "pattern", "maxItems", "minItems", "uniqueItems", "maxProperties",
    "minProperties", "required", "format", "title", "description", "default", "deprecated",
    "readOnly", "writeOnly", "examples", "discriminator", "example"]

/-- The keywords of a schema that are left out where their value is empty. -/
def listKeywords : List String :=
  ["allOf", "anyOf", "oneOf", "prefixItems", "properties", "enum", "required", "examples"]

/-- Whether a keyword with this value says nothing. -/
def isVacuous (key : String) (value : Json) : Bool :=
  value == null || (listKeywords.contains key && (value == arr [] || value == empty))

/-- The members of a schema in the order of the model: its keywords, and then the extensions by
name. -/
def arrangeKeywords (members : Entries Json) : Entries Json :=
  let known := schemaKeywords.filterMap fun key =>
    (members.get? key).bind fun value => if isVacuous key value then none else some (key, value)
  known ++ Entries.sorted (members.filter fun member => (Text.after? "x-" member.1).isSome)

mutual

/-- A schema in the order of the model. A reference is nothing but its pointer. -/
def modelSchema : Json → Json
  | obj members =>
    match (obj members).reference? with
    | some pointer => obj [("$ref", str pointer)]
    | none => obj (arrangeKeywords (modelKeywords members))
  | value => value

/-- The keywords of a schema, each with its schemas in the order of the model. -/
def modelKeywords : List (String × Json) → List (String × Json)
  | [] => []
  | (key, value) :: rest =>
    let ordered :=
      if key = "items" ∨ key = "additionalProperties" then modelSchema value
      else if key = "properties" then modelProperties value
      else if key = "allOf" ∨ key = "anyOf" ∨ key = "oneOf" ∨ key = "prefixItems" then
        modelList value
      else value
    (key, ordered) :: modelKeywords rest

/-- Named schemas in the order of the model. -/
def modelProperties : Json → Json
  | obj members => obj (Entries.sorted (modelMembers members))
  | value => value

/-- A list of schemas in the order of the model. -/
def modelList : Json → Json
  | arr items => arr (modelItems items)
  | value => value

/-- Each member's schema in the order of the model. -/
def modelMembers : List (String × Json) → List (String × Json)
  | [] => []
  | (key, value) :: rest => (key, modelSchema value) :: modelMembers rest

/-- Each item's schema in the order of the model. -/
def modelItems : List Json → List Json
  | [] => []
  | item :: rest => modelSchema item :: modelItems rest

end

end Json

namespace Document

/-- The first departure of an information block from the model. -/
def infoNonConformity? (info : Json) : Option DecodeError :=
  match info with
  | .obj members =>
    let wrong := members.findSome? fun member =>
      match member with
      | ("title", .str _) | ("version", .str _) => none
      | ("title", value) | ("version", value) => some (.invalidType value .string)
      | _ => none
    wrong.or (["title", "version"].findSome? fun key =>
      if (info.get? key).isNone then some (DecodeError.missingField key) else none)
  | value => some (.invalidType value .info)

/-- The first departure of the paths from the model. -/
def pathsNonConformity? (paths : Json) : Option DecodeError :=
  match paths with
  | .null => none
  | .obj items => items.findSome? fun item =>
    if item.2.isObject then none else some (.invalidType item.2 .pathItem)
  | value => some (.invalidType value .map)

/-- The first departure of a document from what is known of the model. -/
def nonConformity? (document : Json) : Option DecodeError :=
  match document with
  | .obj members =>
    let wrong := members.findSome? fun member =>
      match member with
      | ("openapi", .str _) => none
      | ("openapi", value) => some (DecodeError.invalidType value .string)
      | ("info", value) => infoNonConformity? value
      | ("paths", value) => pathsNonConformity? value
      | _ => none
    wrong.or (["openapi", "info"].findSome? fun key =>
      if (document.get? key).isNone then some (DecodeError.missingField key) else none)
  | value => some (.invalidType value .document)

/-- A check of documents against the typed model: its refusal in words, if it refuses. -/
abbrev ModelCheck := Json → Option String

/-- The check against what is known of the model. -/
def modelCheck : ModelCheck := fun document => (nonConformity? document).map DecodeError.message

/-- Whether a value is a named example or refers to one: an object, described by texts. -/
def isNamedExample (value : Json) : Bool :=
  value.isObject && ["summary", "description"].all fun key =>
    match value.get? key with
    | none | some .null | some (.str _) => true
    | some _ => false

/-- The named examples of a media type in the order of the model; nothing unless all are named
examples. A reference is nothing but its pointer. -/
def modelExamples? (examples : Json) : Option Json :=
  let modelExample (value : Json) : Json :=
    match value.reference? with
    | some pointer => .obj [("$ref", .str pointer)]
    | none => value
  if (examples.members?.any fun members => members.all fun member => isNamedExample member.2) then
    some (examples.mapSorted modelExample)
  else none

/-- A media type in the order of the model. Its example excludes named ones. -/
def modelMedia (media : Json) : Json :=
  let schema := (media.get? "schema").bind Json.nonNull?
  let examples := match media.get? "example" with
    | some value => some ("example", value)
    | none => ((media.get? "examples").bind modelExamples?).map fun value => ("examples", value)
  .obj ((schema.map fun value => ("schema", value.modelSchema)).toList ++ examples.toList)

/-- A response in the order of the model. A reference is nothing but its pointer. -/
def modelResponse (response : Json) : Json :=
  match response.reference? with
  | some pointer => .obj [("$ref", .str pointer)]
  | none => response.mapMember "content" (Json.mapSorted modelMedia)

/-- A path item in the order of the model, of which only the verbs are left. -/
def modelPathItem (item : Json) : Json :=
  let verbs : List Verb := [.get, .put, .post, .delete, .options, .head, .patch, .trace]
  .obj (verbs.filterMap fun verb =>
    ((item.get? verb.key).bind Json.nonNull?).map fun operation =>
      (verb.key, operation.mapMember "responses" (Json.mapSorted modelResponse)))

/-- A document in the order of the model. -/
def modelDocument (document : Json) : Json :=
  let components (sections : Json) : Json :=
    (sections.mapMember "schemas" (Json.mapSorted Json.modelSchema)).mapMember "responses"
      (Json.mapSorted modelResponse)
  (document.mapMember "paths" (Json.mapSorted modelPathItem)).mapMember "components" components

end Document

end ApiMock
