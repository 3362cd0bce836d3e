import ApiMock.Document.Model
import ApiMock.Document.Server

/-!
# Loading documents

A document reduced to what a mock needs: its title, the server address, the operations and the
schema components, with the issues met on the way. Only a document without paths is refused, and
by `loadTyped` also one that is not of the typed model. What a check against that model refuses is
otherwise an issue like others: `loadCheckedBy` takes any check, `loadChecked` the one that runs.
-/
namespace ApiMock

/-- Why a document is refused. -/
inductive LoadError where
  /-- The document is no object. -/
  | notAnObject
  /-- The document has no object of paths. -/
  | missingPaths
  /-- The document is not of the typed model. -/
  | nonConforming (cause : DecodeError)
  deriving DecidableEq, Repr

/-- The wording of a refusal. -/
def LoadError.message : LoadError → String
  | notAnObject => "OpenAPI document must be a JSON object"
  | missingPaths => "OpenAPI document has no \x60paths\x60 object"
  | nonConforming cause => cause.message

/-- A document reduced to what a mock needs. -/
structure Specification where
  /-- The title of the interface, empty if it has none. -/
  title : String
  /-- What all routes start with. -/
  baseUrl : String
  /-- The operations in document order. -/
  operations : List Operation
  /-- The schema components in document order. -/
  components : Entries Schema
  /-- What is wrong with the document. -/
  issues : List Issue

namespace Document

/-- Whether a key of a path item has a meaning: it is a verb in any letter case, one of the other
keys of path items, or an extension. -/
def isPathItemKey (key : String) : Bool :=
  (Verb.ofKey? key).isSome ||
    ["summary", "description", "servers", "parameters", "$ref"].contains (Text.lowerAscii key) ||
    (Text.after? "x-" key).isSome

/-- The document without the keys of path items that have no meaning. -/
def dropUnknownKeys (document : Json) : Json :=
  let known : Json → Json
    | .obj members => .obj (members.filter fun member => isPathItemKey member.1)
    | value => value
  document.mapMember "paths" fun
    | .obj items => .obj (items.map fun item => (item.1, known item.2))
    | value => value

/-- The title of a document, empty if it has none. -/
def title (document : Json) : String :=
  ((document.get? "info").bind fun info => info.getText? "title").getD ""

/-- What a check against the typed model refuses, as an issue of the whole document. -/
def modelIssues (check : ModelCheck) (document : Json) : List Issue :=
  (check document).toList.map fun refusal => ⟨⟨["#"]⟩, .nonConforming refusal⟩

/-- Reduce a document. -/
def load (document : Json) (options : Options) : Except LoadError Specification :=
  if !document.isObject then .error .notAnObject
  else if !((document.get? "paths").any Json.isObject) then .error .missingPaths
  else
    let document := dropUnknownKeys document
    let found := operations document options
    let schemas := components document
    .ok {
      title := title document
      baseUrl := baseUrl document options
      operations := found.value
      components := schemas.value
      issues := found.issues ++ schemas.issues }

/-- Reduce a document, and first of its issues tell what a check against the typed model refuses. -/
def loadCheckedBy (check : ModelCheck) (document : Json) (options : Options) :
    Except LoadError Specification :=
  (load document options).map fun specification =>
    { specification with
      issues := modelIssues check (dropUnknownKeys document) ++ specification.issues }

/-- Reduce a document, and first of its issues tell its departure from what is known of the typed
model. -/
def loadChecked (document : Json) (options : Options) : Except LoadError Specification :=
  loadCheckedBy modelCheck document options

/-- Reduce a document that went through the typed model. -/
def loadTyped (document : Json) (options : Options) : Except LoadError Specification :=
  match nonConformity? document with
  | some cause => .error (.nonConforming cause)
  | none => loadChecked (modelDocument document) options

end Document

end ApiMock
