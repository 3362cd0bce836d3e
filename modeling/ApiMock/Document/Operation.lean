import ApiMock.Document.Content
import ApiMock.Document.Route
import ApiMock.Document.Verb
import ApiMock.Options.Filter
import ApiMock.Text.Decimal

/-!
# Operations

What a document says about requests: for each path and verb, the responses in document order.
Paths and responses that the options do not cover are left out silently; everything else that is
left out is reported.
-/
namespace ApiMock

/-- The status code that a text writes. -/
def statusCode? (code : String) : Option Nat := Text.natBelow? (2 ^ 16) (Text.trim code)

/-- A documented response of an operation. -/
structure Response where
  /-- The status code as the document writes it. -/
  code : String
  /-- The identifier of the operation. -/
  id : Option String
  /-- The schemas of bodies, by media type. -/
  content : Entries Schema

/-- The status code of a response. -/
def Response.status? (response : Response) : Option Nat := statusCode? response.code

/-- The schema of JSON bodies; bodies of other media types are not mocked. -/
def Response.jsonSchema? (response : Response) : Option Schema :=
  response.content.get? "application/json"

/-- A documented operation. -/
structure Operation where
  /-- The verb of its requests. -/
  verb : Verb
  /-- The route of its requests. -/
  route : String
  /-- Its responses in document order. -/
  responses : List Response

namespace Document

/-- The identifier of an operation; a blank one counts as none. -/
def operationId? (operation : Json) : Option String :=
  (operation.getText? "operationId").filter fun id => !Text.isBlank id

/-- The response that a value describes or refers to. -/
def resolveResponse (document : Json) (location : Location) (response : Json) : Reported Json :=
  match response.reference? with
  | none => .clean response
  | some pointer =>
    match resolveResponse? document pointer with
    | some resolved => .clean resolved
    | none => ⟨.null, [⟨location, .unresolvedResponse pointer⟩]⟩

/-- The response under one key of an operation, unless its key is no status code or the options
do not cover it. -/
def response (document : Json) (options : Options) (location : Location) (id : Option String)
    (code : String) (value : Json) : Reported (Option Response) :=
  if (statusCode? code).isNone then ⟨none, [⟨location, .nonNumericStatus code⟩]⟩
  else if !options.acceptsCode code then .clean none
  else
    let resolved := resolveResponse document location value
    ((content document (location.below code) resolved.value).map fun content =>
      some ⟨Text.trim code, id, content⟩).after resolved.issues

/-- The responses of an operation, in order. -/
def responses (document : Json) (options : Options) (location : Location) (operation : Json) :
    Reported (List Response) :=
  let id := operationId? operation
  let entries := ((operation.get? "responses").bind Json.members?).getD []
  (Reported.gather (entries.map fun entry =>
      response document options location id entry.1 entry.2)).after
    (if id.isNone then [⟨location, .missingOperationId⟩] else [])

/-- The operation under one key of a path item, unless the key is no verb, the verb cannot be
mocked or no response is left. -/
def operation (document : Json) (options : Options) (path key : String) (value : Json) :
    Reported (Option Operation) :=
  match Verb.ofKey? key with
  | none => .clean none
  | some verb =>
    let location : Location := ⟨[path, verb.key]⟩
    if !verb.isMockable then ⟨none, [⟨location, .unsupportedMethod⟩]⟩
    else
      let found := responses document options location value
      if found.value.isEmpty then ⟨none, found.issues ++ [⟨location, .noResponses⟩]⟩
      else ⟨some ⟨verb, routeOfPath path, found.value⟩, found.issues⟩

/-- The operations of a path, in order. -/
def pathOperations (document : Json) (options : Options) (path : String) (item : Json) :
    Reported (List Operation) :=
  if options.acceptsPath path then
    .gather ((item.members?.getD []).map fun entry =>
      operation document options path entry.1 entry.2)
  else .clean []

/-- The paths of a document, in order. -/
def paths (document : Json) : Entries Json :=
  ((document.get? "paths").bind Json.members?).getD []

/-- The operations of a document, in order. -/
def operations (document : Json) (options : Options) : Reported (List Operation) :=
  .concat ((paths document).map fun entry => pathOperations document options entry.1 entry.2)

end Document

end ApiMock
