import ApiMock.Document.Operation
import ApiMock.Generator.Compile
import ApiMock.Mock.Handler
import ApiMock.Text.Words

/-!
# From operations to handlers

Each operation becomes a handler, and each identified response a function that makes up its body.
Responses that share a function name share the function of the first of them.
-/
namespace ApiMock

/-- The name of the function that makes up the body of a response; without an identifier of the
operation there is none, and an empty text is no name. -/
def Response.accessorName? (response : Response) : Option String :=
  response.id.bind fun id =>
    let name := Text.camelCase ("get " ++ id ++ response.code ++ "Response")
    if name.isEmpty then none else some name

/-- A named function that makes up a body. -/
structure Accessor where
  /-- The name of the function. -/
  name : String
  /-- What it makes up. -/
  body : Generator

/-- The handlers and functions of a mock. -/
structure Mock where
  /-- One handler for each operation, in order. -/
  handlers : List Handler
  /-- The functions in the order of their first use. -/
  accessors : List Accessor

namespace Mock

/-- The turn of a response in its handler; without a status code it has none. -/
def response? (response : Response) : Option MockResponse :=
  response.status?.map fun status => ⟨status, response.accessorName?⟩

/-- The handler of an operation. -/
def handler (operation : Operation) : Handler :=
  ⟨Method.ofVerb operation.verb, operation.route, operation.responses.filterMap response?⟩

/-- The function for a response, if it has a status code and a name. -/
def accessor? (options : Options) (response : Response) : Option Accessor :=
  if response.status?.isSome then
    response.accessorName?.map fun name =>
      ⟨name, .ofSchema options none response.jsonSchema?⟩
  else none

/-- The first function of each name, the names in `taken` left out. -/
def firstOfEach (taken : List String) : List Accessor → List Accessor
  | [] => []
  | accessor :: rest =>
    if taken.contains accessor.name then firstOfEach taken rest
    else accessor :: firstOfEach (accessor.name :: taken) rest

/-- The mock of a list of operations. -/
def ofOperations (options : Options) (operations : List Operation) : Mock where
  handlers := operations.map handler
  accessors := firstOfEach [] (operations.flatMap fun operation =>
    operation.responses.filterMap (accessor? options))

/-- The function of a name. -/
def accessor (mock : Mock) (name : String) : Option Accessor :=
  mock.accessors.find? fun accessor => accessor.name == name

end Mock

end ApiMock
