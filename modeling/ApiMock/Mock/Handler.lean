import ApiMock.Document.Verb
import ApiMock.Mock.Rotation

/-!
# Handlers

A handler answers the requests of one method and route. A route matches a path segment by segment,
and the responses of a handler take turns, counted for each path.
-/
namespace ApiMock

/-- A response of a handler. -/
structure MockResponse where
  /-- The status code. -/
  status : Nat
  /-- The function that makes up the body; without one the body is null. -/
  accessor : Option String
  deriving DecidableEq, Repr

/-- Whether a response carries a body: all do but those of the status "no content". -/
def MockResponse.hasBody (response : MockResponse) : Bool := response.status != 204

/-- A handler of requests. -/
structure Handler where
  /-- The method of its requests. -/
  method : Method
  /-- The route of its requests. -/
  route : String
  /-- Its responses in the order of their turns. -/
  responses : List MockResponse
  deriving DecidableEq, Repr

namespace Handler

/-- The segments of a path, slashes at its end aside. -/
def segments (path : String) : List String := Text.split '/' (Text.trimSlashes path)

/-- Whether a segment of a route matches one of a path: a parameter matches any text that is not
empty, and everything else only itself. -/
def matchesSegment (expected actual : String) : Bool :=
  if expected.toList.head? == some ':' then !actual.isEmpty else expected == actual

/-- Whether the segments of a route match those of a path one by one. -/
def matchesSegments : (expected actual : List String) → Bool
  | [], [] => true
  | expected :: route, actual :: path =>
    matchesSegment expected actual && matchesSegments route path
  | _, _ => false

/-- Whether a request reaches a handler. -/
def accepts (handler : Handler) (method : Method) (path : String) : Bool :=
  method == handler.method && matchesSegments (segments handler.route) (segments path)

/-- Answer a request for a path: the response whose turn it is, and the counters after it. A
handler without responses gives none and counts nothing. -/
def respond (handler : Handler) (path : String) (rotation : Rotation) :
    Option MockResponse × Rotation :=
  if handler.responses.isEmpty then (none, rotation)
  else
    (handler.responses[(rotation.peek path).toNat % handler.responses.length]?,
      rotation.advance path)

/-- A handler with responses answers with the one whose turn it is, and counts the request. -/
theorem respond_of_pos {handler : Handler} (answering : 0 < handler.responses.length)
    (path : String) (rotation : Rotation) :
    handler.respond path rotation =
      (some (handler.responses.get ⟨(rotation.peek path).toNat % handler.responses.length,
        Nat.mod_lt _ answering⟩), rotation.advance path) := by
  have filled : handler.responses.isEmpty = false := by
    rw [List.isEmpty_eq_false_iff]
    exact List.ne_nil_of_length_pos answering
  rw [respond, filled, List.getElem?_eq_getElem (Nat.mod_lt _ answering)]
  rfl

/-- A handler without responses gives none and counts nothing. -/
theorem respond_of_nil {handler : Handler} (silent : handler.responses = []) (path : String)
    (rotation : Rotation) : handler.respond path rotation = (none, rotation) := by
  rw [respond, silent]
  rfl

end Handler

end ApiMock
