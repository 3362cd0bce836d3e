import ApiMock.Mock.Compile
import ApiMock.Proofs.Document.Reduction
import Mathlib.Data.List.Forall2
/-!
# Every handler answers

A handler leaves out responses without a status code, so it could be left with none. The reduction
of a document keeps only codes that write a status code, and only operations with responses
(`Document.documented_of_mem_operations`). So a mock of a document has a handler for each operation,
a turn for each response, and an answer for each request, whatever was requested before.
-/
namespace ApiMock

/-- A handler serves an operation: it takes its requests and has a turn for each of its responses,
of which there is one at least, with the status code that the response writes. -/
structure Serves (operation : Operation) (handler : Handler) : Prop where
  /-- The method is that of the verb. -/
  method : handler.method = Method.ofVerb operation.verb
  /-- The route is that of the operation. -/
  route : handler.route = operation.route
  /-- There is a turn. -/
  answering : 0 < handler.responses.length
  /-- The turns have the status codes of the responses, one by one. -/
  statuses : List.Forall₂
    (fun response turn => response.status? = some turn.status ∧
      WritesStatus response.code turn.status)
    operation.responses handler.responses

namespace Mock

/-- Responses with status codes all have their turn. -/
theorem forall₂_turns {responses : List Response}
    (numeric : ∀ response ∈ responses, response.status?.isSome) :
    List.Forall₂
      (fun response turn => response.status? = some turn.status ∧
        WritesStatus response.code turn.status)
      responses (responses.filterMap response?) := by
  induction responses with
  | nil => exact .nil
  | cons response rest ih =>
    obtain ⟨status, written⟩ := Option.isSome_iff_exists.mp (numeric response List.mem_cons_self)
    have turn : response? response = some ⟨status, response.accessorName?⟩ := by
      rw [response?, written]
      rfl
    rw [List.filterMap_cons_some turn]
    exact .cons ⟨written, statusCode?_eq_some_iff.mp written⟩
      (ih fun other later => numeric other (List.mem_cons_of_mem _ later))

/-- The handler of an operation serves it if it has responses, all with status codes. -/
theorem serves_handler {operation : Operation} (filled : operation.responses ≠ [])
    (numeric : ∀ response ∈ operation.responses, response.status?.isSome) :
    Serves operation (handler operation) := by
  have turns := forall₂_turns numeric
  have answering : 0 < (handler operation).responses.length := by
    have sameLength : operation.responses.length = (handler operation).responses.length :=
      turns.length_eq
    rw [← sameLength]
    exact List.length_pos_iff.mpr filled
  exact ⟨rfl, rfl, answering, turns⟩

/-- The mock of a document has a handler for each operation, in order, and serves it. So each
handler answers every request with one of its responses, whatever was counted before. -/
theorem handlers_answer (document : Json) (reduction compilation : Options) :
    let operations := (Document.operations document reduction).value
    let mock := ofOperations compilation operations
    List.Forall₂ Serves operations mock.handlers ∧
      ∀ handler ∈ mock.handlers, ∀ path rotation, ∃ answering : 0 < handler.responses.length,
        handler.respond path rotation =
          (some (handler.responses.get ⟨(rotation.peek path).toNat % handler.responses.length,
            Nat.mod_lt _ answering⟩), rotation.advance path) := by
  intro operations mock
  have served : ∀ operation ∈ operations, Serves operation (handler operation) := by
    intro operation documented
    obtain ⟨filled, numeric⟩ := Document.documented_of_mem_operations documented
    exact serves_handler filled numeric
  refine ⟨List.forall₂_map_right_iff.mpr (List.forall₂_same.mpr served), ?_⟩
  intro handler listed path rotation
  obtain ⟨operation, documented, rfl⟩ := List.mem_map.mp listed
  have answering := (served operation documented).answering
  exact ⟨answering, Handler.respond_of_pos answering path rotation⟩

/-- A document with one operation. Of the keys of its responses only the first writes a status
code, with signs, zeros and white space. -/
def signedDocument : Json :=
  .obj [("paths", .obj [("/pets", .obj [("Get", .obj [("responses", .obj [
    (" +0200 ", .obj []), ("-404", .obj []), ("65536", .obj []), ("default", .obj [])])])])])]

/-- The handler of the document with signs and zeros answers a first request. -/
theorem handlers_answer_signedDocument :
    let operations := (Document.operations signedDocument {}).value
    let mock := ofOperations {} operations
    let handler : Handler := ⟨⟨"GET"⟩, "/pets", [⟨200, none⟩]⟩
    handler ∈ mock.handlers ∧ ∃ answering : 0 < handler.responses.length,
      handler.respond "/pets" .empty =
        (some (handler.responses.get ⟨(Rotation.empty.peek "/pets").toNat %
          handler.responses.length, Nat.mod_lt _ answering⟩), Rotation.empty.advance "/pets") := by
  intro operations mock handler
  have listed : handler ∈ mock.handlers := by decide
  exact ⟨listed, (handlers_answer signedDocument {} {}).2 handler listed "/pets" .empty⟩

end Mock

end ApiMock
