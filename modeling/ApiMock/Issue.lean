import ApiMock.Json.Decode

/-!
# Issues

What is wrong with a document without stopping the generation: each issue names a place and a
problem, and the part of the mock that it concerns degrades. `Reported` carries a result together
with the issues met on the way to it, in order.
-/
namespace ApiMock

/-- A place in a document, as the steps that lead to it. -/
structure Location where
  /-- The steps from the outside in. -/
  steps : List String
  deriving DecidableEq, Repr

namespace Location

/-- A place one step further in. -/
def below (location : Location) (step : String) : Location := ⟨location.steps ++ [step]⟩

/-- The text of a place. -/
def text (location : Location) : String := " → ".intercalate location.steps

end Location

/-- What can be wrong at a place. -/
inductive Problem where
  /-- A schema reference leads nowhere. -/
  | unresolvedSchema (pointer : String)
  /-- A response reference leads nowhere. -/
  | unresolvedResponse (pointer : String)
  /-- A schema cannot be read. -/
  | invalidSchema (cause : DecodeError)
  /-- An operation has no identifier. -/
  | missingOperationId
  /-- A response key is no status code. -/
  | nonNumericStatus (code : String)
  /-- A verb cannot be mocked. -/
  | unsupportedMethod
  /-- An operation has no response left. -/
  | noResponses
  /-- The document is not of the expected form as a whole, in the words of the check that refuses
  it. -/
  | nonConforming (refusal : String)
  deriving DecidableEq, Repr

namespace Problem

/-- The name of the kind of problem. -/
def kind : Problem → String
  | unresolvedSchema _ => "UnresolvedRef"
  | unresolvedResponse _ => "UnresolvedRef"
  | invalidSchema _ => "InvalidSchema"
  | missingOperationId => "MissingOperationId"
  | nonNumericStatus _ => "NonNumericStatus"
  | unsupportedMethod => "UnsupportedMethod"
  | noResponses => "NoResponses"
  | nonConforming _ => "NonConformingDocument"

/-- The wording of a problem. -/
def message : Problem → String
  | unresolvedSchema pointer => "reference " ++ pointer ++ " does not resolve"
  | unresolvedResponse pointer => "response reference " ++ pointer ++ " does not resolve"
  | invalidSchema cause => "schema ignored, body will be null: " ++ cause.message
  | missingOperationId => "no operationId; responses are served with a null body"
  | nonNumericStatus code => "response '" ++ code ++ "' skipped"
  | unsupportedMethod => "msw has no handler for this verb; operation not mocked"
  | noResponses => "no numeric responses left; operation not mocked"
  | nonConforming refusal => "document does not match the OpenAPI 3 model: " ++ refusal

end Problem

/-- A problem at a place. -/
structure Issue where
  /-- Where. -/
  location : Location
  /-- What. -/
  problem : Problem
  deriving DecidableEq, Repr

namespace Issue

/-- How an issue of a kind is shown. -/
def line (kind location message : String) : String :=
  "[" ++ kind ++ "] " ++ location ++ ": " ++ message

/-- The text of an issue. -/
def text (issue : Issue) : String :=
  line issue.problem.kind issue.location.text issue.problem.message

end Issue

/-- A result with the issues met on the way to it, in order. -/
structure Reported (α : Type) where
  /-- The result. -/
  value : α
  /-- The issues. -/
  issues : List Issue
  deriving DecidableEq, Repr

namespace Reported

variable {α β : Type}

/-- A result without issues. -/
def clean (value : α) : Reported α := ⟨value, []⟩

/-- A result after some issues. -/
def after (issues : List Issue) (result : Reported α) : Reported α :=
  ⟨result.value, issues ++ result.issues⟩

/-- Change a result and keep the issues. -/
def map (change : α → β) (result : Reported α) : Reported β := ⟨change result.value, result.issues⟩

/-- The results that there are, with the issues of all. -/
def gather (results : List (Reported (Option α))) : Reported (List α) :=
  ⟨results.filterMap value, results.flatMap issues⟩

/-- All results of lists, with the issues of all. -/
def concat (results : List (Reported (List α))) : Reported (List α) :=
  ⟨results.flatMap value, results.flatMap issues⟩

/-- Gathering a list in two parts gives the results and the issues of the parts in turn. -/
theorem gather_append (left right : List (Reported (Option α))) :
    gather (left ++ right) =
      ⟨(gather left).value ++ (gather right).value,
        (gather left).issues ++ (gather right).issues⟩ := by
  simp [gather]

/-- Concatenating a list in two parts gives the results and the issues of the parts in turn. -/
theorem concat_append (left right : List (Reported (List α))) :
    concat (left ++ right) =
      ⟨(concat left).value ++ (concat right).value,
        (concat left).issues ++ (concat right).issues⟩ := by
  simp [concat]

end Reported

end ApiMock
