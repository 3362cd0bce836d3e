import ApiMock.Document.Operation
import ApiMock.Proofs.Text.Numeral
/-!
# What reduction leaves of a document

Every operation of a document comes from a key of one of its paths and every response from a key of
its operation, which one inversion lemma for each step of the reduction says in full. The code of a
response is a trimmed key that writes a status code, and no operation is without responses
(`documented_of_mem_operations`). `statusCode?_eq_some_iff` says which texts write which code.
-/
namespace ApiMock

/-! ### Status codes -/

/-- A text writes a status code: in digits, at most a plus sign before them and white space around,
below the limit of sixteen bits. -/
def WritesStatus (code : String) (status : Nat) : Prop :=
  ∃ before sign digits after, code.toList = before ++ (sign ++ digits) ++ after ∧
    (∀ c ∈ before, Unicode.isWhiteSpace c) ∧ (∀ c ∈ after, Unicode.isWhiteSpace c) ∧
    (sign = [] ∨ sign = ['+']) ∧ digits ≠ [] ∧ (∀ c ∈ digits, c.isDigit) ∧
    status = Text.ofDigits (digits.map Text.digitValue) ∧ status < 2 ^ 16

/-- A digit is no white space. -/
theorem isWhiteSpace_of_isDigit {c : Char} (digit : c.isDigit) :
    Unicode.isWhiteSpace c = false := by
  have bounds : 48 ≤ c.toNat ∧ c.toNat ≤ 57 := by
    simpa [Char.isDigit, UInt32.le_iff_toNat_le] using digit
  have notSpace : c ≠ ' ' := by
    rintro rfl
    exact absurd digit (by decide)
  simp only [Unicode.isWhiteSpace, beq_eq_false_iff_ne.mpr notSpace, Bool.false_or,
    Bool.or_eq_false_iff, Bool.and_eq_false_iff, decide_eq_false_iff_not, beq_eq_false_iff_ne]
  omega

/-- The code of a text is the one that it writes. -/
theorem statusCode?_eq_some_iff {code : String} {status : Nat} :
    statusCode? code = some status ↔ WritesStatus code status := by
  have trimmed : (Text.trim code).toList = Text.trimChars code.toList := String.toList_ofList
  rw [statusCode?, Text.natBelow?_eq_some_iff, trimmed]
  constructor
  · rintro ⟨sign, digits, split, numeral⟩
    obtain ⟨before, after, whole, leading, trailing⟩ := Text.exists_eq_trimChars code.toList
    exact ⟨before, sign, digits, after, split ▸ whole, leading, trailing, numeral⟩
  · rintro ⟨before, sign, digits, after, whole, leading, trailing, signed, some, each, numeral⟩
    have dark : ∀ c ∈ sign ++ digits, Unicode.isWhiteSpace c = false := by
      intro c listed
      rcases List.mem_append.mp listed with inSign | inDigits
      · rcases signed with rfl | rfl
        · cases inSign
        · rw [List.mem_singleton.mp inSign]
          decide
      · exact isWhiteSpace_of_isDigit (each c inDigits)
    refine ⟨sign, digits, ?_, signed, some, each, numeral⟩
    rw [whole, Text.trimChars_append leading (Text.isBare_of_forall dark) trailing]

namespace Document

variable {document : Json} {options : Options} {location : Location}

/-! ### Inversion of the reduction -/

/-- A response is documented under a key that writes a status code and that the options cover. Its
code is the trimmed key. -/
theorem response_eq_some {id : Option String} {code : String} {value : Json}
    {found : ApiMock.Response}
    (emitted : (response document options location id code value).value = some found) :
    (statusCode? code).isSome ∧ options.acceptsCode code ∧
      found = ⟨Text.trim code, id, (content document (location.below code)
        (resolveResponse document location value).value).value⟩ := by
  unfold response at emitted
  split at emitted
  · cases emitted
  · rename_i numeric
    split at emitted
    · cases emitted
    · rename_i covered
      refine ⟨?_, by simpa using covered, (Option.some.inj emitted).symm⟩
      exact Option.isSome_iff_ne_none.mpr fun absent => numeric (absent ▸ rfl)

/-- The responses of an operation are those under its keys. -/
theorem mem_responses_iff {value : Json} {found : ApiMock.Response} :
    found ∈ (responses document options location value).value ↔
      ∃ code described,
        (code, described) ∈ ((value.get? "responses").bind Json.members?).getD [] ∧
        (response document options location (operationId? value) code described).value =
          some found := by
  simp only [responses, Reported.after, Reported.gather, List.mem_filterMap, List.mem_map]
  constructor
  · rintro ⟨_, ⟨⟨code, described⟩, listed, rfl⟩, emitted⟩
    exact ⟨code, described, listed, emitted⟩
  · rintro ⟨code, described, listed, emitted⟩
    exact ⟨_, ⟨(code, described), listed, rfl⟩, emitted⟩

/-- An operation is documented under a verb that can be mocked, and has responses. -/
theorem operation_eq_some {path key : String} {value : Json} {found : Operation}
    (emitted : (operation document options path key value).value = some found) :
    ∃ verb, Verb.ofKey? key = some verb ∧ verb.isMockable ∧
      (responses document options ⟨[path, verb.key]⟩ value).value ≠ [] ∧
      found = ⟨verb, routeOfPath path,
        (responses document options ⟨[path, verb.key]⟩ value).value⟩ := by
  unfold operation at emitted
  split at emitted
  · cases emitted
  · rename_i verb named
    dsimp only at emitted
    split at emitted
    · cases emitted
    · rename_i mockable
      split at emitted
      · cases emitted
      · rename_i filled
        refine ⟨verb, named, by simpa using mockable, ?_, (Option.some.inj emitted).symm⟩
        exact fun vacant => filled (vacant ▸ rfl)

/-- The operations of a document are those under the keys of its paths that the options cover. -/
theorem mem_operations_iff {found : Operation} :
    found ∈ (operations document options).value ↔
      ∃ path item key value, (path, item) ∈ paths document ∧ options.acceptsPath path ∧
        (key, value) ∈ item.members?.getD [] ∧
        (operation document options path key value).value = some found := by
  have ofPath : ∀ path item, found ∈ (pathOperations document options path item).value ↔
      options.acceptsPath path ∧ ∃ key value, (key, value) ∈ item.members?.getD [] ∧
        (operation document options path key value).value = some found := by
    intro path item
    unfold pathOperations
    split
    · rename_i covered
      simp [Reported.gather, covered]
    · rename_i uncovered
      simp [Reported.clean, uncovered]
  simp only [operations, Reported.concat, List.mem_flatMap, List.mem_map]
  constructor
  · rintro ⟨_, ⟨⟨path, item⟩, listed, rfl⟩, emitted⟩
    obtain ⟨covered, key, value, within, described⟩ := (ofPath path item).mp emitted
    exact ⟨path, item, key, value, listed, covered, within, described⟩
  · rintro ⟨path, item, key, value, listed, covered, within, described⟩
    exact ⟨_, ⟨(path, item), listed, rfl⟩,
      (ofPath path item).mpr ⟨covered, key, value, within, described⟩⟩

/-! ### What all operations have -/

/-- The code of a documented response still writes the status code that its key writes. -/
theorem status?_of_mem_responses {value : Json} {found : ApiMock.Response}
    (documented : found ∈ (responses document options location value).value) :
    found.status?.isSome := by
  obtain ⟨code, described, -, emitted⟩ := mem_responses_iff.mp documented
  obtain ⟨numeric, -, rfl⟩ := response_eq_some emitted
  have same : statusCode? (Text.trim code) = statusCode? code := by
    rw [statusCode?, statusCode?, Text.trim_trim]
  rw [Response.status?, same]
  exact numeric

/-- Every operation has responses, and all of them have status codes. -/
theorem documented_of_mem_operations {found : Operation}
    (documented : found ∈ (operations document options).value) :
    found.responses ≠ [] ∧ ∀ response ∈ found.responses, response.status?.isSome := by
  obtain ⟨path, item, key, value, -, -, -, emitted⟩ := mem_operations_iff.mp documented
  obtain ⟨verb, -, -, filled, rfl⟩ := operation_eq_some emitted
  exact ⟨filled, fun response within => status?_of_mem_responses within⟩

end Document

end ApiMock
