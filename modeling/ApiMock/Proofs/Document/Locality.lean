import ApiMock.Proofs.Document.Components
import ApiMock.Proofs.Document.Paths
/-!
# Paths are reduced apart

The reduction goes through the paths with one list of issues, and all of them read the components.
It could as well be done path by path: what a document says under a path depends on the entry and
on the components (`operations_withPaths`), so a document that is split at some path gives what its
parts give, one after the other. Every issue is located in the path that it was met under
(`located_of_mem_pathOperations`). So whatever stands under a path, well formed or not, the
operations and the issues of the other paths stay as they are (`reduction_local`).
-/
namespace ApiMock

/-- A place is another one or further in. -/
def Location.Within (outer inner : Location) : Prop := outer.steps <+: inner.steps

namespace Location.Within

variable {outer middle inner : Location}

/-- A place is within itself. -/
theorem refl (place : Location) : place.Within place := List.prefix_rfl

/-- What is within a place within another one is within the other one. -/
theorem trans (within : outer.Within middle) (further : middle.Within inner) :
    outer.Within inner :=
  List.IsPrefix.trans within further

/-- A place one step further in is within. -/
theorem below (place : Location) (step : String) : place.Within (place.below step) :=
  List.prefix_append place.steps [step]

end Location.Within

namespace Document

variable {document : Json} {options : Options} {location : Location}

/-! ### Where issues are located -/

/-- What is reported where a schema is read is located there. -/
theorem location_of_mem_readSchema {value : Json} {issue : Issue}
    (reported : issue ∈ (readSchema location value).issues) : issue.location = location := by
  rcases readSchema_cases location value with ⟨schema, -, result⟩ | ⟨cause, result⟩
  · rw [result] at reported
    cases reported
  · rw [result] at reported
    rw [List.mem_singleton.mp reported]

/-- What is reported of the content of a response is located in the response. -/
theorem located_of_mem_content {response : Json} {issue : Issue}
    (reported : issue ∈ (content document location response).issues) :
    location.Within issue.location := by
  obtain ⟨name, media, schema, -, -, either⟩ := mem_issues_content_iff.mp reported
  have here : issue.location = location.below name := by
    rcases either with dangles | unread
    · obtain ⟨pointer, -, -, rfl⟩ := mem_danglingIssues_iff.mp dangles
      rfl
    · exact location_of_mem_readSchema unread
  rw [here]
  exact .below location name

/-- What is reported of the response that a value refers to is located at the value. -/
theorem located_of_mem_resolveResponse {value : Json} {issue : Issue}
    (reported : issue ∈ (resolveResponse document location value).issues) :
    location.Within issue.location := by
  unfold resolveResponse at reported
  split at reported
  · cases reported
  · split at reported
    · cases reported
    · rw [List.mem_singleton.mp reported]
      exact .refl location

/-- What is reported of a response is located in its operation. -/
theorem located_of_mem_response {id : Option String} {code : String} {value : Json}
    {issue : Issue} (reported : issue ∈ (response document options location id code value).issues) :
    location.Within issue.location := by
  cases written : statusCode? code with
  | none =>
    rw [response_of_text written] at reported
    rw [List.mem_singleton.mp reported]
    exact .refl location
  | some status =>
    cases covered : options.acceptsCode code with
    | false =>
      rw [response_of_uncovered written covered] at reported
      cases reported
    | true =>
      rw [response_of_covered written covered] at reported
      rcases List.mem_append.mp reported with outside | inside
      · exact located_of_mem_resolveResponse outside
      · exact (Location.Within.below location code).trans (located_of_mem_content inside)

/-- What is reported of the responses of an operation is located in the operation. -/
theorem located_of_mem_responses {described : Json} {issue : Issue}
    (reported : issue ∈ (responses document options location described).issues) :
    location.Within issue.location := by
  simp only [responses, Reported.after, Reported.gather, List.mem_append, List.mem_flatMap,
    List.mem_map] at reported
  rcases reported with unnamed | ⟨_, ⟨entry, -, rfl⟩, inside⟩
  · split at unnamed
    · rw [List.mem_singleton.mp unnamed]
      exact .refl location
    · cases unnamed
  · exact located_of_mem_response inside

/-- What is reported of an operation is located in its path. -/
theorem located_of_mem_operation {path key : String} {described : Json} {issue : Issue}
    (reported : issue ∈ (operation document options path key described).issues) :
    Location.Within ⟨[path]⟩ issue.location := by
  unfold operation at reported
  split at reported
  · cases reported
  · rename_i verb _
    have inPath : Location.Within ⟨[path]⟩ ⟨[path, verb.key]⟩ := .below ⟨[path]⟩ verb.key
    have inVerb : Location.Within ⟨[path, verb.key]⟩ issue.location := by
      dsimp only at reported
      split at reported
      · rw [List.mem_singleton.mp reported]
        exact .refl _
      · split at reported
        · rcases List.mem_append.mp reported with inside | vacant
          · exact located_of_mem_responses inside
          · rw [List.mem_singleton.mp vacant]
            exact .refl _
        · exact located_of_mem_responses reported
    exact inPath.trans inVerb

/-- What is reported of a path item is located in its path. -/
theorem located_of_mem_pathOperations {path : String} {item : Json} {issue : Issue}
    (reported : issue ∈ (pathOperations document options path item).issues) :
    issue.location.steps.head? = some path := by
  have inPath : Location.Within ⟨[path]⟩ issue.location := by
    unfold pathOperations at reported
    split at reported
    · simp only [Reported.gather, List.mem_flatMap, List.mem_map] at reported
      obtain ⟨_, ⟨entry, -, rfl⟩, inside⟩ := reported
      exact located_of_mem_operation inside
    · cases reported
  obtain ⟨further, steps⟩ := inPath
  rw [← steps]
  rfl

/-- The issues that are located in a path. -/
def issuesIn (path : String) (issues : List Issue) : List Issue :=
  issues.filter fun issue => issue.location.steps.head? = some path

/-- No issue of a path item is located in another path. -/
theorem issuesIn_pathOperations_of_ne {path other : String} (different : other ≠ path)
    (item : Json) : issuesIn other (pathOperations document options path item).issues = [] := by
  refine List.filter_eq_nil_iff.mpr fun issue reported => ?_
  rw [located_of_mem_pathOperations reported]
  simpa using different.symm

/-- Issues are located apart, wherever a list of them is cut. -/
theorem issuesIn_append (path : String) (first second : List Issue) :
    issuesIn path (first ++ second) = issuesIn path first ++ issuesIn path second :=
  List.filter_append ..

/-! ### Entries of paths -/

/-- What a document says under entries of paths, one after the other. -/
def operationsUnder (document : Json) (options : Options) (entries : Entries Json) :
    Reported (List Operation) :=
  .concat (entries.map fun entry => pathOperations document options entry.1 entry.2)

/-- What is said under an entry comes between what is said under those before it and under those
after it. -/
theorem operationsUnder_insert (before after : Entries Json) (path : String) (item : Json) :
    operationsUnder document options (before ++ (path, item) :: after) =
      ⟨(operationsUnder document options before).value ++
          (pathOperations document options path item).value ++
          (operationsUnder document options after).value,
        (operationsUnder document options before).issues ++
          (pathOperations document options path item).issues ++
          (operationsUnder document options after).issues⟩ := by
  simp only [operationsUnder, List.map_append, List.map_cons, Reported.concat,
    List.flatMap_append, List.flatMap_cons, List.append_assoc]

/-- The issues that are located in a path do not depend on what is under another one. -/
theorem issuesIn_operationsUnder {path other : String} (different : other ≠ path)
    (before after : Entries Json) (item : Json) :
    issuesIn other (operationsUnder document options (before ++ (path, item) :: after)).issues =
      issuesIn other (operationsUnder document options before).issues ++
        issuesIn other (operationsUnder document options after).issues := by
  have nothing : issuesIn other (pathOperations document options path item).issues = [] :=
    issuesIn_pathOperations_of_ne different item
  rw [operationsUnder_insert, issuesIn_append, issuesIn_append, nothing, List.append_nil]

/-! ### Documents with other paths -/

/-- A document with other entries in place of its paths; one without paths stays as it is. -/
def withPaths (entries : Entries Json) (document : Json) : Json :=
  document.mapMember "paths" (Json.onMembers fun _ => entries)

/-- The entries are the paths, if there are paths that they stand in place of. -/
theorem paths_withPaths {entries : Entries Json} (placed : paths document = [] → entries = []) :
    paths (withPaths entries document) = entries := by
  cases entries with
  | nil => exact paths_mapMember rfl document
  | cons entry rest =>
    have present : paths document ≠ [] := fun none => List.cons_ne_nil entry rest (placed none)
    unfold paths at present
    rw [paths, withPaths, Json.get?_mapMember_self]
    cases found : document.get? "paths" with
    | none =>
      rw [found] at present
      exact absurd rfl present
    | some value =>
      rw [found] at present
      cases value with
      | obj members => rfl
      | _ => exact absurd rfl present

/-- The operations of a document with other paths are those that the document gives under them. -/
theorem operations_withPaths {entries : Entries Json}
    (placed : paths document = [] → entries = []) (options : Options) :
    operations (withPaths entries document) options =
      operationsUnder document options entries := by
  have same : SameComponents (withPaths entries document) document :=
    sameComponents_mapMember (by decide) _ document
  rw [operations, paths_withPaths placed, same.pathOperations_eq]
  rfl

/-- A document whose paths are split in two gives the operations and the issues of the one part and
then those of the other. -/
theorem operations_of_split {first second : Entries Json}
    (split : paths document = first ++ second) (options : Options) :
    operations document options =
      ⟨(operations (withPaths first document) options).value ++
          (operations (withPaths second document) options).value,
        (operations (withPaths first document) options).issues ++
          (operations (withPaths second document) options).issues⟩ := by
  have placedFirst : paths document = [] → first = [] := fun none =>
    (List.append_eq_nil_iff.mp (split.symm.trans none)).1
  have placedSecond : paths document = [] → second = [] := fun none =>
    (List.append_eq_nil_iff.mp (split.symm.trans none)).2
  rw [operations_withPaths placedFirst, operations_withPaths placedSecond, operationsUnder,
    operationsUnder, ← Reported.concat_append, ← List.map_append, ← split]
  rfl

/-- Paths are reduced apart. A document whose paths are split in two gives the operations and the
issues of the one part and then those of the other. Whatever is put under a path, only what the
document says of this path changes: what comes before and after stays as it is, and so do the issues
that are located in another path. -/
theorem reduction_local (document : Json) (options : Options) :
    (∀ first second, paths document = first ++ second →
      (operations document options).value =
        (operations (withPaths first document) options).value ++
          (operations (withPaths second document) options).value ∧
      (operations document options).issues =
        (operations (withPaths first document) options).issues ++
          (operations (withPaths second document) options).issues) ∧
    ∀ before path item after, paths document = before ++ (path, item) :: after →
      ∀ changed : Json,
        let altered := operations (withPaths (before ++ (path, changed) :: after) document) options
        let own := pathOperations document options path changed
        altered.value = (operations (withPaths before document) options).value ++ own.value ++
          (operations (withPaths after document) options).value ∧
        altered.issues = (operations (withPaths before document) options).issues ++ own.issues ++
          (operations (withPaths after document) options).issues ∧
        ∀ other ≠ path,
          issuesIn other altered.issues = issuesIn other (operations document options).issues := by
  constructor
  · intro first second split
    have whole := operations_of_split split options
    exact ⟨congrArg Reported.value whole, congrArg Reported.issues whole⟩
  · intro before path item after listed changed altered own
    have present : paths document ≠ [] := by
      rw [listed]
      exact List.append_ne_nil_of_right_ne_nil before (List.cons_ne_nil _ after)
    have result : ∀ entries, operations (withPaths entries document) options =
        operationsUnder document options entries :=
      fun entries => operations_withPaths (fun none => absurd none present) options
    have inserted : altered =
        operationsUnder document options (before ++ (path, changed) :: after) := result _
    have original : operations document options =
        operationsUnder document options (before ++ (path, item) :: after) := by
      rw [← listed]
      rfl
    refine ⟨?_, ?_, ?_⟩
    · rw [result before, result after, inserted, operationsUnder_insert]
    · rw [result before, result after, inserted, operationsUnder_insert]
    · intro other different
      rw [inserted, original, issuesIn_operationsUnder different,
        issuesIn_operationsUnder different]

/-- A document with two paths, of which the first one describes a response that is not there. -/
def brokenDocument : Json :=
  .obj [("paths", .obj [
    ("/broken", .obj [("get", .obj [("responses", .obj [
      ("200", .obj [("$ref", .str "#/components/responses/Missing")])])])]),
    ("/pets", .obj [("get", .obj [("responses", .obj [("200", .obj [])])])])])]

/-- The paths of the document can be split between the two, and whatever is put under the first one,
the issues of the second one stay the same. -/
theorem reduction_local_brokenDocument :
    let broken := Json.obj [("get", .obj [("responses", .obj [
      ("200", .obj [("$ref", .str "#/components/responses/Missing")])])])]
    let pets := Json.obj [("get", .obj [("responses", .obj [("200", .obj [])])])]
    let first := operations (withPaths [("/broken", broken)] brokenDocument) {}
    let second := operations (withPaths [("/pets", pets)] brokenDocument) {}
    paths brokenDocument = [("/broken", broken)] ++ [("/pets", pets)] ∧ "/pets" ≠ "/broken" ∧
      (operations brokenDocument {}).issues = first.issues ++ second.issues ∧
      ∀ changed : Json,
        issuesIn "/pets" (operations (withPaths [("/broken", changed), ("/pets", pets)]
          brokenDocument) {}).issues = issuesIn "/pets" (operations brokenDocument {}).issues := by
  intro broken pets first second
  have split : paths brokenDocument = [("/broken", broken)] ++ [("/pets", pets)] := rfl
  have different : "/pets" ≠ "/broken" := by decide
  obtain ⟨splits, replaced⟩ := reduction_local brokenDocument {}
  refine ⟨split, different, (splits _ _ split).2, fun changed => ?_⟩
  exact (replaced [] "/broken" broken [("/pets", pets)] split changed).2.2 "/pets" different

end Document

end ApiMock
