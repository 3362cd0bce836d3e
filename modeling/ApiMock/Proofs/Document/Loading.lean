import ApiMock.Proofs.Document.Paths
/-!
# Loading

A document is checked and rid of unknown keys before it is reduced. Both the pass that drops keys
and the reduction have a notion of their own of the keys that count, and fold letter case on their
own. The first notion is the wider one (`isPathItemKey_of_verb`), so that nothing is lost on the
way: loading refuses a document without paths, and gives what reducing the document itself gives
otherwise.
-/
namespace ApiMock.Document

variable {document : Json} {options : Options}

/-! ### Unknown keys -/

/-- The paths without the keys of path items that have no meaning. -/
def knownPaths (paths : Entries Json) : Entries Json :=
  paths.map fun path =>
    (path.1, path.2.onMembers (List.filter fun member => isPathItemKey member.1))

/-- Unknown keys are dropped from the paths and from nothing else. -/
theorem dropUnknownKeys_eq (document : Json) :
    dropUnknownKeys document = document.mapMember "paths" (Json.onMembers knownPaths) := rfl

/-- The key of a verb is known, whatever its letter case. -/
theorem isPathItemKey_of_verb {member : String × Json} (verb : describesVerb member = true) :
    isPathItemKey member.1 = true := by
  rw [describesVerb_eq] at verb
  rw [isPathItemKey, verb]
  rfl

/-- Dropping unknown keys leaves all verbs, and leaves them in order. -/
theorem verbKeys_dropUnknownKeys (document : Json) (options : Options) :
    verbKeys (dropUnknownKeys document) options = verbKeys document options := by
  have known : paths (dropUnknownKeys document) = knownPaths (paths document) := by
    rw [dropUnknownKeys_eq]
    exact paths_mapMember rfl document
  rw [verbKeys, verbKeys, known, knownPaths, List.flatMap_map]
  refine List.flatMap_congr fun path _ => ?_
  cases covered : options.acceptsPath path.1 with
  | false => rw [pathVerbKeys_of_uncovered covered, pathVerbKeys_of_uncovered covered]
  | true =>
    rw [pathVerbKeys_of_covered covered, pathVerbKeys_of_covered covered,
      Json.members?_onMembers rfl, List.filter_filter]
    congr 1
    refine List.filter_congr fun member _ => ?_
    cases verb : describesVerb member with
    | false => rfl
    | true => exact isPathItemKey_of_verb verb

/-- Dropping unknown keys changes nothing but the paths. -/
theorem get?_dropUnknownKeys {key : String} (other : key ≠ "paths") (document : Json) :
    (dropUnknownKeys document).get? key = document.get? key := by
  rw [dropUnknownKeys_eq]
  exact Json.get?_mapMember_of_ne other _ document

/-- The operations of a document, and what is reported of them, do not depend on unknown keys. -/
theorem operations_dropUnknownKeys (document : Json) (options : Options) :
    operations (dropUnknownKeys document) options = operations document options := by
  have same : SameComponents (dropUnknownKeys document) document :=
    get?_dropUnknownKeys (by decide) document
  rw [operations_eq_gather, operations_eq_gather, verbKeys_dropUnknownKeys, same.operation_eq]

/-! ### What is reported -/

/-- The kinds of what is reported of operations. -/
def operationKinds : List String :=
  ["MissingOperationId", "NonNumericStatus", "UnresolvedRef", "InvalidSchema", "UnsupportedMethod",
    "NoResponses"]

/-- What is reported of the responses of an operation. -/
theorem kind_of_mem_issues_responses {location : Location} {described : Json} {issue : Issue}
    (reported : issue ∈ (responses document options location described).issues) :
    issue.problem.kind ∈
      ["MissingOperationId", "NonNumericStatus", "UnresolvedRef", "InvalidSchema"] := by
  rcases List.mem_append.mp reported with missing | listed
  · split at missing
    · rw [List.mem_singleton.mp missing]
      exact List.mem_cons_self
    · cases missing
  · obtain ⟨found, member, inside⟩ := List.mem_flatMap.mp listed
    obtain ⟨entry, -, rfl⟩ := List.mem_map.mp member
    exact List.mem_cons_of_mem _ (kind_of_mem_issues_response inside)

/-- What is reported of the operations of a document. -/
theorem kind_of_mem_issues_operations {issue : Issue}
    (reported : issue ∈ (operations document options).issues) :
    issue.problem.kind ∈ operationKinds := by
  rw [operations_eq_gather] at reported
  obtain ⟨found, member, inside⟩ := List.mem_flatMap.mp reported
  obtain ⟨entry, listed, rfl⟩ := List.mem_map.mp member
  obtain ⟨fate, has, -, issues⟩ := operation_fate listed
  rw [issues] at inside
  rcases List.mem_append.mp inside with ofResponses | own
  · split at ofResponses
    · cases ofResponses
    · exact List.mem_append_left _ (kind_of_mem_issues_responses ofResponses)
  · exact List.mem_append_right
      ["MissingOperationId", "NonNumericStatus", "UnresolvedRef", "InvalidSchema"]
      (has.kind_of_mem_issue? issue own)

/-- What is reported of the components of a document are schemas that cannot be read. -/
theorem kind_of_mem_issues_components {issue : Issue}
    (reported : issue ∈ (components document).issues) : issue.problem.kind = "InvalidSchema" := by
  obtain ⟨found, member, inside⟩ := List.mem_flatMap.mp reported
  obtain ⟨entry, -, rfl⟩ := List.mem_map.mp member
  obtain ⟨cause, problem⟩ := problem_of_mem_issues_readSchema inside
  rw [problem]
  rfl

/-- Nothing that is reported of operations and components is a refusal by a check of documents. -/
theorem filter_issues (document : Json) (options : Options) :
    (((operations document options).issues ++ (components document).issues).filter
        fun issue => issue.problem.kind ≠ "NonConformingDocument") =
      (operations document options).issues ++ (components document).issues := by
  refine List.filter_eq_self.mpr fun issue reported => decide_eq_true ?_
  rcases List.mem_append.mp reported with ofOperation | ofComponent
  · have known := kind_of_mem_issues_operations ofOperation
    intro departs
    rw [departs] at known
    exact absurd known (by decide)
  · rw [kind_of_mem_issues_components ofComponent]
    decide

/-! ### Loading -/

/-- The document has an object of paths. -/
def HasPaths (document : Json) : Prop := ∃ items, document.get? "paths" = some (.obj items)

/-- A loaded document has what the reduction of the document itself gives, the refusal by a check
against the typed model aside. -/
structure ReducedFrom (document : Json) (options : Options) (found : Specification) : Prop where
  /-- The title is that of the document. -/
  title : found.title = Document.title document
  /-- The server address is that of the options and the document. -/
  baseUrl : found.baseUrl = Document.baseUrl document options
  /-- The operations are those of the document, in order. -/
  operations : found.operations = (Document.operations document options).value
  /-- The components are those of the document, in order. -/
  components : found.components = (Document.components document).value
  /-- What is reported is what is reported of these, in order. -/
  issues : (found.issues.filter fun issue => issue.problem.kind ≠ "NonConformingDocument") =
    (Document.operations document options).issues ++ (Document.components document).issues

/-- Loading agrees with the reduction: it refuses what is no object and what has no object of paths,
each with its cause, and reduces everything else. -/
structure Agrees (document : Json) (options : Options)
    (loaded : Except LoadError Specification) : Prop where
  /-- What is no object is refused as such, and nothing else is. -/
  notAnObject : loaded = .error .notAnObject ↔ document.isObject = false
  /-- An object without an object of paths is refused as such, and nothing else is. -/
  missingPaths : loaded = .error .missingPaths ↔ document.isObject = true ∧ ¬ HasPaths document
  /-- What has an object of paths is reduced, and nothing else is. -/
  reduced : (∃ found, loaded = .ok found ∧ ReducedFrom document options found) ↔ HasPaths document

/-- Having an object of paths is what loading checks. -/
theorem any_isObject_iff :
    (document.get? "paths").any Json.isObject = true ↔ HasPaths document := by
  constructor
  · intro checked
    cases found : document.get? "paths" with
    | none => simp [found] at checked
    | some value =>
      cases value with
      | obj items => exact ⟨items, found⟩
      | _ => simp [found, Json.isObject] at checked
  · rintro ⟨items, found⟩
    rw [found]
    rfl

/-- Only objects have paths. -/
theorem HasPaths.isObject (has : HasPaths document) : document.isObject = true := by
  obtain ⟨items, found⟩ := has
  cases document with
  | obj members => rfl
  | _ => cases found

/-- What is no object is refused. -/
theorem load_of_noObject (other : document.isObject = false) :
    load document options = .error .notAnObject := by
  simp [load, other]

/-- What has no paths is refused. -/
theorem load_of_noPaths (object : document.isObject = true) (none : ¬ HasPaths document) :
    load document options = .error .missingPaths := by
  have unchecked : (document.get? "paths").any Json.isObject = false := by
    rw [← any_isObject_iff] at none
    simpa using none
  simp [load, object, unchecked]

/-- A document with paths is reduced. -/
theorem load_of_paths (has : HasPaths document) :
    load document options = .ok
      { title := title document
        baseUrl := baseUrl document options
        operations := (operations document options).value
        components := (components document).value
        issues := (operations document options).issues ++ (components document).issues } := by
  have same : SameComponents (dropUnknownKeys document) document :=
    get?_dropUnknownKeys (by decide) document
  have sameTitle : title (dropUnknownKeys document) = title document := by
    rw [title, title, get?_dropUnknownKeys (by decide)]
  have sameUrl : baseUrl (dropUnknownKeys document) options = baseUrl document options := by
    rw [baseUrl, baseUrl, serverUrl?, serverUrl?, get?_dropUnknownKeys (by decide)]
  simp only [load, has.isObject, any_isObject_iff.mpr has, sameTitle, sameUrl,
    operations_dropUnknownKeys, same.components_eq]
  rfl

/-- Whatever refuses with the causes of loading and reduces the rest agrees with the reduction. -/
theorem agrees_of_cases {loaded : Except LoadError Specification}
    (noObject : document.isObject = false → loaded = .error .notAnObject)
    (noPaths : document.isObject = true → ¬ HasPaths document → loaded = .error .missingPaths)
    (reduced : HasPaths document →
      ∃ found, loaded = .ok found ∧ ReducedFrom document options found) :
    Agrees document options loaded := by
  cases object : document.isObject with
  | false =>
    have refused := noObject object
    have none : ¬ HasPaths document := fun has => by
      rw [has.isObject] at object
      cases object
    subst refused
    exact ⟨by simp [object], by simp [object], by simp [none]⟩
  | true =>
    by_cases has : HasPaths document
    · obtain ⟨found, rfl, sameAs⟩ := reduced has
      exact ⟨by simp [object], by simp [has], by simp [has, sameAs]⟩
    · have refused := noPaths object has
      subst refused
      exact ⟨by simp [object], by simp [object, has], by simp [has]⟩

/-- Loading agrees with the reduction of the document itself, with or without a check against the
typed model, whatever the check refuses and in which words: what has no object of paths is refused
with its cause, and all else gives the same operations, components and server address and reports
the same. Dropping unknown keys beforehand changes neither the operations nor their order, nor what
is reported of them. -/
theorem loading_agrees (check : ModelCheck) (document : Json) (options : Options) :
    Agrees document options (load document options) ∧
      Agrees document options (loadCheckedBy check document options) ∧
      operations (dropUnknownKeys document) options = operations document options := by
  refine ⟨?_, ?_, operations_dropUnknownKeys document options⟩
  · refine agrees_of_cases load_of_noObject load_of_noPaths fun has => ⟨_, load_of_paths has, ?_⟩
    exact ⟨rfl, rfl, rfl, rfl, filter_issues document options⟩
  · refine agrees_of_cases ?_ ?_ fun has => ?_
    · intro other
      rw [loadCheckedBy, load_of_noObject other]
      rfl
    · intro object none
      rw [loadCheckedBy, load_of_noPaths object none]
      rfl
    · rw [loadCheckedBy, load_of_paths has]
      refine ⟨_, rfl, rfl, rfl, rfl, rfl, ?_⟩
      -- What the check refuses is told first, and all of it is of that kind.
      have refusals : (modelIssues check (dropUnknownKeys document)).filter
          (fun issue => issue.problem.kind ≠ "NonConformingDocument") = [] := by
        refine List.filter_eq_nil_iff.mpr fun issue listed => ?_
        obtain ⟨refusal, -, rfl⟩ := List.mem_map.mp listed
        simp [Problem.kind]
      rw [List.filter_append, refusals]
      exact filter_issues document options

/-- A path item with a key that means nothing, a verb in capitals and an extension. -/
def shoutedItem : Entries Json :=
  [("fetch", .obj []), ("GET", .obj [("responses", .obj [("200", .obj []), ("default", .obj [])])]),
    ("x-owner", .str "shelter")]

/-- A document with a number for its servers. -/
def shoutedDocument : Json :=
  .obj [("servers", .num (.integer 5)), ("paths", .obj [("/pets", .obj shoutedItem)])]

/-- The key that means nothing is dropped and the verb in capitals is not. A check that refuses the
servers adds an issue, and the operation and what is reported of it stay. -/
theorem loading_agrees_shoutedDocument :
    let check : ModelCheck := fun document =>
      (document.get? "servers").map fun _ => "invalid type: integer, expected a sequence"
    dropUnknownKeys shoutedDocument = .obj [("servers", .num (.integer 5)),
        ("paths", .obj [("/pets", .obj shoutedItem.tail)])] ∧
      modelIssues check (dropUnknownKeys shoutedDocument) ≠ [] ∧
      ∃ found, loadCheckedBy check shoutedDocument {} = .ok found ∧
        (found.operations.map fun operation => (operation.verb, operation.route)) =
          [(.get, "/pets")] ∧
        ((found.issues.filter fun issue => issue.problem.kind ≠ "NonConformingDocument").map
          fun issue => issue.problem) = [.missingOperationId, .nonNumericStatus "default"] := by
  intro check
  have has : HasPaths shoutedDocument := ⟨_, rfl⟩
  obtain ⟨found, loaded, reduced⟩ :=
    (loading_agrees check shoutedDocument {}).2.1.reduced.mpr has
  refine ⟨by decide, by decide, found, loaded, ?_, ?_⟩
  · rw [reduced.operations]
    decide
  · rw [reduced.issues]
    decide

end ApiMock.Document
