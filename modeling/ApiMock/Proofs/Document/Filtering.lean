import ApiMock.Proofs.Document.Paths
/-!
# Filters

The filters of the options are looked at in the middle of the reduction, beside the checks that
report something. They could as well be carried out before it: what the options do not cover is
deleted from the document (`dropUncovered`), and the rest is reduced without filters. Both ways give
the same operations and report the same in the same order, since what a filter removes is never
reported and what it keeps is looked at alone. So a filter leaves what it keeps as it was.
-/
namespace ApiMock

/-- The options without their filters. -/
def Options.unfiltered (options : Options) : Options :=
  { options with includes := none, excludes := none, codes := none }

namespace Options

/-- Without filters all paths are covered. -/
theorem acceptsPath_unfiltered (options : Options) (path : String) :
    options.unfiltered.acceptsPath path = true := by
  have nothing : Text.listEntries "" = [] := by decide
  simp [acceptsPath, unfiltered, nothing]

/-- Without filters all codes are covered. -/
theorem acceptsCode_unfiltered (options : Options) (code : String) :
    options.unfiltered.acceptsCode code = true := by
  have nothing : Text.listEntries "" = [] := by decide
  simp [acceptsCode, unfiltered, nothing]

/-- White space around a code does not matter. -/
theorem acceptsCode_trim (options : Options) (code : String) :
    options.acceptsCode (Text.trim code) = options.acceptsCode code := by
  rw [acceptsCode, acceptsCode, Text.trim_trim]

end Options

/-- An operation with those of its responses that the options cover. -/
def Operation.covered (options : Options) (operation : Operation) : Operation :=
  { operation with
    responses := operation.responses.filter fun response => options.acceptsCode response.code }

namespace Document

/-- Whether a response key stays where the options are carried out first: keys that write no status
code stay, whatever the options cover. -/
def staysUncovered (options : Options) (entry : String × Json) : Bool :=
  (statusCode? entry.1).isNone || options.acceptsCode entry.1

/-- What is described of an operation without the status codes that the options do not cover. -/
def dropResponses (options : Options) (described : Json) : Json :=
  described.mapMember "responses" (Json.onMembers (List.filter (staysUncovered options)))

/-- A member of a path item; what a verb describes is without the status codes that the options do
not cover. -/
def dropWithin (options : Options) (member : String × Json) : String × Json :=
  if (Verb.ofKey? member.1).isSome then (member.1, dropResponses options member.2) else member

/-- The paths that the options cover, without the status codes that they do not cover. -/
def dropPaths (options : Options) (paths : Entries Json) : Entries Json :=
  (paths.filter fun path => options.acceptsPath path.1).map fun path =>
    (path.1, path.2.onMembers (List.map (dropWithin options)))

/-- The document without the paths that the options do not cover, and without the status codes that
they do not cover in all operations of the other paths. -/
def dropUncovered (options : Options) (document : Json) : Json :=
  document.mapMember "paths" (Json.onMembers (dropPaths options))

variable {document : Json} {options : Options} {location : Location}

/-! ### Responses -/

/-- The filter of codes does not change what is found under a key that stays. -/
theorem response_unfiltered {id : Option String} {entry : String × Json}
    (stays : staysUncovered options entry = true) :
    response document options.unfiltered location id entry.1 entry.2 =
      response document options location id entry.1 entry.2 := by
  cases written : statusCode? entry.1 with
  | none => rw [response_of_text written, response_of_text written]
  | some status =>
    have covered : options.acceptsCode entry.1 = true := by
      simpa [staysUncovered, written] using stays
    rw [response_of_covered written covered,
      response_of_covered written (options.acceptsCode_unfiltered entry.1)]

/-- Nothing is found or reported under a key that does not stay. -/
theorem response_of_dropped {id : Option String} {entry : String × Json}
    (dropped : staysUncovered options entry = false) :
    response document options location id entry.1 entry.2 = .clean none := by
  obtain ⟨numeric, uncovered⟩ := Bool.or_eq_false_iff.mp dropped
  cases written : statusCode? entry.1 with
  | none => simp [written] at numeric
  | some status => exact response_of_uncovered written uncovered

/-- The responses that the options cover are those of the operation without the codes that they do
not cover. -/
theorem responses_dropResponses (described : Json) :
    responses document options.unfiltered location (dropResponses options described) =
      responses document options location described := by
  have id : operationId? (dropResponses options described) = operationId? described := by
    have other : "operationId" ≠ "responses" := by decide
    rw [operationId?, operationId?, Json.getText?, Json.getText?, dropResponses,
      Json.get?_mapMember_of_ne other]
  have keys : responseKeys (dropResponses options described) =
      (responseKeys described).filter (staysUncovered options) :=
    membersUnder_mapMember rfl described
  have each : Reported.gather ((responseKeys (dropResponses options described)).map fun entry =>
        response document options.unfiltered location (operationId? described) entry.1 entry.2) =
      Reported.gather ((responseKeys described).map fun entry =>
        response document options location (operationId? described) entry.1 entry.2) := by
    rw [keys]
    have same : ∀ entry ∈ (responseKeys described).filter (staysUncovered options),
        response document options.unfiltered location (operationId? described) entry.1 entry.2 =
          response document options location (operationId? described) entry.1 entry.2 :=
      fun entry listed => response_unfiltered (List.mem_filter.mp listed).2
    rw [List.map_congr_left same]
    exact (Reported.gather_filter fun entry _ dropped => response_of_dropped dropped).symm
  rw [responses, responses, id]
  exact congrArg _ each

/-- The responses that the options cover are among those that are found without filters. -/
theorem value_responses (described : Json) :
    (responses document options location described).value =
      (responses document options.unfiltered location described).value.filter
        fun response => options.acceptsCode response.code := by
  simp only [responses, Reported.after, Reported.gather, List.filterMap_map, List.filter_filterMap]
  refine List.filterMap_congr fun entry _ => ?_
  simp only [Function.comp_apply]
  cases written : statusCode? entry.1 with
  | none =>
    rw [response_of_text written, response_of_text written]
    rfl
  | some status =>
    let found : ApiMock.Response := ⟨Text.trim entry.1, operationId? described,
      (content document (location.below entry.1)
        (resolveResponse document location entry.2).value).value⟩
    have trimmed : options.acceptsCode found.code = options.acceptsCode entry.1 :=
      options.acceptsCode_trim entry.1
    rw [response_of_covered written (options.acceptsCode_unfiltered entry.1)]
    change _ = (some found).filter fun response => options.acceptsCode response.code
    rw [Option.filter_some, trimmed]
    cases covered : options.acceptsCode entry.1 with
    | true =>
      rw [response_of_covered written covered]
      rfl
    | false =>
      rw [response_of_uncovered written covered]
      rfl

/-! ### Verbs -/

/-- A verb without the status codes that the options do not cover. -/
def VerbKey.covered (options : Options) (entry : VerbKey) : VerbKey :=
  { entry with described := dropResponses options entry.described }

/-- What gives nothing can be left out of a collection. -/
theorem flatMap_filter {α β : Type} {wanted : α → Bool} {found : α → List β} {keys : List α}
    (others : ∀ key ∈ keys, wanted key = false → found key = []) :
    (keys.filter wanted).flatMap found = keys.flatMap found := by
  induction keys with
  | nil => rfl
  | cons key rest ih =>
    have later := ih fun other listed => others other (List.mem_cons_of_mem _ listed)
    cases known : wanted key with
    | true => rw [List.filter_cons_of_pos known, List.flatMap_cons, List.flatMap_cons, later]
    | false =>
      have nothing := others key List.mem_cons_self known
      rw [List.filter_cons_of_neg (by simp [known]), List.flatMap_cons, nothing, later]
      rfl

/-- A member keeps its key. -/
theorem fst_dropWithin (member : String × Json) : (dropWithin options member).1 = member.1 := by
  unfold dropWithin
  split <;> rfl

/-- The verbs under a path item are those of the item without what the options do not cover. -/
theorem pathVerbKeys_dropWithin {path : String} (covered : options.acceptsPath path = true)
    (item : Json) :
    pathVerbKeys options.unfiltered path (item.onMembers (List.map (dropWithin options))) =
      (pathVerbKeys options path item).map (VerbKey.covered options) := by
  have kept : describesVerb ∘ dropWithin options = describesVerb := by
    funext member
    rw [Function.comp_apply, describesVerb, describesVerb, fst_dropWithin]
  rw [pathVerbKeys_of_covered covered,
    pathVerbKeys_of_covered (options.acceptsPath_unfiltered path), Json.members?_onMembers rfl,
    List.filter_map, kept, List.map_map, List.map_map]
  refine List.map_congr_left fun member verb => ?_
  have named : (Verb.ofKey? member.1).isSome := by
    rw [← describesVerb_eq]
    exact (List.mem_filter.mp verb).2
  simp only [Function.comp_apply, dropWithin, if_pos named, VerbKey.covered]

/-- The verbs that the options cover are those that are left without what they do not cover. -/
theorem verbKeys_dropUncovered (document : Json) (options : Options) :
    verbKeys (dropUncovered options document) options.unfiltered =
      (verbKeys document options).map (VerbKey.covered options) := by
  have each : ∀ path ∈ (paths document).filter (fun path => options.acceptsPath path.1),
      pathVerbKeys options.unfiltered path.1
          (path.2.onMembers (List.map (dropWithin options))) =
        (pathVerbKeys options path.1 path.2).map (VerbKey.covered options) := by
    intro path listed
    have covered : options.acceptsPath path.1 = true := (List.mem_filter.mp listed).2
    exact pathVerbKeys_dropWithin covered path.2
  have left : paths (dropUncovered options document) = dropPaths options (paths document) :=
    paths_mapMember rfl document
  rw [verbKeys, left, dropPaths, List.flatMap_map, List.flatMap_congr each, flatMap_filter,
    verbKeys, List.map_flatMap]
  intro path _ uncovered
  rw [pathVerbKeys_of_uncovered uncovered]
  rfl

/-- The verbs that the options cover are among those that are found without filters. -/
theorem verbKeys_eq_filter (document : Json) (options : Options) :
    verbKeys document options = (verbKeys document options.unfiltered).filter
      fun entry => options.acceptsPath entry.path := by
  rw [verbKeys, verbKeys, List.filter_flatMap]
  refine List.flatMap_congr fun path _ => ?_
  have ofPath : ∀ entry ∈ pathVerbKeys options.unfiltered path.1 path.2,
      options.acceptsPath entry.path = options.acceptsPath path.1 :=
    fun entry listed => congrArg _ (path_of_mem_pathVerbKeys listed)
  rw [List.filter_congr ofPath]
  cases covered : options.acceptsPath path.1 with
  | true =>
    rw [List.filter_true, pathVerbKeys_of_covered covered,
      pathVerbKeys_of_covered (options.acceptsPath_unfiltered path.1)]
  | false => rw [List.filter_false, pathVerbKeys_of_uncovered covered]

/-! ### Operations -/

/-- The operation under a verb is that of the verb without the status codes that the options do not
cover. -/
theorem operation_covered (entry : VerbKey) :
    operation document options.unfiltered entry.path entry.key
        (entry.covered options).described =
      operation document options entry.path entry.key entry.described := by
  simp only [operation, VerbKey.covered, responses_dropResponses]

/-- The operation under a verb is the one that is found without filters, with the responses that the
options cover, unless none of these is left. -/
theorem value_operation (entry : VerbKey) :
    (operation document options entry.path entry.key entry.described).value =
      ((operation document options.unfiltered entry.path entry.key entry.described).value.filter
        fun operation => !(operation.covered options).responses.isEmpty).map
          (Operation.covered options) := by
  cases named : Verb.ofKey? entry.key with
  | none =>
    simp only [operation, named]
    rfl
  | some verb =>
    cases mockable : verb.isMockable with
    | false =>
      rw [operation_of_trace named mockable, operation_of_trace named mockable]
      rfl
    | true =>
      have kept : (responses document options entry.location entry.described).value =
          (responses document options.unfiltered entry.location entry.described).value.filter
            fun response => options.acceptsCode response.code :=
        value_responses entry.described
      by_cases vacant :
          (responses document options.unfiltered entry.location entry.described).value = []
      · -- Where there are no responses without filters, the filters leave none.
        have none : (responses document options entry.location entry.described).value = [] := by
          rw [kept, vacant, List.filter_nil]
        rw [operation_of_vacant named mockable vacant, operation_of_vacant named mockable none]
        rfl
      · let full : Operation := ⟨verb, routeOfPath entry.path,
          (responses document options.unfiltered entry.location entry.described).value⟩
        have left : (full.covered options).responses =
            (responses document options entry.location entry.described).value := kept.symm
        rw [operation_of_filled named mockable vacant]
        change _ = ((some full).filter _).map _
        rw [Option.filter_some, left]
        by_cases none : (responses document options entry.location entry.described).value = []
        · rw [operation_of_vacant named mockable none, none]
          rfl
        · rw [operation_of_filled named mockable none, ← left, if_pos (by simp [left, none])]
          rfl

/-- Filters can be carried out before the reduction: the operations are those of the document
without the paths and status codes that the options do not cover, and the same is reported in the
same order. What the filters keep is as it is found without them, in the same order: an operation
loses no more than the responses that the options do not cover. -/
theorem operations_dropUncovered (document : Json) (options : Options) :
    operations document options = operations (dropUncovered options document) options.unfiltered ∧
      ∃ kept : List Operation, kept.Sublist (operations document options.unfiltered).value ∧
        (operations document options).value = kept.map (Operation.covered options) := by
  constructor
  · have same : SameComponents (dropUncovered options document) document :=
      sameComponents_mapMember (by decide) _ document
    have each : ∀ entry ∈ verbKeys document options,
        operation document options entry.path entry.key entry.described =
          operation document options.unfiltered entry.path entry.key
            (entry.covered options).described :=
      fun entry _ => (operation_covered entry).symm
    rw [operations_eq_gather, operations_eq_gather, verbKeys_dropUncovered, same.operation_eq,
      List.map_map, List.map_congr_left each]
    rfl
  · rw [operations_eq_gather, operations_eq_gather, verbKeys_eq_filter document options]
    let found (entry : VerbKey) : Option Operation :=
      (operation document options.unfiltered entry.path entry.key entry.described).value
    let answers (operation : Operation) : Bool :=
      !(operation.covered options).responses.isEmpty
    let covered := (verbKeys document options.unfiltered).filter fun entry =>
      options.acceptsPath entry.path
    refine ⟨(covered.filterMap found).filter answers, ?_, ?_⟩
    · simp only [Reported.gather, List.filterMap_map]
      exact (List.filter_sublist).trans (List.filter_sublist.filterMap found)
    · simp only [Reported.gather, List.filterMap_map, List.filter_filterMap, List.map_filterMap]
      exact List.filterMap_congr fun entry _ => value_operation entry

/-- Options that leave out the paths of the administration and all codes but one. -/
def shopOptions : Options := { excludes := some " admin ,,", codes := some "200" }

/-- A path item with a verb in capitals, which has the given responses. -/
def listing (responses : Entries Json) : Json :=
  .obj [("summary", .str "A list."), ("GET", .obj [("responses", .obj responses)])]

/-- A shop with a path that is covered and one that is not. -/
def shopDocument : Json :=
  .obj [("paths", .obj [
    ("/admin/logs", listing [("200", .obj [])]),
    ("/pets", listing [("404", .obj []), (" 200 ", .obj []), ("default", .obj [])])])]

/-- One path and one code are deleted. The covered response is kept, and what is no code is kept and
reported, as it is with the filters. -/
theorem operations_dropUncovered_shopDocument :
    let left : Json := .obj [("paths", .obj [
      ("/pets", listing [(" 200 ", .obj []), ("default", .obj [])])])]
    let found := operations shopDocument shopOptions
    dropUncovered shopOptions shopDocument = left ∧ found = operations left {} ∧
      (found.value.map fun operation => (operation.verb, operation.route)) = [(.get, "/pets")] ∧
      (found.value.flatMap Operation.responses).map Response.code = ["200"] ∧
      found.issues.map Issue.problem = [.missingOperationId, .nonNumericStatus "default"] ∧
      (operations shopDocument {}).value.length = 2 := by
  intro left found
  have dropped : dropUncovered shopOptions shopDocument = left := by decide
  have same : found = operations left {} := by
    have before := (operations_dropUncovered shopDocument shopOptions).1
    rw [dropped] at before
    exact before
  rw [same]
  exact ⟨dropped, rfl, by decide, by decide, by decide, by decide⟩

end Document

end ApiMock
