import ApiMock.Proofs.Document.Dangling
import ApiMock.Proofs.Document.Reduction
import Mathlib.Data.List.Forall2
/-!
# Every key is accounted for

The reduction of a document goes through its keys with several ways out of each turn, and everything
reported ends up in one list. `Accounts` says that nothing is lost on the way: each key has one
fate, and the results and the issues of some kinds are those of the fates, in the order of the keys.
It follows from the same for a single key (`Reported.accounts_gather`), once the keys that are no
verbs are left out (`operations_eq_gather`). What is reported further inside does not count, since
its kinds are others (`kind_of_mem_issues_response`).
-/
namespace ApiMock

/-! ### Fates -/

/-- What becomes of a key. -/
inductive Fate (α : Type) where
  /-- It gives a result. -/
  | kept (result : α)
  /-- It is reported. -/
  | reported (issue : Issue)
  /-- Neither. -/
  | removed

namespace Fate

variable {α : Type}

/-- The result of a key. -/
def result? : Fate α → Option α
  | kept result => some result
  | _ => none

/-- The issue of a key. -/
def issue? : Fate α → Option Issue
  | reported issue => some issue
  | _ => none

/-- Whether a key has neither. -/
def isRemoved : Fate α → Bool
  | removed => true
  | _ => false

/-- Results, issues and removals add up. -/
theorem length_add (fates : List (Fate α)) :
    (fates.filterMap result?).length + (fates.filterMap issue?).length +
      (fates.filter isRemoved).length = fates.length := by
  induction fates with
  | nil => rfl
  | cons fate rest ih =>
    cases fate <;>
      simp only [List.filterMap_cons, List.filter_cons, result?, issue?, isRemoved, if_true,
        Bool.false_eq_true, if_false, List.length_cons] <;> omega

end Fate

/-- The issues of some kinds. -/
def ofKinds (kinds : List String) (issues : List Issue) : List Issue :=
  issues.filter fun issue => issue.problem.kind ∈ kinds

/-- Every key has its fate: the results are those of the keys in order, and so are the issues of
these kinds. -/
def Accounts {ι α : Type} (HasFate : ι → Fate α → Prop) (kinds : List String) (keys : List ι)
    (found : Reported (List α)) : Prop :=
  ∃ fates, List.Forall₂ HasFate keys fates ∧ found.value = fates.filterMap Fate.result? ∧
    ofKinds kinds found.issues = fates.filterMap Fate.issue?

/-- Issues of other kinds do not count. -/
theorem ofKinds_eq_nil {kinds possible : List String} {issues : List Issue}
    (known : ∀ issue ∈ issues, issue.problem.kind ∈ possible)
    (apart : ∀ kind ∈ possible, kind ∉ kinds) : ofKinds kinds issues = [] :=
  List.filter_eq_nil_iff.mpr fun issue listed => by simpa using apart _ (known issue listed)

/-- Issues of these kinds all count. -/
theorem ofKinds_eq_self {kinds : List String} {issues : List Issue}
    (known : ∀ issue ∈ issues, issue.problem.kind ∈ kinds) : ofKinds kinds issues = issues :=
  List.filter_eq_self.mpr fun issue listed => by simpa using known issue listed

/-- Counting goes through a list in two parts. -/
theorem ofKinds_append (kinds : List String) (first second : List Issue) :
    ofKinds kinds (first ++ second) = ofKinds kinds first ++ ofKinds kinds second :=
  List.filter_append ..

/-- The issues of two kinds are those of the one and those of the other. -/
theorem length_ofKinds_pair {first second : String} (different : first ≠ second)
    (issues : List Issue) :
    (ofKinds [first, second] issues).length =
      (ofKinds [first] issues).length + (ofKinds [second] issues).length := by
  induction issues with
  | nil => rfl
  | cons issue rest ih =>
    simp only [ofKinds, List.filter_cons, List.mem_pair, List.mem_singleton,
      decide_eq_true_eq] at ih ⊢
    by_cases isFirst : issue.problem.kind = first
    · have notSecond : issue.problem.kind ≠ second := isFirst ▸ different
      rw [if_pos (.inl isFirst), if_pos isFirst, if_neg notSecond, List.length_cons,
        List.length_cons, ih]
      omega
    · by_cases isSecond : issue.problem.kind = second
      · rw [if_pos (.inr isSecond), if_neg isFirst, if_pos isSecond, List.length_cons,
          List.length_cons, ih]
        omega
      · rw [if_neg (not_or.mpr ⟨isFirst, isSecond⟩), if_neg isFirst, if_neg isSecond, ih]

namespace Reported

variable {ι α : Type}

/-- Results are accounted for when each of them is. -/
theorem accounts_gather {HasFate : ι → Fate α → Prop} {kinds : List String}
    {found : ι → Reported (Option α)} {keys : List ι}
    (each : ∀ key ∈ keys, ∃ fate, HasFate key fate ∧ (found key).value = fate.result? ∧
      ofKinds kinds (found key).issues = fate.issue?.toList) :
    Accounts HasFate kinds keys (gather (keys.map found)) := by
  induction keys with
  | nil => exact ⟨[], .nil, rfl, rfl⟩
  | cons key rest ih =>
    obtain ⟨fate, has, value, issues⟩ := each key List.mem_cons_self
    obtain ⟨fates, hasAll, values, allIssues⟩ :=
      ih fun other later => each other (List.mem_cons_of_mem _ later)
    refine ⟨fate :: fates, .cons has hasAll, ?_, ?_⟩
    · simp only [gather] at values ⊢
      rw [List.map_cons, List.filterMap_cons, List.filterMap_cons, value, values]
    · simp only [gather, ofKinds, List.map_cons, List.flatMap_cons, List.filter_append] at *
      rw [issues, allIssues, List.filterMap_cons]
      cases fate.issue? <;> rfl

/-- What gives neither a result nor issues can be left out. -/
theorem gather_filter {found : ι → Reported (Option α)} {wanted : ι → Bool} {keys : List ι}
    (others : ∀ key ∈ keys, wanted key = false → found key = .clean none) :
    gather (keys.map found) = gather ((keys.filter wanted).map found) := by
  induction keys with
  | nil => rfl
  | cons key rest ih =>
    have later := ih fun other later => others other (List.mem_cons_of_mem _ later)
    simp only [gather, List.map_cons, Reported.mk.injEq] at later ⊢
    cases known : wanted key with
    | true =>
      rw [List.filter_cons_of_pos known, List.map_cons, List.filterMap_cons, List.filterMap_cons,
        List.flatMap_cons, List.flatMap_cons, later.1, later.2]
      exact ⟨rfl, rfl⟩
    | false =>
      have nothing := others key List.mem_cons_self known
      rw [List.filter_cons_of_neg (by simp [known]), List.filterMap_cons, List.flatMap_cons,
        nothing]
      exact later

/-- Gathering group by group is gathering all. -/
theorem concat_map_gather {γ : Type} (found : ι → Reported (Option α)) (group : γ → List ι)
    (groups : List γ) :
    concat (groups.map fun member => gather ((group member).map found)) =
      gather ((groups.flatMap group).map found) := by
  induction groups with
  | nil => rfl
  | cons member rest ih =>
    rw [List.flatMap_cons, List.map_append, gather_append, ← ih]
    simp [concat]

end Reported

namespace Document

/-! ### Verbs -/

/-- The keys of path items that describe requests. -/
def verbNames : List String :=
  ["get", "post", "put", "delete", "patch", "options", "head", "trace"]

/-- A key of a path item, together with its path and what it describes. -/
structure VerbKey where
  /-- The path. -/
  path : String
  /-- The key. -/
  key : String
  /-- What the document says of the requests. -/
  described : Json

/-- The key in lower case. -/
def VerbKey.verb (entry : VerbKey) : String := Text.lowerAscii entry.key

/-- The place of the key, in lower case. -/
def VerbKey.location (entry : VerbKey) : Location := ⟨[entry.path, entry.verb]⟩

/-- The verbs under a path that the options cover, in any letter case. -/
def pathVerbKeys (options : Options) (path : String) (item : Json) : List VerbKey :=
  if options.acceptsPath path then
    ((item.members?.getD []).map fun member => VerbKey.mk path member.1 member.2).filter
      fun entry => entry.verb ∈ verbNames
  else []

/-- The verbs of a document under all paths that the options cover, in document order. -/
def verbKeys (document : Json) (options : Options) : List VerbKey :=
  (paths document).flatMap fun entry => pathVerbKeys options entry.1 entry.2

/-- The verb of a key has the key for its name, in lower case. -/
theorem key_of_ofKey? {key : String} {verb : Verb} (named : Verb.ofKey? key = some verb) :
    verb.key = Text.lowerAscii key := by
  simpa using List.find?_some named

/-- The names of verbs are the keys that have a verb. -/
theorem ofKey?_eq_none_iff {key : String} :
    Verb.ofKey? key = none ↔ Text.lowerAscii key ∉ verbNames := by
  have names : Verb.all.map Verb.key = verbNames := rfl
  rw [Verb.ofKey?, List.find?_eq_none, ← names, List.mem_map]
  simp

/-- All verbs but one can be mocked. -/
theorem isMockable_iff (verb : Verb) : verb.isMockable ↔ verb.key ≠ "trace" := by
  cases verb <;> decide

/-- The capital of a letter in lower case is the capital of the letter. -/
theorem toUpper_toLower (c : Char) : c.toLower.toUpper = c.toUpper := by
  by_cases capital : 'A'.val ≤ c.val ∧ c.val ≤ 'Z'.val
  · have small : c.toNat < 91 := Nat.lt_succ_of_le (UInt32.le_iff_toNat_le.mp capital.2)
    have letters : ∀ n < 91, (Char.ofNat n).toLower.toUpper = (Char.ofNat n).toUpper := by decide
    have settled := letters c.toNat small
    rwa [Char.ofNat_toNat] at settled
  · have same : c.toLower = c := dif_neg capital
    rw [same]

/-- The capitals of a text are those of the text in lower case. -/
theorem upperAscii_lowerAscii (text : String) :
    Text.upperAscii (Text.lowerAscii text) = Text.upperAscii text := by
  have each : Char.toUpper ∘ Char.toLower = Char.toUpper := funext toUpper_toLower
  rw [Text.upperAscii, Text.upperAscii, Text.lowerAscii, Text.onChars, Text.onChars, Text.onChars,
    String.toList_ofList, List.map_map, each]

/-- The operations of a document are those of its verbs, in document order. -/
theorem operations_eq_gather (document : Json) (options : Options) :
    operations document options =
      .gather ((verbKeys document options).map fun entry =>
        operation document options entry.path entry.key entry.described) := by
  have ofPath : ∀ path item, pathOperations document options path item =
      .gather ((pathVerbKeys options path item).map fun entry =>
        operation document options entry.path entry.key entry.described) := by
    intro path item
    unfold pathOperations pathVerbKeys
    split
    · rw [← Reported.gather_filter, List.map_map]
      · rfl
      · intro entry _ unknown
        have unnamed : Verb.ofKey? entry.key = none :=
          ofKey?_eq_none_iff.mpr (of_decide_eq_false unknown)
        rw [operation, unnamed]
    · rfl
  simp only [operations, ofPath]
  rw [verbKeys, ← Reported.concat_map_gather]

/-! ### The fate of a response -/

/-- The keys of the responses of an operation, each with what it describes, in document order. -/
def responseKeys (described : Json) : Entries Json :=
  ((described.get? "responses").bind Json.members?).getD []

/-- What becomes of a response key. -/
inductive ResponseFate (document : Json) (options : Options) (location : Location)
    (described : Json) : String × Json → Fate Response → Prop
  /-- A key that writes a status code which the options cover gives a response: with the key,
  trimmed, the identifier of the operation and the content that the key describes. -/
  | kept {key : String} {value : Json} {status : Nat} {response : Response}
      (numeric : WritesStatus key status) (covered : options.acceptsCode key)
      (code : response.code = Text.trim key) (id : response.id = operationId? described)
      (body : response.content = (content document (location.below key)
        (resolveResponse document location value).value).value) :
      ResponseFate document options location described (key, value) (.kept response)
  /-- A key that writes no status code is reported. -/
  | reported {key : String} {value : Json} (text : ∀ status, ¬ WritesStatus key status) :
      ResponseFate document options location described (key, value)
        (.reported ⟨location, .nonNumericStatus key⟩)
  /-- A status code that the options do not cover is removed. -/
  | removed {key : String} {value : Json} {status : Nat} (numeric : WritesStatus key status)
      (uncovered : options.acceptsCode key = false) :
      ResponseFate document options location described (key, value) .removed

variable {document : Json} {options : Options} {location : Location}

/-- What is reported of a content are references and schemas. -/
theorem kind_of_mem_issues_content {response : Json} {issue : Issue}
    (reported : issue ∈ (content document location response).issues) :
    issue.problem.kind ∈ ["UnresolvedRef", "InvalidSchema"] := by
  obtain ⟨_, _, _, -, -, dangling | unread⟩ := mem_issues_content_iff.mp reported
  · obtain ⟨pointer, -, -, rfl⟩ := mem_danglingIssues_iff.mp dangling
    exact List.mem_cons_self
  · obtain ⟨cause, problem⟩ := problem_of_mem_issues_readSchema unread
    rw [problem]
    exact List.mem_cons_of_mem _ List.mem_cons_self

/-- What is reported of the response that a reference leads to is the reference. -/
theorem kind_of_mem_issues_resolveResponse {response : Json} {issue : Issue}
    (reported : issue ∈ (resolveResponse document location response).issues) :
    issue.problem.kind = "UnresolvedRef" := by
  unfold resolveResponse at reported
  split at reported
  · cases reported
  · split at reported
    · cases reported
    · obtain rfl := List.mem_singleton.mp reported
      rfl

/-- What is reported of a response and its content are references and schemas. -/
theorem kind_of_mem_issues_described {place : Location} {value response : Json} {issue : Issue}
    (reported : issue ∈ (resolveResponse document location value).issues ++
      (content document place response).issues) :
    issue.problem.kind ∈ ["UnresolvedRef", "InvalidSchema"] := by
  rcases List.mem_append.mp reported with outside | inside
  · rw [kind_of_mem_issues_resolveResponse outside]
    exact List.mem_cons_self
  · exact kind_of_mem_issues_content inside

/-- The response under a key that writes no status code. -/
theorem response_of_text {id : Option String} {key : String} {value : Json}
    (text : statusCode? key = none) :
    response document options location id key value =
      ⟨none, [⟨location, .nonNumericStatus key⟩]⟩ := by
  rw [response, text]
  rfl

/-- The response under a status code that the options do not cover. -/
theorem response_of_uncovered {id : Option String} {key : String} {value : Json} {status : Nat}
    (numeric : statusCode? key = some status) (uncovered : options.acceptsCode key = false) :
    response document options location id key value = .clean none := by
  simp [response, numeric, uncovered]

/-- The response under a status code that the options cover. -/
theorem response_of_covered {id : Option String} {key : String} {value : Json} {status : Nat}
    (numeric : statusCode? key = some status) (covered : options.acceptsCode key = true) :
    response document options location id key value =
      ((content document (location.below key)
        (resolveResponse document location value).value).map fun content =>
          some ⟨Text.trim key, id, content⟩).after
        (resolveResponse document location value).issues := by
  simp [response, numeric, covered]

/-- Each response key has its fate, and what is reported beside it are references and schemas. -/
theorem response_fate (described : Json) (entry : String × Json) :
    let found := response document options location (operationId? described) entry.1 entry.2
    ∃ fate beside, ResponseFate document options location described entry fate ∧
      found.value = fate.result? ∧ found.issues = beside ++ fate.issue?.toList ∧
      ∀ issue ∈ beside, issue.problem.kind ∈ ["UnresolvedRef", "InvalidSchema"] := by
  obtain ⟨key, value⟩ := entry
  intro found
  cases written : statusCode? key with
  | none =>
    have text : ∀ status, ¬ WritesStatus key status := by
      intro status writes
      rw [statusCode?_eq_some_iff.mpr writes] at written
      cases written
    refine ⟨_, [], .reported text, ?_⟩
    simp only [found, response_of_text written]
    exact ⟨rfl, rfl, nofun⟩
  | some status =>
    have numeric : WritesStatus key status := statusCode?_eq_some_iff.mp written
    cases covered : options.acceptsCode key with
    | false =>
      refine ⟨_, [], .removed numeric covered, ?_⟩
      simp only [found, response_of_uncovered written covered]
      exact ⟨rfl, rfl, nofun⟩
    | true =>
      let body := (content document (location.below key)
        (resolveResponse document location value).value).value
      let kept : Response := ⟨Text.trim key, operationId? described, body⟩
      have fate : ResponseFate document options location described (key, value) (.kept kept) :=
        .kept numeric covered rfl rfl rfl
      refine ⟨_, found.issues, fate, ?_⟩
      simp only [found, response_of_covered written covered]
      exact ⟨rfl, (List.append_nil _).symm, fun _ => kind_of_mem_issues_described⟩

/-- The issue of a response key says that it is no status code. -/
theorem ResponseFate.kind_of_mem_issue? {described : Json} {entry : String × Json}
    {fate : Fate Response} (has : ResponseFate document options location described entry fate) :
    ∀ issue ∈ fate.issue?.toList, issue.problem.kind ∈ ["NonNumericStatus"] := by
  intro issue listed
  cases has with
  | reported =>
    rw [List.mem_singleton.mp listed]
    exact List.mem_cons_self
  | kept => cases listed
  | removed => cases listed

/-- The issue of an operation without an identifier does not count among its responses. -/
theorem ofKinds_issues_responses (described : Json) {kinds : List String}
    (other : "MissingOperationId" ∉ kinds) :
    ofKinds kinds (responses document options location described).issues =
      ofKinds kinds (Reported.gather ((responseKeys described).map fun entry =>
        response document options location (operationId? described) entry.1 entry.2)).issues := by
  have missing : ofKinds kinds
      (if (operationId? described).isNone then [⟨location, .missingOperationId⟩] else []) = [] := by
    have apart : ∀ kind ∈ ["MissingOperationId"], kind ∉ kinds := by simpa using other
    split
    · refine ofKinds_eq_nil (fun issue listed => ?_) apart
      rw [List.mem_singleton.mp listed]
      exact List.mem_cons_self
    · rfl
  simp only [responses, Reported.after, ofKinds_append, missing, List.nil_append]
  rfl

/-- The responses of an operation account for its keys. -/
theorem accounts_responses (document : Json) (options : Options) (location : Location)
    (described : Json) :
    Accounts (ResponseFate document options location described) ["NonNumericStatus"]
      (responseKeys described) (responses document options location described) := by
  obtain ⟨fates, each, values, issues⟩ :
      Accounts (ResponseFate document options location described) ["NonNumericStatus"]
        (responseKeys described)
        (.gather ((responseKeys described).map fun entry =>
          response document options location (operationId? described) entry.1 entry.2)) := by
    refine Reported.accounts_gather fun entry _ => ?_
    obtain ⟨fate, beside, has, value, issues, kinds⟩ := response_fate described entry
    have apart : ∀ kind ∈ ["UnresolvedRef", "InvalidSchema"], kind ∉ ["NonNumericStatus"] := by
      decide
    refine ⟨fate, has, value, ?_⟩
    rw [issues, ofKinds_append, ofKinds_eq_nil kinds apart, List.nil_append,
      ofKinds_eq_self has.kind_of_mem_issue?]
  have other : "MissingOperationId" ∉ ["NonNumericStatus"] := by decide
  exact ⟨fates, each, values, (ofKinds_issues_responses described other).trans issues⟩

/-- What is reported of a response key. -/
theorem kind_of_mem_issues_response {described : Json} {entry : String × Json} {issue : Issue}
    (reported : issue ∈
      (response document options location (operationId? described) entry.1 entry.2).issues) :
    issue.problem.kind ∈ ["NonNumericStatus", "UnresolvedRef", "InvalidSchema"] := by
  obtain ⟨fate, beside, has, -, issues, kinds⟩ := response_fate described entry
  rw [issues] at reported
  rcases List.mem_append.mp reported with outside | own
  · exact List.mem_cons_of_mem _ (kinds issue outside)
  · exact List.mem_cons.mpr (.inl (List.mem_singleton.mp (has.kind_of_mem_issue? issue own)))

/-- The responses of an operation are not reported as operations are. -/
theorem ofKinds_issues_responses_eq_nil (described : Json) :
    ofKinds ["UnsupportedMethod", "NoResponses"]
      (responses document options location described).issues = [] := by
  rw [ofKinds_issues_responses described (by decide)]
  have apart : ∀ kind ∈ ["NonNumericStatus", "UnresolvedRef", "InvalidSchema"],
      kind ∉ ["UnsupportedMethod", "NoResponses"] := by decide
  refine ofKinds_eq_nil (fun issue listed => ?_) apart
  obtain ⟨found, member, reported⟩ := List.mem_flatMap.mp listed
  obtain ⟨entry, -, rfl⟩ := List.mem_map.mp member
  exact kind_of_mem_issues_response reported

/-! ### The fate of an operation -/

/-- What becomes of a verb of a path item. -/
inductive OperationFate (document : Json) (options : Options) : VerbKey → Fate Operation → Prop
  /-- A verb that can be mocked and has responses left gives an operation: with the key in capitals
  for its method, the route of the path, and the responses. -/
  | kept {entry : VerbKey} {operation : Operation} (mockable : entry.verb ≠ "trace")
      (method : (Method.ofVerb operation.verb).name = Text.upperAscii entry.key)
      (route : operation.route = routeOfPath entry.path)
      (answers : operation.responses =
        (responses document options entry.location entry.described).value)
      (filled : operation.responses ≠ []) :
      OperationFate document options entry (.kept operation)
  /-- The verb that cannot be mocked is reported. -/
  | unsupported {entry : VerbKey} (trace : entry.verb = "trace") :
      OperationFate document options entry (.reported ⟨entry.location, .unsupportedMethod⟩)
  /-- A verb without responses is reported. -/
  | noResponses {entry : VerbKey} (mockable : entry.verb ≠ "trace")
      (vacant : (responses document options entry.location entry.described).value = []) :
      OperationFate document options entry (.reported ⟨entry.location, .noResponses⟩)

/-- Each verb of a document has a verb for its key. -/
theorem exists_verb_of_mem_verbKeys {entry : VerbKey} (listed : entry ∈ verbKeys document options) :
    ∃ verb, Verb.ofKey? entry.key = some verb := by
  obtain ⟨⟨path, item⟩, -, listed⟩ := List.mem_flatMap.mp listed
  simp only [pathVerbKeys] at listed
  split at listed
  · have known : entry.verb ∈ verbNames := of_decide_eq_true (List.mem_filter.mp listed).2
    cases named : Verb.ofKey? entry.key with
    | none => exact absurd known (ofKey?_eq_none_iff.mp named)
    | some verb => exact ⟨verb, rfl⟩
  · cases listed

section

variable {entry : VerbKey} {verb : Verb}

/-- The place of a key names its verb. -/
theorem location_eq (named : Verb.ofKey? entry.key = some verb) :
    entry.location = ⟨[entry.path, verb.key]⟩ := by
  rw [VerbKey.location, VerbKey.verb, key_of_ofKey? named]

/-- The operation of the verb that cannot be mocked. -/
theorem operation_of_trace (named : Verb.ofKey? entry.key = some verb)
    (trace : verb.isMockable = false) :
    operation document options entry.path entry.key entry.described =
      ⟨none, [⟨entry.location, .unsupportedMethod⟩]⟩ := by
  simp [operation, named, trace, location_eq named]

/-- The operation of a verb without responses. -/
theorem operation_of_vacant (named : Verb.ofKey? entry.key = some verb)
    (mockable : verb.isMockable = true)
    (vacant : (responses document options entry.location entry.described).value = []) :
    operation document options entry.path entry.key entry.described =
      ⟨none, (responses document options entry.location entry.described).issues ++
        [⟨entry.location, .noResponses⟩]⟩ := by
  rw [location_eq named] at vacant ⊢
  simp [operation, named, mockable, vacant]

/-- The operation of a verb with responses. -/
theorem operation_of_filled (named : Verb.ofKey? entry.key = some verb)
    (mockable : verb.isMockable = true)
    (filled : (responses document options entry.location entry.described).value ≠ []) :
    operation document options entry.path entry.key entry.described =
      ⟨some ⟨verb, routeOfPath entry.path,
          (responses document options entry.location entry.described).value⟩,
        (responses document options entry.location entry.described).issues⟩ := by
  rw [location_eq named] at filled ⊢
  simp [operation, named, mockable, filled]

end

/-- Each verb has its fate, and what is reported beside it comes from its responses. -/
theorem operation_fate {entry : VerbKey} (listed : entry ∈ verbKeys document options) :
    let found := operation document options entry.path entry.key entry.described
    ∃ fate, OperationFate document options entry fate ∧ found.value = fate.result? ∧
      found.issues = (if entry.verb = "trace" then []
        else (responses document options entry.location entry.described).issues) ++
          fate.issue?.toList := by
  intro found
  obtain ⟨verb, named⟩ := exists_verb_of_mem_verbKeys listed
  have key : verb.key = entry.verb := key_of_ofKey? named
  cases mockable : verb.isMockable with
  | false =>
    have trace : entry.verb = "trace" := by
      by_contra other
      have contrary := (isMockable_iff verb).mpr (key ▸ other)
      rw [mockable] at contrary
      cases contrary
    refine ⟨_, .unsupported trace, ?_⟩
    simp only [found, operation_of_trace named mockable, if_pos trace]
    exact ⟨rfl, rfl⟩
  | true =>
    have other : entry.verb ≠ "trace" := key ▸ (isMockable_iff verb).mp mockable
    let answers := responses document options entry.location entry.described
    by_cases vacant : answers.value = []
    · refine ⟨_, .noResponses other vacant, ?_⟩
      simp only [found, operation_of_vacant named mockable vacant, if_neg other]
      exact ⟨rfl, rfl⟩
    · let kept : Operation := ⟨verb, routeOfPath entry.path, answers.value⟩
      have method : (Method.ofVerb kept.verb).name = Text.upperAscii entry.key := by
        rw [Method.ofVerb, key, VerbKey.verb, upperAscii_lowerAscii]
      have fate : OperationFate document options entry (.kept kept) :=
        .kept other method rfl rfl vacant
      refine ⟨_, fate, ?_⟩
      simp only [found, operation_of_filled named mockable vacant, if_neg other]
      exact ⟨rfl, (List.append_nil _).symm⟩

/-- The issue of a verb says that it cannot be mocked or that it has no responses. -/
theorem OperationFate.kind_of_mem_issue? {entry : VerbKey} {fate : Fate Operation}
    (has : OperationFate document options entry fate) :
    ∀ issue ∈ fate.issue?.toList, issue.problem.kind ∈ ["UnsupportedMethod", "NoResponses"] := by
  intro issue listed
  cases has with
  | kept => cases listed
  | unsupported =>
    rw [List.mem_singleton.mp listed]
    exact List.mem_cons_self
  | noResponses =>
    rw [List.mem_singleton.mp listed]
    exact List.mem_cons_of_mem _ List.mem_cons_self

/-- The operations of a document account for its verbs. -/
theorem accounts_operations (document : Json) (options : Options) :
    Accounts (OperationFate document options) ["UnsupportedMethod", "NoResponses"]
      (verbKeys document options) (operations document options) := by
  rw [operations_eq_gather]
  refine Reported.accounts_gather fun entry listed => ?_
  obtain ⟨fate, has, value, issues⟩ := operation_fate listed
  refine ⟨fate, has, value, ?_⟩
  rw [issues, ofKinds_append, ofKinds_eq_self has.kind_of_mem_issue?]
  split
  · rfl
  · rw [ofKinds_issues_responses_eq_nil, List.nil_append]

/-- What is reported of response keys comes from the verbs that can be mocked, verb by verb. -/
theorem ofKinds_issues_operations (document : Json) (options : Options) :
    ofKinds ["NonNumericStatus"] (operations document options).issues =
      (verbKeys document options).flatMap fun entry =>
        if entry.verb = "trace" then []
        else ofKinds ["NonNumericStatus"]
          (responses document options entry.location entry.described).issues := by
  rw [operations_eq_gather, Reported.gather, ofKinds, List.filter_flatMap, List.flatMap_map]
  refine List.flatMap_congr fun entry listed => ?_
  obtain ⟨fate, has, -, issues⟩ := operation_fate listed
  have apart : ∀ kind ∈ ["UnsupportedMethod", "NoResponses"], kind ∉ ["NonNumericStatus"] := by
    decide
  have own : ofKinds ["NonNumericStatus"] fate.issue?.toList = [] :=
    ofKinds_eq_nil has.kind_of_mem_issue? apart
  rw [issues, ← ofKinds, ofKinds_append, own, List.append_nil]
  split <;> rfl

/-- No verb is removed. -/
theorem filter_isRemoved_eq_nil {keys : List VerbKey} {fates : List (Fate Operation)}
    (each : List.Forall₂ (OperationFate document options) keys fates) :
    fates.filter Fate.isRemoved = [] := by
  induction each with
  | nil => rfl
  | cons has _ ih => cases has <;> rw [List.filter_cons_of_neg (by simp [Fate.isRemoved]), ih]

/-- Operations and the two kinds of issues add up to the verbs. -/
theorem length_operations_add (document : Json) (options : Options) :
    let found := operations document options
    found.value.length + (ofKinds ["UnsupportedMethod"] found.issues).length +
      (ofKinds ["NoResponses"] found.issues).length = (verbKeys document options).length := by
  intro found
  obtain ⟨fates, each, values, issues⟩ := accounts_operations document options
  have different : "UnsupportedMethod" ≠ "NoResponses" := by decide
  calc found.value.length + (ofKinds ["UnsupportedMethod"] found.issues).length +
        (ofKinds ["NoResponses"] found.issues).length
    _ = found.value.length +
        (ofKinds ["UnsupportedMethod", "NoResponses"] found.issues).length := by
      rw [length_ofKinds_pair different, Nat.add_assoc]
    _ = (fates.filterMap Fate.result?).length + (fates.filterMap Fate.issue?).length +
        (fates.filter Fate.isRemoved).length := by
      rw [values, issues, filter_isRemoved_eq_nil each, List.length_nil, Nat.add_zero]
    _ = (verbKeys document options).length := by rw [Fate.length_add, each.length_eq]

/-- Nothing disappears silently. Each verb of the paths that the options cover gives an operation
or is reported, either as a verb that cannot be mocked or as one without responses, and all of
these are in document order. Each key of its responses gives a response, is reported or is removed
by the options, again in document order, and no other response keys are reported. -/
theorem keys_accounted (document : Json) (options : Options) :
    let found := operations document options
    Accounts (OperationFate document options) ["UnsupportedMethod", "NoResponses"]
        (verbKeys document options) found ∧
      found.value.length + (ofKinds ["UnsupportedMethod"] found.issues).length +
        (ofKinds ["NoResponses"] found.issues).length = (verbKeys document options).length ∧
      (∀ location described,
        Accounts (ResponseFate document options location described) ["NonNumericStatus"]
          (responseKeys described) (responses document options location described)) ∧
      ofKinds ["NonNumericStatus"] found.issues =
        (verbKeys document options).flatMap fun entry =>
          if entry.verb = "trace" then []
          else ofKinds ["NonNumericStatus"]
            (responses document options entry.location entry.described).issues :=
  ⟨accounts_operations document options, length_operations_add document options,
    accounts_responses document options, ofKinds_issues_operations document options⟩

end Document

end ApiMock
