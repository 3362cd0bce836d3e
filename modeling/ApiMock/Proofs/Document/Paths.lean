import ApiMock.Document.Load
import ApiMock.Proofs.Document.Accounting
import ApiMock.Proofs.Document.Chain
/-!
# Documents with the same components

What a document says of an operation is read off the operation and the components, and off nothing
else of the document. So documents with the same components agree wherever they describe the same
operations (`SameComponents.operation_eq`), and a pass over the paths that goes before the reduction
matters only for the verbs that it leaves (`verbKeys`).
-/
namespace ApiMock

namespace Json

/-- Change the members of an object; other values stay as they are. -/
def onMembers (change : Entries Json → Entries Json) : Json → Json
  | obj members => obj (change members)
  | value => value

variable {change : Entries Json → Entries Json}

/-- The members after a change of an object are the changed ones, if nothing comes from nothing. -/
theorem members?_onMembers (nothing : change [] = []) (value : Json) :
    (value.onMembers change).members?.getD [] = change (value.members?.getD []) := by
  cases value with
  | obj members => rfl
  | _ => exact nothing.symm

/-- After a change of one member, what is read under a key is changed if the key is that of the member. -/
theorem get?_mapMember (key other : String) (change : Json → Json) (value : Json) :
    (value.mapMember key change).get? other =
      (value.get? other).map (if other = key then change else id) := by
  cases value with
  | obj members =>
    have each : ∀ member : String × Json,
        (if member.1 = key then (member.1, change member.2) else member) =
          (member.1, (if member.1 = key then change else id) member.2) := by
      intro member
      split <;> rfl
    rw [mapMember]
    simp only [each]
    exact Entries.get?_map members (fun name => if name = key then change else id) other
  | _ => rfl

/-- A changed member is read as the change of what was read before. -/
theorem get?_mapMember_self (key : String) (change : Json → Json) (value : Json) :
    (value.mapMember key change).get? key = (value.get? key).map change := by
  rw [get?_mapMember, if_pos rfl]

/-- The other members of an object are read as before. -/
theorem get?_mapMember_of_ne {key other : String} (different : other ≠ key)
    (change : Json → Json) (value : Json) :
    (value.mapMember key change).get? other = value.get? other := by
  rw [get?_mapMember, if_neg different]
  exact Option.map_id'

end Json

namespace Document

/-- The members under a key of an object of objects, none where there is no object. -/
theorem membersUnder_mapMember {key : String} {change : Entries Json → Entries Json}
    (nothing : change [] = []) (value : Json) :
    (((value.mapMember key (Json.onMembers change)).get? key).bind Json.members?).getD [] =
      change (((value.get? key).bind Json.members?).getD []) := by
  rw [Json.get?_mapMember_self]
  cases value.get? key with
  | none => exact nothing.symm
  | some inner => exact Json.members?_onMembers nothing inner

/-! ### What is read of the components -/

/-- Two documents have the same components. -/
def SameComponents (first second : Json) : Prop :=
  first.get? "components" = second.get? "components"

namespace SameComponents

variable {first second : Json}

/-- The sections of components are the same. -/
theorem section?_eq (same : SameComponents first second) : section? first = section? second := by
  funext name
  rw [section?, section?, same]

/-- The definitions of schema components are the same. -/
theorem component?_eq (same : SameComponents first second) :
    component? first = component? second := by
  funext name
  rw [component?, component?, same.section?_eq]

/-- Expansion opens the same components, and so it does the same. -/
theorem expandWithin_eq (same : SameComponents first second) (chain : List String) (value : Json) :
    expandWithin first chain value = expandWithin second chain value := by
  have steps : expandStep first = expandStep second := by
    funext expanded call
    obtain ⟨chain, value⟩ := call
    cases value <;> simp only [expandStep, same.component?_eq]
  have unfolds : ∀ call : List String × Json, expandWithin first call.1 call.2 =
      expandStep second (fun inner => expandWithin first inner.1 inner.2) call := by
    intro call
    rw [← steps]
    exact expandWithin_eq_expandStep call.1 call.2
  exact congrFun ((recursion_expandWithin second).eq_of_unfolds unfolds) (chain, value)

/-- The content of a response is the same. -/
theorem content_eq (same : SameComponents first second) : content first = content second := by
  have schema : mediaSchema first = mediaSchema second := by
    funext location media
    have pointers : resolveSchema? first = resolveSchema? second := by
      funext pointer
      rw [resolveSchema?, resolveSchema?, same.component?_eq]
    have dangling : danglingIssues first = danglingIssues second := by
      funext location value
      rw [danglingIssues, danglingIssues, pointers]
    simp only [mediaSchema, expand, same.expandWithin_eq, dangling]
  funext location response
  simp only [content, mediaContent, schema]

/-- The response that a value describes or refers to is the same. -/
theorem resolveResponse_eq (same : SameComponents first second) :
    resolveResponse first = resolveResponse second := by
  have pointers : resolveResponse? first = resolveResponse? second := by
    funext pointer
    rw [resolveResponse?, resolveResponse?, same.section?_eq]
  funext location response
  simp only [resolveResponse, pointers]

/-- The response under a key is the same. -/
theorem response_eq (same : SameComponents first second) : response first = response second := by
  funext options location id code value
  simp only [response, same.resolveResponse_eq, same.content_eq]

/-- The responses of an operation are the same. -/
theorem responses_eq (same : SameComponents first second) :
    responses first = responses second := by
  funext options location described
  simp only [responses, same.response_eq]

/-- The operation under a key is the same. -/
theorem operation_eq (same : SameComponents first second) :
    operation first = operation second := by
  funext options path key value
  simp only [operation, same.responses_eq]

/-- The operations under a path are the same. -/
theorem pathOperations_eq (same : SameComponents first second) :
    pathOperations first = pathOperations second := by
  funext options path item
  simp only [pathOperations, same.operation_eq]

/-- The components are read as the same schemas. -/
theorem components_eq (same : SameComponents first second) :
    components first = components second := by
  simp only [components, same.section?_eq, same.expandWithin_eq]

end SameComponents

/-- A change of another part of the document leaves the components as they are. -/
theorem sameComponents_mapMember {key : String} (other : "components" ≠ key)
    (change : Json → Json) (document : Json) :
    SameComponents (document.mapMember key change) document :=
  Json.get?_mapMember_of_ne other change document

/-! ### Changes of the paths -/

variable {options : Options}

/-- The paths after a change of the paths are the changed ones. -/
theorem paths_mapMember {change : Entries Json → Entries Json} (nothing : change [] = [])
    (document : Json) :
    paths (document.mapMember "paths" (Json.onMembers change)) = change (paths document) :=
  membersUnder_mapMember nothing document

/-- Whether a member of a path item describes requests. -/
def describesVerb (member : String × Json) : Bool := Text.lowerAscii member.1 ∈ verbNames

/-- A member describes requests exactly when its key has a verb. -/
theorem describesVerb_eq (member : String × Json) :
    describesVerb member = (Verb.ofKey? member.1).isSome := by
  cases named : Verb.ofKey? member.1 with
  | none => exact decide_eq_false (ofKey?_eq_none_iff.mp named)
  | some verb =>
    refine decide_eq_true (Decidable.of_not_not fun unknown => ?_)
    rw [ofKey?_eq_none_iff.mpr unknown] at named
    cases named

/-- Under a path that is not covered no verbs are. -/
theorem pathVerbKeys_of_uncovered {path : String} (uncovered : options.acceptsPath path = false)
    (item : Json) : pathVerbKeys options path item = [] := by
  rw [pathVerbKeys, uncovered, if_neg Bool.false_ne_true]

/-- Under a path that is covered all members that describe requests are. -/
theorem pathVerbKeys_of_covered {path : String} (covered : options.acceptsPath path = true)
    (item : Json) :
    pathVerbKeys options path item =
      ((item.members?.getD []).filter describesVerb).map fun member =>
        ⟨path, member.1, member.2⟩ := by
  rw [pathVerbKeys, covered, if_pos rfl, List.filter_map]
  rfl

/-- The verbs under a path have it for their path. -/
theorem path_of_mem_pathVerbKeys {path : String} {item : Json} {entry : VerbKey}
    (listed : entry ∈ pathVerbKeys options path item) : entry.path = path := by
  cases covered : options.acceptsPath path with
  | false =>
    rw [pathVerbKeys_of_uncovered covered] at listed
    cases listed
  | true =>
    rw [pathVerbKeys_of_covered covered] at listed
    obtain ⟨member, -, rfl⟩ := List.mem_map.mp listed
    rfl

end Document

end ApiMock
