import ApiMock.Proofs.Document.Accounting
import ApiMock.Proofs.Document.Examples
import Mathlib.Logic.Relation
/-!
# Responses by reference

The references of a schema are followed as far as they lead. Those of a response are followed one
step: the component that a response refers to serves as it is, also where it is a reference itself.
So what a response is promised (`FollowedOrReported`) speaks of all the steps of `LeadsOn`, which
end, lead nowhere or come round (`ends_or_dangles_or_circles`, since a document has finitely many
components), while what is served is read off the first one. `responses_followed_iff` says exactly
when the promise is kept, and what becomes of a response in either case.
-/
namespace ApiMock.Document

/-! ### Where references to responses lead -/

/-- A value refers to a response component, whose definition is the next value. -/
def LeadsOn (document value next : Json) : Prop :=
  ∃ pointer, value.reference? = some pointer ∧ resolveResponse? document pointer = some next

/-- References to response components lead from a value to one that is no reference. -/
def EndsAt (document value final : Json) : Prop :=
  Relation.ReflTransGen (LeadsOn document) value final ∧ final.reference? = none

/-- References to response components lead from a value to a reference that leads nowhere. -/
def Dangles (document value : Json) : Prop :=
  ∃ last pointer, Relation.ReflTransGen (LeadsOn document) value last ∧
    last.reference? = some pointer ∧ resolveResponse? document pointer = none

/-- References to response components lead from a value to one that they lead back to. -/
def Circles (document value : Json) : Prop :=
  ∃ again, Relation.ReflTransGen (LeadsOn document) value again ∧
    Relation.TransGen (LeadsOn document) again again

/-- The definitions of all response components. -/
def responseDefinitions (document : Json) : List Json :=
  ((section? document "responses").getD []).map Prod.snd

variable {document value next final : Json}

/-- A value leads on to one definition at most. -/
theorem rightUnique_leadsOn (document : Json) : Relator.RightUnique (LeadsOn document) := by
  rintro value first second ⟨pointer, reference, resolved⟩ ⟨other, again, otherwise⟩
  obtain rfl := Option.some.inj (reference.symm.trans again)
  exact Option.some.inj (resolved.symm.trans otherwise)

/-- A value leads on to a definition of a component. -/
theorem LeadsOn.mem_responseDefinitions (leads : LeadsOn document value next) :
    next ∈ responseDefinitions document := by
  obtain ⟨pointer, -, resolved⟩ := leads
  obtain ⟨name, -, listed⟩ := Option.bind_eq_some_iff.mp resolved
  obtain ⟨responses, defined, found⟩ := Option.bind_eq_some_iff.mp listed
  rw [responseDefinitions, defined]
  exact List.mem_map_of_mem (Entries.mem_of_get? found)

/-- A value that is no reference does not lead on. -/
theorem not_leadsOn_of_plain (plain : value.reference? = none) : ¬ LeadsOn document value next := by
  rintro ⟨pointer, reference, -⟩
  cases plain.symm.trans reference

/-- A reference that leads nowhere does not lead on. -/
theorem not_leadsOn_of_unresolved {pointer : String} (reference : value.reference? = some pointer)
    (unresolved : resolveResponse? document pointer = none) : ¬ LeadsOn document value next := by
  rintro ⟨other, again, resolved⟩
  obtain rfl := Option.some.inj (reference.symm.trans again)
  cases unresolved.symm.trans resolved

/-- What leads to a value that does not lead on leads to it from everything on the way. -/
theorem reflTransGen_of_stuck {last : Json} (stuck : ∀ next, ¬ LeadsOn document last next)
    (toLast : Relation.ReflTransGen (LeadsOn document) value last)
    (toNext : Relation.ReflTransGen (LeadsOn document) value next) :
    Relation.ReflTransGen (LeadsOn document) next last := by
  rcases toLast.total_of_right_unique (rightUnique_leadsOn document) toNext with beyond | before
  · rcases beyond.cases_head with rfl | ⟨further, leads, -⟩
    · exact .refl
    · exact absurd leads (stuck further)
  · exact before

/-- Two values that do not lead on are the same if references lead to both. -/
theorem eq_of_stuck {first second : Json} (stuckFirst : ∀ next, ¬ LeadsOn document first next)
    (stuckSecond : ∀ next, ¬ LeadsOn document second next)
    (toFirst : Relation.ReflTransGen (LeadsOn document) value first)
    (toSecond : Relation.ReflTransGen (LeadsOn document) value second) : first = second := by
  have onward := reflTransGen_of_stuck stuckSecond toSecond toFirst
  rcases onward.cases_head with same | ⟨further, leads, -⟩
  · exact same
  · exact absurd leads (stuckFirst further)

/-- From a value that references lead back to they lead nowhere but to such values. -/
theorem circles_onward (circle : Relation.TransGen (LeadsOn document) value value)
    (onward : Relation.ReflTransGen (LeadsOn document) value next) :
    Relation.TransGen (LeadsOn document) next next := by
  induction onward with
  | refl => exact circle
  | tail _ leads ih =>
    obtain ⟨further, first, back⟩ := Relation.TransGen.head'_iff.mp ih
    obtain rfl := rightUnique_leadsOn document first leads
    exact Relation.TransGen.tail' back leads

/-- References end at one value at most. -/
theorem EndsAt.unique {other : Json} (ends : EndsAt document value final)
    (again : EndsAt document value other) : final = other :=
  eq_of_stuck (fun _ => not_leadsOn_of_plain ends.2) (fun _ => not_leadsOn_of_plain again.2)
    ends.1 again.1

/-- References that end do not lead nowhere. -/
theorem EndsAt.not_dangles (ends : EndsAt document value final) : ¬ Dangles document value := by
  rintro ⟨last, pointer, toLast, reference, unresolved⟩
  have same : final = last := eq_of_stuck (fun _ => not_leadsOn_of_plain ends.2)
    (fun _ => not_leadsOn_of_unresolved reference unresolved) ends.1 toLast
  cases ends.2.symm.trans (same ▸ reference)

/-- References that end do not come round. -/
theorem EndsAt.not_circles (ends : EndsAt document value final) : ¬ Circles document value := by
  rintro ⟨again, toAgain, circle⟩
  have onward := reflTransGen_of_stuck (fun _ => not_leadsOn_of_plain ends.2) ends.1 toAgain
  obtain ⟨further, leads, -⟩ := Relation.TransGen.head'_iff.mp (circles_onward circle onward)
  exact not_leadsOn_of_plain ends.2 leads

/-- Where a value leads on, what becomes of the references of the next value becomes of its own. -/
theorem LeadsOn.lift (leads : LeadsOn document value next)
    (onward : (∃ final, EndsAt document next final) ∨ Dangles document next ∨
      Circles document next) :
    (∃ final, EndsAt document value final) ∨ Dangles document value ∨ Circles document value := by
  rcases onward with ⟨final, toFinal, plain⟩ | ⟨last, pointer, toLast, unresolved⟩ |
    ⟨again, toAgain, circle⟩
  · exact .inl ⟨final, .head leads toFinal, plain⟩
  · exact .inr (.inl ⟨last, pointer, .head leads toLast, unresolved⟩)
  · exact .inr (.inr ⟨again, .head leads toAgain, circle⟩)

/-- References end, lead nowhere or come round, if they lead to finitely many values. -/
theorem ends_or_fails_within (reachable : List Json)
    (reaches : ∀ next, Relation.TransGen (LeadsOn document) value next → next ∈ reachable) :
    (∃ final, EndsAt document value final) ∨ Dangles document value ∨ Circles document value := by
  -- A step that nothing leads back to leaves one value less to be reached.
  induction size : reachable.length using Nat.strong_induction_on generalizing value reachable with
  | _ size ih =>
    subst size
    cases reference : value.reference? with
    | none => exact .inl ⟨value, .refl, reference⟩
    | some pointer =>
      cases resolved : resolveResponse? document pointer with
      | none => exact .inr (.inl ⟨value, pointer, .refl, reference, resolved⟩)
      | some next =>
        have leads : LeadsOn document value next := ⟨pointer, reference, resolved⟩
        by_cases circle : Relation.TransGen (LeadsOn document) next next
        · exact .inr (.inr ⟨next, .single leads, circle⟩)
        · let others := reachable.filter (· ≠ next)
          have fewer : others.length < reachable.length :=
            List.length_filter_lt_length_iff_exists.mpr
              ⟨next, reaches next (.single leads), by simp⟩
          have stays : ∀ further, Relation.TransGen (LeadsOn document) next further →
              further ∈ others := by
            intro further onward
            refine List.mem_filter.mpr ⟨reaches further (.head leads onward), ?_⟩
            have different : further ≠ next := fun same => circle (same ▸ onward)
            simpa using different
          exact leads.lift (ih others.length fewer others stays rfl)

/-- The references of a value end, lead nowhere or come round. -/
theorem ends_or_dangles_or_circles (document value : Json) :
    (∃ final, EndsAt document value final) ∨ Dangles document value ∨ Circles document value := by
  refine ends_or_fails_within (responseDefinitions document) fun next onward => ?_
  obtain ⟨last, -, leads⟩ := Relation.TransGen.tail'_iff.mp onward
  exact leads.mem_responseDefinitions

/-! ### What is served -/

/-- What is promised of a response that is given by reference: the references end at a response
object, and the response has its content, or they lead nowhere or come round, and the reference of
a response is reported of the operation. -/
def FollowedOrReported (document : Json) (location : Location) (code : String) (value : Json)
    (found : Reported (Option Response)) : Prop :=
  (∃ final entry, EndsAt document value final ∧ final.isObject ∧ found.value = some entry ∧
      entry.content = (content document (location.below code) final).value) ∨
    ((Dangles document value ∨ Circles document value) ∧
      ∃ pointer, ⟨location, .unresolvedResponse pointer⟩ ∈ found.issues)

variable {options : Options} {location : Location}

/-- What is reported of a content is no reference of a response. -/
theorem unresolvedResponse_notMem_content (place : Location) (response : Json) (pointer : String) :
    ⟨place, .unresolvedResponse pointer⟩ ∉ (content document location response).issues := by
  intro reported
  obtain ⟨name, media, schema, -, -, dangles | unread⟩ := mem_issues_content_iff.mp reported
  · obtain ⟨other, -, -, same⟩ := mem_danglingIssues_iff.mp dangles
    cases same
  · obtain ⟨cause, problem⟩ := problem_of_mem_issues_readSchema unread
    cases problem

/-- Nothing is supplied where there is neither a schema nor an example. -/
theorem supplyExample_eq_none_iff {example? : Option Json} {schema? : Option Schema} :
    supplyExample example? schema? = none ↔ schema? = none ∧ example? = none := by
  cases example? <;> cases schema? <;> simp [supplyExample]

/-- A response has content for a media type that gives a schema. -/
theorem mem_keys_content {response media : Json} {name : String} {schema : Schema}
    (listed : (name, media) ∈ mediaTypes response)
    (given : supplyExample (mediaExample? media)
      (mediaSchema document (location.below name) media).value = some schema) :
    name ∈ Entries.keys (content document location response).value := by
  have found : (mediaContent document location name media).value = some (name, schema) := by
    simp only [mediaContent, Reported.map, given, Option.map_some]
  have collected : (name, schema) ∈ (content document location response).value := by
    simp only [content, Reported.gather, List.mem_filterMap, List.mem_map]
    exact ⟨_, ⟨(name, media), listed, rfl⟩, found⟩
  exact Entries.mem_keys_of_mem collected

/-- A response has content for every media type that it documents, unless a schema is reported. -/
theorem mem_keys_content_or_reported {response media : Json} {name : String}
    (listed : (name, media) ∈ mediaTypes response)
    (documented : (media.get? "schema").isSome ∨ (mediaExample? media).isSome) :
    name ∈ Entries.keys (content document location response).value ∨
      ∃ cause, ⟨location.below name, .invalidSchema cause⟩ ∈
        (content document location response).issues := by
  cases given : supplyExample (mediaExample? media)
      (mediaSchema document (location.below name) media).value with
  | some schema => exact .inl (mem_keys_content listed given)
  | none =>
    right
    obtain ⟨unread, exampleless⟩ :
        (mediaSchema document (location.below name) media).value = none ∧
          mediaExample? media = none :=
      supplyExample_eq_none_iff.mp given
    obtain ⟨schema, described⟩ : ∃ schema, media.get? "schema" = some schema := by
      simpa [exampleless, Option.isSome_iff_exists] using documented
    rw [value_mediaSchema described] at unread
    rcases readSchema_cases (location.below name) (expand document schema) with
      ⟨read, -, result⟩ | ⟨cause, result⟩
    · rw [result] at unread
      cases unread
    · refine ⟨cause, mem_issues_content_iff.mpr ⟨name, media, schema, listed, described, .inr ?_⟩⟩
      rw [result]
      exact List.mem_singleton.mpr rfl

/-- A reference that leads nowhere is reported, and the response has no content. -/
theorem response_of_unresolved {id : Option String} {value : Json} {code pointer : String}
    {status : Nat} (numeric : statusCode? code = some status)
    (covered : options.acceptsCode code = true) (reference : value.reference? = some pointer)
    (unresolved : resolveResponse? document pointer = none) :
    response document options location id code value =
      ⟨some ⟨Text.trim code, id, []⟩, [⟨location, .unresolvedResponse pointer⟩]⟩ := by
  have target : resolveResponse document location value =
      ⟨.null, [⟨location, .unresolvedResponse pointer⟩]⟩ := by
    simp only [resolveResponse, reference, unresolved]
  rw [response_of_covered numeric covered, target]
  rfl

/-- A response that refers to a component has the content of the component, and what is reported is
what is reported of it. -/
theorem response_of_resolved {id : Option String} {value component : Json} {code pointer : String}
    {status : Nat} (numeric : statusCode? code = some status)
    (covered : options.acceptsCode code = true) (reference : value.reference? = some pointer)
    (resolved : resolveResponse? document pointer = some component) :
    response document options location id code value =
      ⟨some ⟨Text.trim code, id, (content document (location.below code) component).value⟩,
        (content document (location.below code) component).issues⟩ := by
  have target : resolveResponse document location value = .clean component := by
    simp only [resolveResponse, reference, resolved]
  rw [response_of_covered numeric covered, target]
  rfl

/-- What is reported of a response is reported of its operation. -/
theorem issues_response_subset {described value : Json} {code : String}
    (listed : (code, value) ∈ responseKeys described) :
    (response document options location (operationId? described) code value).issues ⊆
      (responses document options location described).issues := by
  intro issue reported
  simp only [responses, Reported.after, Reported.gather, List.mem_append, List.mem_flatMap,
    List.mem_map]
  exact .inr ⟨_, ⟨(code, value), listed, rfl⟩, reported⟩

/-- A response whose reference leads nowhere is reported, as promised. -/
theorem reported_of_unresolved {value : Json} {code pointer : String} {entry : Option Response}
    (reference : value.reference? = some pointer)
    (unresolved : resolveResponse? document pointer = none) :
    FollowedOrReported document location code value
      ⟨entry, [⟨location, .unresolvedResponse pointer⟩]⟩ := by
  have dangles : Dangles document value := ⟨value, pointer, .refl, reference, unresolved⟩
  exact .inr ⟨.inl dangles, pointer, List.mem_singleton.mpr rfl⟩

/-- A response with the content of one component, of which only this content is reported, is as
promised if its references end at a response object with the same content, and only then. -/
theorem followed_iff {value component : Json} {code key : String} {id : Option String} :
    FollowedOrReported document location code value
        ⟨some ⟨key, id, (content document (location.below code) component).value⟩,
          (content document (location.below code) component).issues⟩ ↔
      ¬ Dangles document value ∧ ¬ Circles document value ∧
        ∀ final, EndsAt document value final → final.isObject ∧
          (content document (location.below code) component).value =
            (content document (location.below code) final).value := by
  constructor
  · rintro (⟨final, entry, ends, object, emitted, carries⟩ | ⟨-, pointer, reported⟩)
    · obtain rfl := Option.some.inj emitted
      refine ⟨ends.not_dangles, ends.not_circles, fun other again => ?_⟩
      obtain rfl := ends.unique again
      exact ⟨object, carries⟩
    · exact absurd reported (unresolvedResponse_notMem_content location component pointer)
  · rintro ⟨leads, advances, agrees⟩
    rcases ends_or_dangles_or_circles document value with ⟨final, ends⟩ | dangles | circles
    · obtain ⟨object, same⟩ := agrees final ends
      exact .inl ⟨final, _, ends, object, rfl, same⟩
    · exact absurd dangles leads
    · exact absurd circles advances

/-- A response under a status code that the options cover, given by reference, is always emitted,
and what is reported of it is reported of its operation. It is as promised unless its reference
leads to a component from which the references lead nowhere, come round or end at something else
than a response object with the content of the component. A reference that leads nowhere is reported
and the content is empty; otherwise it is the content of the component, and every media type that
the component documents is in it unless its schema is reported. -/
theorem responses_followed_iff {described value : Json} {code pointer : String} {status : Nat}
    (listed : (code, value) ∈ responseKeys described) (numeric : statusCode? code = some status)
    (covered : options.acceptsCode code = true) (reference : value.reference? = some pointer) :
    let place := location.below code
    let found := response document options location (operationId? described) code value
    (∃ entry, found.value = some entry ∧
      entry ∈ (responses document options location described).value) ∧
    found.issues ⊆ (responses document options location described).issues ∧
    (FollowedOrReported document location code value found ↔
      ∀ component, resolveResponse? document pointer = some component →
        ¬ Dangles document value ∧ ¬ Circles document value ∧
          ∀ final, EndsAt document value final → final.isObject ∧
            (content document place component).value = (content document place final).value) ∧
    (resolveResponse? document pointer = none →
      found = ⟨some ⟨Text.trim code, operationId? described, []⟩,
        [⟨location, .unresolvedResponse pointer⟩]⟩) ∧
    ∀ component, resolveResponse? document pointer = some component →
      found = ⟨some ⟨Text.trim code, operationId? described,
          (content document place component).value⟩,
        (content document place component).issues⟩ ∧
      ∀ name media, (name, media) ∈ mediaTypes component →
        (media.get? "schema").isSome ∨ (mediaExample? media).isSome →
          name ∈ Entries.keys (content document place component).value ∨
            ∃ cause, ⟨place.below name, .invalidSchema cause⟩ ∈ found.issues := by
  intro place found
  have emitted : ∀ entry, found.value = some entry →
      entry ∈ (responses document options location described).value := fun entry known =>
    mem_responses_iff.mpr ⟨code, value, listed, known⟩
  have within : found.issues ⊆ (responses document options location described).issues :=
    issues_response_subset listed
  cases resolved : resolveResponse? document pointer with
  | none =>
    have result : found = _ := response_of_unresolved numeric covered reference resolved
    refine ⟨⟨_, congrArg Reported.value result, emitted _ (congrArg Reported.value result)⟩,
      within, ?_, fun _ => result, nofun⟩
    refine iff_of_true ?_ nofun
    rw [result]
    exact reported_of_unresolved reference resolved
  | some component =>
    have result : found = _ := response_of_resolved numeric covered reference resolved
    refine ⟨⟨_, congrArg Reported.value result, emitted _ (congrArg Reported.value result)⟩,
      within, ?_, nofun, ?_⟩
    · rw [result]
      constructor
      · rintro kept _ ⟨⟩
        exact followed_iff.mp kept
      · intro agrees
        exact followed_iff.mpr (agrees component rfl)
    · rintro _ ⟨⟩
      refine ⟨result, fun name media documents given => ?_⟩
      rw [result]
      exact mem_keys_content_or_reported documents given

/-- A reference to a response component. -/
def responseReference (name : String) : Json := .obj [("$ref", .str (responseLead ++ name))]

/-- The definition of a response with objects for bodies. -/
def pageDefinition : Json :=
  .obj [("content", .obj [("application/json", .obj [("schema", .obj [("type", .str "object")])])])]

/-- A document with a response component and another name for it. -/
def aliasedDocument : Json :=
  .obj [("components", .obj [("responses", .obj [
    ("Page", pageDefinition), ("Ok", responseReference "Page")])])]

/-- What a verb describes that has a response component for its response. -/
def describedBy (name : String) : Json :=
  .obj [("operationId", .str "getX"), ("responses", .obj [("200", responseReference name)])]

/-- A reference to a defined component leads on to its definition. -/
theorem leadsOn_responseReference {name : String} {definition : Json}
    (defined : resolveResponse? document (responseLead ++ name) = some definition) :
    LeadsOn document (responseReference name) definition :=
  ⟨responseLead ++ name, rfl, defined⟩

/-- The component is defined. -/
theorem resolveResponse?_page :
    resolveResponse? aliasedDocument (responseLead ++ "Page") = some pageDefinition := by
  decide

/-- A reference to the component leads to its definition. -/
theorem endsAt_page : EndsAt aliasedDocument (responseReference "Page") pageDefinition :=
  ⟨.single (leadsOn_responseReference resolveResponse?_page), rfl⟩

/-- A reference to a response object is followed. -/
theorem responses_followed_page :
    let location : Location := ⟨["/x", "get"]⟩
    let value := responseReference "Page"
    let id := operationId? (describedBy "Page")
    let found := response aliasedDocument {} location id "200" value
    ("200", value) ∈ responseKeys (describedBy "Page") ∧ statusCode? "200" = some 200 ∧
      ({} : Options).acceptsCode "200" = true ∧
      value.reference? = some (responseLead ++ "Page") ∧
      FollowedOrReported aliasedDocument location "200" value found := by
  intro location value id found
  have listed : ("200", value) ∈ responseKeys (describedBy "Page") := List.mem_singleton.mpr rfl
  have numeric : statusCode? "200" = some 200 := by decide
  have covered : ({} : Options).acceptsCode "200" = true := by decide
  have reference : value.reference? = some (responseLead ++ "Page") := rfl
  obtain ⟨-, -, kept, -, -⟩ := responses_followed_iff listed numeric covered reference
  refine ⟨listed, numeric, covered, reference, kept.mpr fun component resolved => ?_⟩
  refine ⟨endsAt_page.not_dangles, endsAt_page.not_circles, fun final ends => ?_⟩
  obtain rfl := endsAt_page.unique ends
  obtain rfl : pageDefinition = component :=
    Option.some.inj (resolveResponse?_page.symm.trans resolved)
  exact ⟨rfl, rfl⟩

/-- A reference to another name of the component is not followed: the body that the component
documents is lost, and nothing is reported. -/
theorem loses_aliased_response :
    let location : Location := ⟨["/x", "get"]⟩
    let value := responseReference "Ok"
    let id := operationId? (describedBy "Ok")
    let found := response aliasedDocument {} location id "200" value
    ("200", value) ∈ responseKeys (describedBy "Ok") ∧ (statusCode? "200").isSome ∧
      ({} : Options).acceptsCode "200" = true ∧
      EndsAt aliasedDocument value pageDefinition ∧ pageDefinition.isObject ∧
      "application/json" ∈
        Entries.keys (content aliasedDocument (location.below "200") pageDefinition).value ∧
      found = ⟨some ⟨"200", some "getX", []⟩, []⟩ ∧
      ¬ FollowedOrReported aliasedDocument location "200" value found := by
  intro location value id found
  have numeric : statusCode? "200" = some 200 := by decide
  have covered : ({} : Options).acceptsCode "200" = true := by decide
  have renamed : resolveResponse? aliasedDocument (responseLead ++ "Ok") =
      some (responseReference "Page") := by decide
  have ends : EndsAt aliasedDocument value pageDefinition :=
    ⟨.head (leadsOn_responseReference renamed) endsAt_page.1, endsAt_page.2⟩
  have documents : "application/json" ∈
      Entries.keys (content aliasedDocument (location.below "200") pageDefinition).value := by
    let schema : Json := .obj [("type", .str "object")]
    let media : Json := .obj [("schema", schema)]
    have described : media.get? "schema" = some schema := rfl
    have read : (mediaSchema aliasedDocument ((location.below "200").below "application/json")
        media).value = some (.ofType "object") := by
      rw [value_mediaSchema described, expand, expandWithin_eq]
      rfl
    have given : supplyExample (mediaExample? media) (mediaSchema aliasedDocument
        ((location.below "200").below "application/json") media).value =
          some (.ofType "object") := by
      rw [read]
      rfl
    exact mem_keys_content (List.mem_singleton.mpr rfl) given
  have result : found = ⟨some ⟨"200", some "getX", []⟩, []⟩ := by
    have trimmed : Text.trim "200" = "200" := by decide
    have reference : value.reference? = some (responseLead ++ "Ok") := rfl
    have served : found = ⟨some ⟨Text.trim "200", some "getX", []⟩, []⟩ :=
      response_of_resolved numeric covered reference renamed
    rw [served, trimmed]
  refine ⟨List.mem_singleton.mpr rfl, Option.isSome_of_mem numeric, covered, ends, rfl, documents,
    result, ?_⟩
  rw [result]
  rintro (⟨final, entry, again, -, emitted, carries⟩ | ⟨-, pointer, reported⟩)
  · obtain rfl := ends.unique again
    obtain rfl := Option.some.inj emitted
    rw [← carries] at documents
    cases documents
  · cases reported

end ApiMock.Document
