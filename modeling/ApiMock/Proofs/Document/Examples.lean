import ApiMock.Proofs.Document.Components
import ApiMock.Proofs.Document.Reduction
import ApiMock.Proofs.Schema.Documented
/-!
# Documented examples

Which documented example a body is. The example of a schema comes first and that of the media type
serves where the schema has none, neither itself nor through the components that it is an alias of
(`LeadsTo`). The example of a media type is served as it stands. The example of a schema is not: the
references of the schema are expanded before it is read, and those within its example with them. So
`serves_examples` has the expanded example as the body, which is the documented one if it mentions
no component.
-/
namespace ApiMock

/-- A schema with an example is compiled to the example. -/
theorem Schema.generator_of_exampleValue {schema : Schema} {given : Json}
    (found : schema.exampleValue = some given) (options : Options) (key : Option String) :
    schema.generator options key = .literal given := by
  rw [generator_eq]
  simp only [rule, found]

namespace Document

variable {document : Json}

/-- A schema leads to itself and to what the component that it is an alias of leads to. -/
inductive LeadsTo (document : Json) : Json → Json → Prop
  /-- The schema itself. -/
  | itself (schema : Json) : LeadsTo document schema schema
  /-- What the definition leads to that a reference stands for. -/
  | through {schema definition target : Json} {pointer : String}
      (reference : schema.reference? = some pointer)
      (resolved : resolveSchema? document pointer = some definition)
      (onward : LeadsTo document definition target) : LeadsTo document schema target

/-- If nothing that a schema leads to documents an example, its expansion documents none. -/
theorem documentedExample?_expandWithin {chain : List String} {schema : Json}
    (absent : ∀ target, LeadsTo document schema target → target.documentedExample? = none) :
    (expandWithin document chain schema).documentedExample? = none := by
  induction chain, schema using expandWithin.induct document with
  | case1 chain schema ih =>
    have itself : schema.documentedExample? = none := absent schema (.itself schema)
    rw [expandWithin_eq]
    cases reference : schema.reference? with
    | none => exact Json.documentedExample?_substitute_eq_none reference itself
    | some pointer =>
      rw [Json.substitute_of_reference reference]
      cases opened : opening document chain pointer with
      | none => exact itself
      | some value =>
        obtain ⟨name, definition, named, closed, defined, rfl⟩ := closed_of_opening opened
        rw [Option.getD_some, Json.documentedExample?_mark]
        refine ih name closed definition defined fun target onward => ?_
        exact absent target (.through reference (resolveSchema?_of_component? named defined) onward)

/-! ### The schema of a media type -/

/-- The schema that a response has for a media type is the first that is read for it. -/
theorem get?_content {location : Location} {response media : Json} {name : String}
    {schema : Schema} (listed : Entries.get? (mediaTypes response) name = some media)
    (read : supplyExample (mediaExample? media)
      (mediaSchema document (location.below name) media).value = some schema) :
    Entries.get? (content document location response).value name = some schema := by
  have inOrder : (content document location response).value =
      (mediaTypes response).filterMap fun entry =>
        (supplyExample (mediaExample? entry.2)
          (mediaSchema document (location.below entry.1) entry.2).value).map (entry.1, ·) := by
    simp only [content, Reported.gather, List.filterMap_map]
    rfl
  rw [inOrder]
  exact Entries.get?_filterMap_of_some (fun name media => supplyExample (mediaExample? media)
    (mediaSchema document (location.below name) media).value) listed read

/-- A schema that has an example keeps it, whatever the media type documents. -/
theorem exampleValue_supplyExample {schema : Schema} {given : Json}
    (found : schema.exampleValue = some given) (supplied : Option Json) :
    ∃ described, supplyExample supplied (some schema) = some described ∧
      described.exampleValue = some given := by
  cases supplied with
  | none => exact ⟨schema, rfl, found⟩
  | some other => exact ⟨_, rfl, by rw [found]; rfl⟩

/-- A schema without an example takes that of the media type, and so does a missing schema. -/
theorem exampleValue_supplyExample_of_none {schema? : Option Schema} (given : Json)
    (absent : ∀ schema, schema? = some schema → schema.exampleValue = none) :
    ∃ described, supplyExample (some given) schema? = some described ∧
      described.exampleValue = some given := by
  cases schema? with
  | none => exact ⟨_, rfl, rfl⟩
  | some schema => exact ⟨_, rfl, by rw [absent schema rfl]; rfl⟩

/-- An example of a media type that is not null is the one that it documents. -/
theorem mediaExample?_eq_some {media given : Json} (found : media.get? "example" = some given)
    (present : given ≠ .null) : mediaExample? media = some given := by
  rw [mediaExample?, found, Option.bind_some,
    Json.nonNull?_eq_some_iff.mpr ⟨present, rfl⟩, Option.some_or]

/-- What is read for a media type with a schema is read off the expansion of the schema. -/
theorem value_mediaSchema {location : Location} {media schema : Json}
    (described : media.get? "schema" = some schema) :
    (mediaSchema document location media).value =
      (readSchema location (expand document schema)).value := by
  simp only [mediaSchema, described]
  rfl

/-- A schema that is read has the example that the value gives that it is read off. -/
theorem exampleValue_of_readSchema {location : Location} {value : Json} {schema : Schema}
    (found : (readSchema location value).value = some schema) :
    schema.exampleValue = value.documentedExample? := by
  rcases readSchema_cases location value with ⟨other, read, result⟩ | ⟨cause, result⟩
  · rw [result] at found
    cases found
    rw [Schema.exampleValue_of_ofJson read, Json.documentedExample?_normalize]
  · rw [result] at found
    cases found

/-! ### The bodies of a response -/

section Body

variable {location : Location} {response media : Json}

/-- The body that a response has for JSON is the example of the schema that is read for it. -/
theorem body_eq_literal {schema : Schema} {given : Json}
    (listed : Entries.get? (mediaTypes response) "application/json" = some media)
    (read : supplyExample (mediaExample? media)
      (mediaSchema document (location.below "application/json") media).value = some schema)
    (found : schema.exampleValue = some given) (options : Options) :
    Generator.ofSchema options none
        (Entries.get? (content document location response).value "application/json") =
      .literal given := by
  rw [get?_content listed read]
  exact Schema.generator_of_exampleValue found options none

/-- A schema that is not reported at its media type can be read. -/
theorem exists_mediaSchema {name : String} {schema : Json}
    (listed : Entries.get? (mediaTypes response) name = some media)
    (described : media.get? "schema" = some schema)
    (readable : ∀ issue ∈ (content document location response).issues,
      issue.location = location.below name → issue.problem.kind ≠ "InvalidSchema") :
    ∃ read, (mediaSchema document (location.below name) media).value = some read := by
  rw [value_mediaSchema described]
  rcases readSchema_cases (location.below name) (expand document schema) with
    ⟨read, -, result⟩ | ⟨cause, result⟩
  · exact ⟨read, congrArg Reported.value result⟩
  · have reported : ⟨location.below name, .invalidSchema cause⟩ ∈
        (content document location response).issues := by
      refine mem_issues_content_iff.mpr
        ⟨name, media, schema, Entries.mem_of_get? listed, described, .inr ?_⟩
      rw [result]
      exact List.mem_singleton.mpr rfl
    exact absurd rfl (readable _ reported rfl)

/-- The example of an inline schema that can be read is the body, with its references expanded. -/
theorem body_of_schema {schema given : Json}
    (listed : Entries.get? (mediaTypes response) "application/json" = some media)
    (described : media.get? "schema" = some schema)
    (readable : ∀ issue ∈ (content document location response).issues,
      issue.location = location.below "application/json" → issue.problem.kind ≠ "InvalidSchema")
    (inline : schema.reference? = none) (documented : schema.documentedExample? = some given)
    (remains : expand document given ≠ .null) (options : Options) :
    Generator.ofSchema options none
        (Entries.get? (content document location response).value "application/json") =
      .literal (expand document given) := by
  obtain ⟨read, value⟩ := exists_mediaSchema listed described readable
  have found : read.exampleValue = some (expand document given) := by
    rw [value_mediaSchema described] at value
    rw [expand, expandWithin_eq] at remains
    rw [exampleValue_of_readSchema value, expand, expandWithin_eq, expand, expandWithin_eq]
    exact Json.documentedExample?_substitute inline documented remains
  obtain ⟨supplied, result, kept⟩ := exampleValue_supplyExample found (mediaExample? media)
  rw [← value] at result
  exact body_eq_literal listed result kept options

/-- The example of a media type is the body if its schema documents none and is the alias of none
that does. -/
theorem body_of_media {given : Json}
    (listed : Entries.get? (mediaTypes response) "application/json" = some media)
    (documented : media.get? "example" = some given) (present : given ≠ .null)
    (absent : ∀ schema target, media.get? "schema" = some schema →
      LeadsTo document schema target → target.documentedExample? = none) (options : Options) :
    Generator.ofSchema options none
        (Entries.get? (content document location response).value "application/json") =
      .literal given := by
  have none : ∀ read, (mediaSchema document (location.below "application/json") media).value =
      some read → read.exampleValue = none := by
    intro read value
    cases described : media.get? "schema" with
    | none =>
      simp only [mediaSchema, described] at value
      cases value
    | some schema =>
      rw [value_mediaSchema described] at value
      rw [exampleValue_of_readSchema value]
      exact documentedExample?_expandWithin fun target => absent schema target described
  obtain ⟨supplied, result, kept⟩ := exampleValue_supplyExample_of_none given none
  rw [← mediaExample?_eq_some documented present] at result
  exact body_eq_literal listed result kept options

end Body

/-- What is reported of the content of a response is reported of the response. -/
theorem content_issues_subset {options : Options} {location : Location} {id : Option String}
    {code : String} {value : Json} {found : ApiMock.Response}
    (emitted : (response document options location id code value).value = some found) :
    (content document (location.below code)
        (resolveResponse document location value).value).issues ⊆
      (response document options location id code value).issues := by
  unfold response at emitted ⊢
  split at emitted
  · cases emitted
  · rename_i numeric
    split at emitted
    · cases emitted
    · rename_i covered
      rw [if_neg numeric, if_neg covered]
      exact List.subset_append_right _ _

/-- The JSON body of a response whose schema can be read is the documented example. That of an
inline schema is served with its references expanded, and so as it stands if it mentions no
component. That of the media type is served as it stands if neither its schema nor what the schema
is an alias of documents any. -/
theorem serves_examples {document : Json} {reduction : Options} {location : Location}
    {id : Option String} {code : String} {value : Json} {found : ApiMock.Response}
    (emitted : (response document reduction location id code value).value = some found)
    {media : Json}
    (listed : Entries.get? (mediaTypes (resolveResponse document location value).value)
      "application/json" = some media)
    (readable : ∀ issue ∈ (response document reduction location id code value).issues,
      issue.location = (location.below code).below "application/json" →
        issue.problem.kind ≠ "InvalidSchema")
    (compilation : Options) :
    let body := Generator.ofSchema compilation none found.jsonSchema?
    (∀ schema given, media.get? "schema" = some schema → schema.reference? = none →
      schema.documentedExample? = some given →
        (expand document given ≠ .null → body = .literal (expand document given)) ∧
        ((∀ name, ¬ RefersTo document given name) → body = .literal given)) ∧
      ∀ given, media.get? "example" = some given → given ≠ .null →
        (∀ schema target, media.get? "schema" = some schema → LeadsTo document schema target →
          target.documentedExample? = none) →
        body = .literal given := by
  intro body
  have within := content_issues_subset emitted
  obtain ⟨-, -, rfl⟩ := response_eq_some emitted
  refine ⟨?_, ?_⟩
  · intro schema given described inline documented
    have served : expand document given ≠ .null → body = .literal (expand document given) :=
      fun remains => body_of_schema listed described
        (fun issue reported => readable issue (within reported)) inline documented remains
        compilation
    refine ⟨served, fun plain => ?_⟩
    have same : expand document given = given := expand_eq_self plain
    rw [same] at served
    exact served (Json.ne_null_of_documentedExample? documented)
  · intro given documented present absent
    exact body_of_media listed documented present absent compilation

/-- A document with pets. -/
def petDocument : Json :=
  .obj [("components", .obj [("schemas", .obj [("Pet", .obj [("type", .str "object")])])])]

/-- A schema of objects that documents an example. -/
def schemaWith (given : Json) : Json := .obj [("type", .str "object"), ("example", given)]

/-- A response whose inline schema documents an example. -/
def responseWith (given : Json) : Json :=
  .obj [("content", .obj [("application/json", .obj [("schema", schemaWith given)])])]

/-- The place of the responses with pets. -/
def petLocation : Location := ⟨["/pets", "get", "200"]⟩

/-- A response that documents an example is emitted for a status code. -/
theorem response_responseWith (given : Json) :
    response petDocument {} ⟨["/pets", "get"]⟩ none "200" (responseWith given) =
      ⟨some ⟨"200", none, (content petDocument petLocation (responseWith given)).value⟩,
        (content petDocument petLocation (responseWith given)).issues⟩ := by
  have numeric : (statusCode? "200").isNone = false := by decide
  have covered : (!({} : Options).acceptsCode "200") = false := by decide
  have trimmed : Text.trim "200" = "200" := by decide
  rw [response, numeric, covered, trimmed]
  rfl

/-- Nothing is reported of a response if no reference is left in its expanded example. -/
theorem issues_responseWith {given : Json} (settled : (expand petDocument given).references = []) :
    (content petDocument petLocation (responseWith given)).issues = [] := by
  have expanded :
      expand petDocument (schemaWith given) = schemaWith (expand petDocument given) := by
    rw [expand, expand, expandWithin_eq, expandWithin_eq]
    rfl
  refine List.eq_nil_iff_forall_not_mem.mpr fun issue reported => ?_
  obtain ⟨name, media, schema, listed, described, either⟩ := mem_issues_content_iff.mp reported
  obtain ⟨rfl, rfl⟩ := Prod.mk.inj (List.mem_singleton.mp listed)
  obtain rfl : schemaWith given = schema := Option.some.inj described
  rw [expanded] at either
  rcases either with dangles | unread
  · obtain ⟨pointer, mentioned, -⟩ := mem_danglingIssues_iff.mp dangles
    have none : (schemaWith (expand petDocument given)).references = [] := by
      simp [schemaWith, Json.references, Json.referencesOfMembers, settled, Json.reference?,
        Json.getText?, Json.get?, Json.members?, Entries.get?]
    rw [none] at mentioned
    cases mentioned
  · have read : ∀ value, (readSchema (petLocation.below "application/json")
        (schemaWith value)).issues = [] := by
      intro value
      cases value <;> rfl
    rw [read] at unread
    cases unread

/-- An example without references is the body. -/
theorem serves_examples_petDocument :
    let given : Json := .obj [("name", .str "Rex")]
    let media : Json := .obj [("schema", schemaWith given)]
    let emitted := response petDocument {} ⟨["/pets", "get"]⟩ none "200" (responseWith given)
    Entries.get? (mediaTypes (responseWith given)) "application/json" = some media ∧
      (∀ issue ∈ emitted.issues, issue.problem.kind ≠ "InvalidSchema") ∧
      ∃ found, emitted.value = some found ∧
        Generator.ofSchema {} none found.jsonSchema? = .literal given := by
  intro given media emitted
  have settled : (expand petDocument given).references = [] := by
    rw [expand, expandWithin_eq]
    rfl
  have silent : emitted.issues = [] :=
    (congrArg Reported.issues (response_responseWith given)).trans (issues_responseWith settled)
  have readable : ∀ issue ∈ emitted.issues, issue.problem.kind ≠ "InvalidSchema" := by
    simp [silent]
  have plain : ∀ name, ¬ RefersTo petDocument given name := by
    rintro name ⟨-, place, position, reference⟩
    change Json.Open (.obj [("name", .str "Rex")]) place at position
    cases position with
    | root => cases reference
    | member _ listed inner =>
      cases List.mem_singleton.mp listed
      cases inner
      cases reference
  obtain ⟨found, value⟩ : ∃ found, emitted.value = some found :=
    ⟨_, congrArg Reported.value (response_responseWith given)⟩
  refine ⟨rfl, readable, found, value, ?_⟩
  exact ((serves_examples value rfl (fun issue reported _ => readable issue reported) {}).1
    (schemaWith given) given rfl rfl rfl).2 plain

/-- An example that looks like a reference is not served as it stands: the body is the definition of
the component that it names, with its mark. -/
theorem expands_documented_example :
    let given := reference "Pet"
    let media : Json := .obj [("schema", schemaWith given)]
    let emitted := response petDocument {} ⟨["/pets", "get"]⟩ none "200" (responseWith given)
    Entries.get? (mediaTypes (responseWith given)) "application/json" = some media ∧
      (schemaWith given).reference? = none ∧ (schemaWith given).documentedExample? = some given ∧
      (∀ issue ∈ emitted.issues, issue.problem.kind ≠ "InvalidSchema") ∧
      ∃ found, emitted.value = some found ∧
        Generator.ofSchema {} none found.jsonSchema? =
          .literal (.obj [("type", .str "object"), ("x-ref-name", .str "Pet")]) ∧
        Generator.ofSchema {} none found.jsonSchema? ≠ .literal given := by
  intro given media emitted
  let marked : Json := .obj [("type", .str "object"), ("x-ref-name", .str "Pet")]
  have expanded : expand petDocument given = marked := by
    rw [expand_reference rfl, expandWithin_eq]
    rfl
  have silent : (content petDocument petLocation (responseWith given)).issues = [] := by
    refine issues_responseWith ?_
    rw [expanded]
    rfl
  have readable : ∀ issue ∈ emitted.issues, issue.problem.kind ≠ "InvalidSchema" := by
    intro issue reported
    rw [congrArg Reported.issues (response_responseWith given), silent] at reported
    cases reported
  have served : Generator.ofSchema {} none
      (Entries.get? (content petDocument petLocation (responseWith given)).value
        "application/json") = .literal (expand petDocument given) := by
    refine body_of_schema rfl rfl ?_ rfl rfl ?_ {}
    · simp [silent]
    · rw [expanded]
      exact nofun
  rw [expanded] at served
  refine ⟨rfl, rfl, rfl, readable, _, congrArg Reported.value (response_responseWith given),
    served, ?_⟩
  intro same
  have equal : marked = given := Generator.literal.inj (served.symm.trans same)
  simp [marked, given, reference] at equal

end Document

end ApiMock
