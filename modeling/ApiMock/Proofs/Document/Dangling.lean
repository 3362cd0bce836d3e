import ApiMock.Document.Content
import ApiMock.Proofs.Document.Recursion
/-!
# References that lead nowhere

The issues of a response are read off the expanded schemas, while what is promised of them speaks of
the components: every reference that leads nowhere is reported if a schema mentions it, or a
component that the schema reaches over any number of other components, recursive ones too. A
component that is open is not opened again, so what a schema reaches has to be found on a way that
opens no component twice. `ReachesClosed.cut` shortens a way to one whose rest avoids its first
component; along it, each definition is still to be opened and its references are kept
(`mem_references_expandWithin`).
-/
namespace ApiMock.Document

/-- A value refers to a component, directly or over other components. -/
def Reaches (document value : Json) (name : String) : Prop :=
  ∃ first, RefersTo document value first ∧ Relation.ReflTransGen (Uses document) first name

/-- A pointer is mentioned by a value or by the definition of a component that it reaches. -/
def DependsOn (document value : Json) (pointer : String) : Prop :=
  value.Mentions pointer ∨
    ∃ name definition, Reaches document value name ∧
      component? document name = some definition ∧ definition.Mentions pointer

/-- A value refers to a component, directly or over other components, and none of them is open. -/
inductive ReachesClosed (document : Json) (chain : List String) (value : Json) : String → Prop
  /-- The value refers to the component. -/
  | direct {name : String} (refers : RefersTo document value name) (closed : name ∉ chain) :
      ReachesClosed document chain value name
  /-- A component that is reached refers to the component. -/
  | onward {user name : String} (reached : ReachesClosed document chain value user)
      (uses : Uses document user name) (closed : name ∉ chain) :
      ReachesClosed document chain value name

variable {document : Json} {chain : List String} {value : Json}

/-- The definition of a component is in the document. -/
theorem within_of_component? {name : String} {definition : Json}
    (defined : component? document name = some definition) :
    Json.Within document definition := by
  obtain ⟨schemas, inSection, listed⟩ := Option.bind_eq_some_iff.mp defined
  obtain ⟨found, inComponents, members⟩ := Option.bind_eq_some_iff.mp inSection
  obtain ⟨components, inDocument, inFound⟩ := Option.bind_eq_some_iff.mp inComponents
  have definitionIn : Json.Within found definition :=
    Json.within_of_get? (Option.bind_eq_some_iff.mpr ⟨schemas, members, listed⟩)
  exact (Json.within_of_get? inDocument).trans ((Json.within_of_get? inFound).trans definitionIn)

/-- What is reached is reached while no component is open. -/
theorem Reaches.closed {name : String} (reached : Reaches document value name) :
    ReachesClosed document [] value name := by
  obtain ⟨first, refers, onward⟩ := reached
  induction onward with
  | refl => exact .direct refers List.not_mem_nil
  | tail _ uses ih => exact .onward ih uses List.not_mem_nil

/-- A way to a component can be cut so that its first component does not come again. -/
theorem ReachesClosed.cut {name : String} (reached : ReachesClosed document chain value name) :
    ∃ first definition, RefersTo document value first ∧ first ∉ chain ∧
      component? document first = some definition ∧
      (name = first ∨ ReachesClosed document (first :: chain) definition name) := by
  induction reached with
  | @direct name refers closed =>
    obtain ⟨definition, defined⟩ := Option.isSome_iff_exists.mp refers.1
    exact ⟨name, definition, refers, closed, defined, .inl rfl⟩
  | @onward user name _ uses closed ih =>
    obtain ⟨first, definition, refers, firstClosed, defined, before⟩ := ih
    refine ⟨first, definition, refers, firstClosed, defined, ?_⟩
    -- Where the way comes back to its first component, all that lies between is left out.
    by_cases again : name = first
    · exact .inl again
    · have stillClosed : name ∉ first :: chain := List.not_mem_cons_of_ne_of_not_mem again closed
      refine .inr ?_
      rcases before with rfl | before
      · obtain ⟨found, same, within⟩ := uses
        obtain rfl := Option.some.inj (same.symm.trans defined)
        exact .direct within stillClosed
      · exact .onward before uses stillClosed

/-- Only names of components come under the mark by expansion, where nothing is there before. -/
theorem exists_str_of_marker_expandWithin {member : Json} (unmarked : value.get? markerKey = none)
    (marker : (expandWithin document chain value).get? markerKey = some member) :
    ∃ name, member = .str name := by
  rw [expandWithin_eq] at marker
  cases plain : value.reference? with
  | none =>
    have same : (value.substitute (opening document chain)).get? markerKey =
        (value.get? markerKey).map (Json.substitute (opening document chain)) :=
      Json.step?_substitute plain (.key markerKey)
    rw [unmarked] at same
    cases same.symm.trans marker
  | some pointer =>
    rw [Json.substitute_of_reference plain] at marker
    cases opened : opening document chain pointer with
    | none =>
      rw [opened] at marker
      cases unmarked.symm.trans marker
    | some definition =>
      rw [opened, Option.getD_some] at marker
      obtain ⟨name, inner, -, -, -, rfl⟩ := closed_of_opening opened
      refine ⟨name, ?_⟩
      cases expanded : expandWithin document (name :: chain) inner with
      | obj members =>
        rw [expanded] at marker
        have written : Json.get? (mark name (.obj members)) markerKey = some (.str name) :=
          Entries.get?_insert_self members markerKey (.str name)
        exact Option.some.inj (marker.symm.trans written)
      | _ =>
        rw [expanded] at marker
        cases marker

/-- Expansion keeps the references at open positions that lead nowhere. -/
theorem mem_references_expandWithin_of_mentions {pointer : String}
    (dangling : resolveSchema? document pointer = none) (mentioned : value.Mentions pointer) :
    pointer ∈ (expandWithin document chain value).references := by
  obtain ⟨place, position, reference⟩ := mentioned
  have kept : place.substitute (opening document chain) = place := by
    rw [Json.substitute_of_reference reference, opening_of_unresolved dangling]
    rfl
  have within : Json.Within (value.substitute (opening document chain)) place :=
    kept ▸ Json.within_substitute_of_open position
  rw [expandWithin_eq]
  exact Json.mem_references_iff.mpr ⟨place, within, reference⟩

/-- What is collected from the definition of a component that opens is collected from the value
that refers to it. -/
theorem mem_references_of_opened {name pointer : String} {definition : Json}
    (unmarked : document.LacksKey markerKey) (refers : RefersTo document value name)
    (closed : name ∉ chain) (defined : component? document name = some definition)
    (inner : pointer ∈ (expandWithin document (name :: chain) definition).references) :
    pointer ∈ (expandWithin document chain value).references := by
  obtain ⟨-, place, position, reference⟩ := refers
  have bare : definition.get? markerKey = none :=
    unmarked definition (within_of_component? defined)
  have marked :
      pointer ∈ (mark name (expandWithin document (name :: chain) definition)).references :=
    Json.mem_references_setMember (by decide)
      (fun _ marker => exists_str_of_marker_expandWithin bare marker) inner
  have opened : place.substitute (opening document chain) =
      mark name (expandWithin document (name :: chain) definition) := by
    have named : schemaName? (schemaLead ++ name) = some name := schemaName?_eq_some_iff.mpr rfl
    rw [Json.substitute_of_reference reference, opening_of_closed named closed defined]
    rfl
  have outer : Json.Within (value.substitute (opening document chain))
      (place.substitute (opening document chain)) := Json.within_substitute_of_open position
  rw [opened, ← expandWithin_eq] at outer
  exact Json.references_subset_of_within outer marked

/-- Expansion brings together the references that lead nowhere of all components that the value
reaches, but for those that are open. -/
theorem mem_references_expandWithin {name pointer : String} {definition : Json}
    (unmarked : document.LacksKey markerKey) (dangling : resolveSchema? document pointer = none)
    (reached : ReachesClosed document chain value name)
    (defined : component? document name = some definition)
    (mentioned : definition.Mentions pointer) :
    pointer ∈ (expandWithin document chain value).references := by
  induction chain, value using expandWithin.induct document with
  | case1 chain value ih =>
    obtain ⟨first, opened, refers, closed, found, onward⟩ := reached.cut
    have inner : pointer ∈ (expandWithin document (first :: chain) opened).references := by
      rcases onward with rfl | onward
      · obtain rfl := Option.some.inj (defined.symm.trans found)
        exact mem_references_expandWithin_of_mentions dangling mentioned
      · exact ih first closed opened found onward
    exact mem_references_of_opened unmarked refers closed found inner

/-- All references that lead nowhere and that a value depends on are in its expansion. -/
theorem mem_references_expand {pointer : String} (unmarked : document.LacksKey markerKey)
    (dangling : resolveSchema? document pointer = none)
    (depends : DependsOn document value pointer) :
    pointer ∈ (expand document value).references := by
  rcases depends with mentioned | ⟨name, definition, reached, defined, mentioned⟩
  · exact mem_references_expandWithin_of_mentions dangling mentioned
  · exact mem_references_expandWithin unmarked dangling reached.closed defined mentioned

/-! ### The issues of a response -/

/-- The media types of a response, each with what the response says of it. -/
def mediaTypes (response : Json) : Entries Json :=
  ((response.get? "content").bind Json.members?).getD []

/-- A schema that cannot be read is the only thing to be reported where a schema is read. -/
theorem problem_of_mem_issues_readSchema {location : Location} {issue : Issue}
    (reported : issue ∈ (readSchema location value).issues) :
    ∃ cause, issue.problem = .invalidSchema cause := by
  unfold readSchema at reported
  split at reported
  · cases reported
  · rename_i cause _
    obtain rfl := List.mem_singleton.mp reported
    exact ⟨cause, rfl⟩

/-- The references that lead nowhere in a value are the ones that are reported. -/
theorem mem_danglingIssues_iff {location : Location} {issue : Issue} :
    issue ∈ danglingIssues document location value ↔
      ∃ pointer ∈ value.references, resolveSchema? document pointer = none ∧
        ⟨location, .unresolvedSchema pointer⟩ = issue := by
  simp only [danglingIssues, List.mem_map, List.mem_filter, Option.isNone_iff_eq_none, and_assoc]

/-- What is reported of a response is reported of one of its schemas: of its references, or because
it cannot be read. -/
theorem mem_issues_content_iff {location : Location} {response : Json} {issue : Issue} :
    issue ∈ (content document location response).issues ↔
      ∃ name media schema, (name, media) ∈ mediaTypes response ∧
        media.get? "schema" = some schema ∧
        (issue ∈ danglingIssues document (location.below name) (expand document schema) ∨
          issue ∈ (readSchema (location.below name) (expand document schema)).issues) := by
  have ofMedia : ∀ name media, issue ∈ (mediaContent document location name media).issues ↔
      ∃ schema, media.get? "schema" = some schema ∧
        (issue ∈ danglingIssues document (location.below name) (expand document schema) ∨
          issue ∈ (readSchema (location.below name) (expand document schema)).issues) := by
    intro name media
    simp only [mediaContent, Reported.map, mediaSchema]
    cases media.get? "schema" with
    | none => simp [Reported.clean]
    | some schema => simp [Reported.after]
  simp only [content, Reported.gather, List.mem_flatMap, List.mem_map]
  constructor
  · rintro ⟨_, ⟨⟨name, media⟩, listed, rfl⟩, reported⟩
    obtain ⟨schema, described, either⟩ := (ofMedia name media).mp reported
    exact ⟨name, media, schema, listed, described, either⟩
  · rintro ⟨name, media, schema, listed, described, either⟩
    exact ⟨_, ⟨(name, media), listed, rfl⟩, (ofMedia name media).mpr ⟨schema, described, either⟩⟩

/-- Every reference that leads nowhere is reported at each media type whose schema depends on it,
however the components refer to each other, and only references that lead nowhere are reported. -/
theorem content_reports_dangling {document : Json} (unmarked : document.LacksKey markerKey)
    (location : Location) (response : Json) :
    (∀ name media schema pointer, (name, media) ∈ mediaTypes response →
      media.get? "schema" = some schema → resolveSchema? document pointer = none →
      DependsOn document schema pointer →
      ⟨location.below name, .unresolvedSchema pointer⟩ ∈
        (content document location response).issues) ∧
      ∀ issue ∈ (content document location response).issues,
        issue.problem.kind = "UnresolvedRef" →
        ∃ name media pointer, (name, media) ∈ mediaTypes response ∧
          issue = ⟨location.below name, .unresolvedSchema pointer⟩ ∧
          resolveSchema? document pointer = none := by
  constructor
  · intro name media schema pointer listed described dangling depends
    have collected : pointer ∈ (expand document schema).references :=
      mem_references_expand unmarked dangling depends
    have found : ⟨location.below name, .unresolvedSchema pointer⟩ ∈
        danglingIssues document (location.below name) (expand document schema) :=
      mem_danglingIssues_iff.mpr ⟨pointer, collected, dangling, rfl⟩
    exact mem_issues_content_iff.mpr ⟨name, media, schema, listed, described, .inl found⟩
  · intro issue reported kind
    obtain ⟨name, media, schema, listed, -, dangles | unread⟩ := mem_issues_content_iff.mp reported
    · obtain ⟨pointer, -, dangling, rfl⟩ := mem_danglingIssues_iff.mp dangles
      exact ⟨name, media, pointer, listed, rfl, dangling⟩
    · obtain ⟨cause, problem⟩ := problem_of_mem_issues_readSchema unread
      have other : (Problem.invalidSchema cause).kind ≠ "UnresolvedRef" := by simp [Problem.kind]
      rw [problem] at kind
      exact absurd kind other

/-- The definition of a tree, which has a forest of children. -/
def treeDefinition : Json :=
  .obj [("children", .obj [("$ref", .str "#/components/schemas/Forest")])]

/-- The definition of a forest, whose label is missing. -/
def forestDefinition : Json :=
  .obj [("items", .obj [("$ref", .str "#/components/schemas/Tree")]),
    ("label", .obj [("$ref", .str "#/components/schemas/Label")])]

/-- A document with trees and forests, which refer to each other. -/
def treeDocument : Json :=
  .obj [("components", .obj [("schemas",
    .obj [("Tree", treeDefinition), ("Forest", forestDefinition)])])]

/-- The missing label of the forests within trees is reported of a response with trees. -/
theorem content_reports_dangling_treeDocument :
    let schema : Json := .obj [("items", .obj [("$ref", .str "#/components/schemas/Tree")])]
    let media : Json := .obj [("schema", schema)]
    let response : Json := .obj [("content", .obj [("application/json", media)])]
    let pointer := "#/components/schemas/Label"
    let location : Location := ⟨["/trees", "200"]⟩
    treeDocument.LacksKey markerKey ∧ ("application/json", media) ∈ mediaTypes response ∧
      media.get? "schema" = some schema ∧ resolveSchema? treeDocument pointer = none ∧
      DependsOn treeDocument schema pointer ∧
      ⟨location.below "application/json", .unresolvedSchema pointer⟩ ∈
        (content treeDocument location response).issues := by
  intro schema media response pointer location
  have unmarked : treeDocument.LacksKey markerKey := by
    simp [treeDocument, treeDefinition, forestDefinition, Json.lacksKey_obj_iff, Json.lacksKey_str,
      Entries.keys, markerKey]
  have listed : ("application/json", media) ∈ mediaTypes response := List.mem_cons_self
  have dangling : resolveSchema? treeDocument pointer = none := by
    have named : schemaName? pointer = some "Label" := schemaName?_eq_some_iff.mpr rfl
    rw [resolveSchema?, named]
    rfl
  have toTree : RefersTo treeDocument schema "Tree" :=
    ⟨rfl, _, .member rfl List.mem_cons_self (.root _), rfl⟩
  have toForest : Uses treeDocument "Tree" "Forest" :=
    ⟨treeDefinition, rfl, rfl, _, .member rfl List.mem_cons_self (.root _), rfl⟩
  have label : forestDefinition.Mentions pointer :=
    ⟨_, .member rfl (List.mem_cons_of_mem _ List.mem_cons_self) (.root _), rfl⟩
  have depends : DependsOn treeDocument schema pointer :=
    .inr ⟨"Forest", forestDefinition, ⟨"Tree", toTree, .single toForest⟩, rfl, label⟩
  exact ⟨unmarked, listed, rfl, dangling, depends,
    (content_reports_dangling unmarked location response).1 _ media schema pointer listed rfl
      dangling depends⟩

end ApiMock.Document
