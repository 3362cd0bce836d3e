import ApiMock.Proofs.Document.Dangling
import ApiMock.Proofs.Sample.Component
import ApiMock.Proofs.Schema.Marking
/-!
# Components and references to them

A component gets into the registry through its definition, in which it is open itself, and into a
body through a reference, which opens it from outside and marks it. Both meet the same expansion of
the definition (`expand_reference`), so they differ in the mark alone, which does not count where no
registry is used. What cannot be read is reported instead, once for each component.
-/
namespace ApiMock.Document

/-- A reference to a schema component. -/
def reference (name : String) : Json := .obj [("$ref", .str (schemaLead ++ name))]

/-- The place at which a component that cannot be read is reported. -/
def componentLocation (name : String) : Location := ⟨[schemaLead ++ name]⟩

/-- Whether an issue tells of a component that cannot be read. -/
def tellsUnread (name : String) (issue : Issue) : Bool :=
  issue.location == componentLocation name && issue.problem.kind == "InvalidSchema"

variable {document : Json}

/-- What is read off the definition of a component, in which the component itself is open. -/
def readComponent (document : Json) (name : String) (definition : Json) :
    Reported (Option Schema) :=
  readSchema (componentLocation name) (expandWithin document [name] definition)

/-- A value is read as a schema without an issue, or there is one issue and no schema. -/
theorem readSchema_cases (location : Location) (value : Json) :
    (∃ schema, Schema.ofJson value.normalize = .ok schema ∧
      readSchema location value = ⟨some schema, []⟩) ∨
    ∃ cause, readSchema location value = ⟨none, [⟨location, .invalidSchema cause⟩]⟩ := by
  unfold readSchema
  cases read : Schema.ofJson value.normalize with
  | ok schema => exact .inl ⟨schema, rfl, rfl⟩
  | error cause => exact .inr ⟨cause, rfl⟩

/-- A reference to a closed component expands to the marked expansion of the definition, in which it
is open. -/
theorem expandWithin_reference {chain : List String} {name : String} {definition : Json}
    (closed : name ∉ chain) (defined : component? document name = some definition) :
    expandWithin document chain (reference name) =
      mark name (expandWithin document (name :: chain) definition) := by
  have named : schemaName? (schemaLead ++ name) = some name := schemaName?_eq_some_iff.mpr rfl
  have pointer : (reference name).reference? = some (schemaLead ++ name) := rfl
  rw [expandWithin_eq, Json.substitute_of_reference pointer,
    opening_of_closed named closed defined, Option.getD_some]

/-- A reference to a component expands to the marked expansion of the definition. -/
theorem expand_reference {name : String} {definition : Json}
    (defined : component? document name = some definition) :
    expand document (reference name) = mark name (expandWithin document [name] definition) :=
  expandWithin_reference List.not_mem_nil defined

/-- No issue of another component tells that a component cannot be read. -/
theorem countP_readComponent_of_ne {name other : String} (different : other ≠ name)
    (definition : Json) :
    (readComponent document other definition).issues.countP (tellsUnread name) = 0 := by
  have elsewhere : ∀ problem, tellsUnread name ⟨componentLocation other, problem⟩ = false := by
    intro problem
    have apart : componentLocation other ≠ componentLocation name := by
      intro same
      have leads : schemaLead ++ other = schemaLead ++ name := by
        simpa [componentLocation] using same
      exact different (String.append_right_inj _ |>.mp leads)
    simp [tellsUnread, apart]
  rcases readSchema_cases (componentLocation other) (expandWithin document [other] definition) with
    ⟨schema, -, read⟩ | ⟨cause, read⟩
  · rw [readComponent, read]
    rfl
  · rw [readComponent, read]
    simp [elsewhere]

/-- The components are read one by one, in the order of the document, and so are their issues. -/
theorem components_eq (document : Json) :
    let schemas := (section? document "schemas").getD []
    components document =
      ⟨schemas.filterMap fun entry =>
          (readComponent document entry.1 entry.2).value.map (entry.1, ·),
        schemas.flatMap fun entry => (readComponent document entry.1 entry.2).issues⟩ := by
  simp only [components, Reported.gather, List.filterMap_map, List.flatMap_map]
  rfl

/-- The components that can be read come in the order of the document. -/
theorem keys_components_sublist (document : Json) :
    (Entries.keys (components document).value).Sublist (componentNames document) := by
  rw [components_eq]
  exact Entries.keys_filterMap_sublist _
    fun name definition => (readComponent document name definition).value

/-- Where no name is repeated, a component is there if its definition can be read. -/
theorem get?_components (distinct : (componentNames document).Nodup) (name : String) :
    Entries.get? (components document).value name =
      (component? document name).bind fun definition =>
        (readComponent document name definition).value := by
  rw [components_eq, Entries.get?_filterMap distinct
    (fun name definition => (readComponent document name definition).value), component?]
  cases section? document "schemas" <;> rfl

/-- Where no name is repeated, what is reported of a component is what is reported of its
definition. -/
theorem countP_components (distinct : (componentNames document).Nodup) (name : String) :
    (components document).issues.countP (tellsUnread name) =
      ((component? document name).map fun definition =>
        (readComponent document name definition).issues.countP (tellsUnread name)).getD 0 := by
  rw [components_eq, Entries.countP_flatMap distinct
    (fun name definition => (readComponent document name definition).issues)
    fun other definition different => countP_readComponent_of_ne different definition, component?]
  cases section? document "schemas" <;> rfl

/-- Every component is either in the registry or reported once as a schema that cannot be read, and
the components that are in it keep the order of the document. What the registry has for a component
is the generator of a reference to it that is expanded, normalized, read and compiled without a key
and a registry, however the component refers to itself and to others. -/
theorem registry_agrees {document : Json} (distinct : (componentNames document).Nodup)
    (options : Options) :
    let found := components document
    (Entries.keys found.value).Sublist (componentNames document) ∧
      ∀ name ∈ componentNames document,
        (name ∈ Entries.keys found.value ∧ found.issues.countP (tellsUnread name) = 0 ∧
          ∃ schema, Schema.ofJson (expand document (reference name)).normalize = .ok schema ∧
            Entries.get? (Registry.ofComponents options found.value) name =
              some (schema.generator { options with registryModule := none } none)) ∨
        (name ∉ Entries.keys found.value ∧ found.issues.countP (tellsUnread name) = 1) := by
  intro found
  refine ⟨keys_components_sublist document, fun name named => ?_⟩
  obtain ⟨definition, defined⟩ : ∃ definition, component? document name = some definition := by
    cases inSection : section? document "schemas" with
    | none => simp [componentNames, inSection, Entries.keys] at named
    | some schemas =>
      have known : name ∈ Entries.keys schemas := by
        simpa only [componentNames, inSection, Option.getD_some] using named
      obtain ⟨definition, listed⟩ :=
        Option.isSome_iff_exists.mp ((Entries.get?_isSome_iff schemas name).mpr known)
      exact ⟨definition, by rw [component?, inSection, Option.bind_some, listed]⟩
  have stored := get?_components distinct name
  have reported := countP_components distinct name
  rw [defined, Option.bind_some] at stored
  rw [defined, Option.map_some, Option.getD_some] at reported
  rcases readSchema_cases (componentLocation name) (expandWithin document [name] definition) with
    ⟨schema, readable, read⟩ | ⟨cause, read⟩
  · -- The registry reads the definition, a body the definition with a mark.
    rw [readComponent, read] at stored reported
    obtain ⟨marked, readMarked, same⟩ := Schema.ofJson_normalize_mark readable name
    have disabled : { options with registryModule := none }.registryEnabled = false := rfl
    refine .inl ⟨?_, reported, marked, ?_, ?_⟩
    · exact (Entries.get?_isSome_iff _ name).mp (Option.isSome_of_eq_some stored)
    · rw [expand_reference defined, readMarked]
    · rw [Registry.get?_ofComponents, stored, Option.map_some, ← Schema.generator_unmarked disabled,
        ← same, Schema.generator_unmarked disabled]
  · rw [readComponent, read] at stored reported
    refine .inr ⟨?_, ?_⟩
    · rw [← Entries.get?_isSome_iff, stored]
      simp
    · rw [reported]
      simp [tellsUnread, Problem.kind]

/-- The definition of the links of a chain, each with the next one. -/
def linkDefinition : Json :=
  .obj [("type", .str "object"), ("properties", .obj [("next", reference "Link")])]

/-- A document with the links of a chain and a component that is no schema. -/
def chainDocument : Json :=
  .obj [("components", .obj [("schemas",
    .obj [("Link", linkDefinition), ("Label", .str "no schema")])])]

/-- The links of a chain are in the registry with the generator of a reference to them, and the
component that is no schema is reported. -/
theorem registry_agrees_chainDocument :
    let options : Options := { registryModule := some "./registry.ts" }
    let found := components chainDocument
    (componentNames chainDocument).Nodup ∧
      (∃ schema, Schema.ofJson (expand chainDocument (reference "Link")).normalize = .ok schema ∧
        Entries.get? (Registry.ofComponents options found.value) "Link" =
          some (schema.generator { options with registryModule := none } none)) ∧
      found.issues.countP (tellsUnread "Label") = 1 := by
  intro options found
  have distinct : (componentNames chainDocument).Nodup := by decide
  have agrees := (registry_agrees distinct options).2
  -- Within itself the chain is left as it is.
  have kept : opening chainDocument ["Link"] (schemaLead ++ "Link") = none := by
    rw [opening, schemaName?_eq_some_iff.mpr rfl]
    rfl
  have inner : expandWithin chainDocument ["Link"] linkDefinition = linkDefinition := by
    rw [expandWithin_eq]
    change Json.obj [("type", .str "object"), ("properties", .obj [("next",
      (reference "Link").substitute (opening chainDocument ["Link"]))])] = linkDefinition
    rw [Json.substitute_of_reference rfl, kept]
    rfl
  have link : "Link" ∈ Entries.keys found.value := by
    rw [← Entries.get?_isSome_iff, get?_components distinct]
    change (readSchema _ (expandWithin chainDocument ["Link"] linkDefinition)).value.isSome
    rw [inner]
    rfl
  have label : "Label" ∉ Entries.keys found.value := by
    rw [← Entries.get?_isSome_iff, get?_components distinct]
    change ¬ (readSchema _ (expandWithin chainDocument ["Label"] (.str "no schema"))).value.isSome
    rw [expandWithin_eq]
    exact Bool.false_ne_true
  refine ⟨distinct, ?_, ?_⟩
  · rcases agrees "Link" (by decide) with ⟨-, -, same⟩ | ⟨missing, -⟩
    · exact same
    · exact absurd link missing
  · rcases agrees "Label" (by decide) with ⟨there, -, -⟩ | ⟨-, once⟩
    · exact absurd there label
    · exact once

end ApiMock.Document
