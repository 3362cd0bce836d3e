import ApiMock.Generator.Expression
import ApiMock.Proofs.Document.Components
import ApiMock.Proofs.Schema.Reference
import ApiMock.Proofs.Text.Identifier
import ApiMock.Random.ChaCha
/-!
# Calls of the registry

Where a registry is used, a schema that refers to a component is left to it. The name of the component
then goes two ways: sampling looks the component up under it, and the expression reads it off the
module of the registry, where it stands without quotes. Sampling finds every name, the expression
those only that are identifiers. So both mean the same component exactly where the name has no dot,
no hyphen and no digit in front (`registryCall_names`).
-/
namespace ApiMock

/-! ### Names of components -/

/-- The characters of names of components: letters, digits, dots, hyphens and underscores. -/
def componentChar (c : Char) : Bool := c.isAlphanum || c == '.' || c == '-' || c == '_'

/-- The names that a document may give its components: one or more of these characters. -/
def IsComponentName (name : String) : Prop := name ≠ "" ∧ name.toList.all componentChar = true

instance (name : String) : Decidable (IsComponentName name) :=
  inferInstanceAs (Decidable (_ ∧ _))

/-- A name without dots, hyphens and a digit in front. -/
structure IsPlainName (name : String) : Prop where
  /-- A dot would read a member of a member. -/
  noDot : '.' ∉ name.toList
  /-- A hyphen would subtract. -/
  noHyphen : '-' ∉ name.toList
  /-- A digit would begin a number. -/
  noDigit : name.toList.head?.any Char.isDigit = false

namespace IsComponentName

variable {name : String}

/-- A name has no slash in it. -/
theorem noSlash (allowed : IsComponentName name) : '/' ∉ name.toList := by
  intro listed
  have slash : componentChar '/' = true := List.all_eq_true.mp allowed.2 '/' listed
  exact absurd slash (by decide)

/-- What is no dot and no hyphen in a name is a letter, a digit or an underscore. -/
theorem isAlphanum_or_underscore (allowed : IsComponentName name) (plain : IsPlainName name)
    {c : Char} (listed : c ∈ name.toList) : c.isAlphanum = true ∨ c = '_' := by
  have among : componentChar c = true := List.all_eq_true.mp allowed.2 c listed
  simp only [componentChar, Bool.or_eq_true, beq_iff_eq] at among
  rcases among with ((letter | rfl) | rfl) | underscore
  · exact .inl letter
  · exact absurd listed plain.noDot
  · exact absurd listed plain.noHyphen
  · exact .inr underscore

/-- A name is an identifier exactly when it is plain. -/
theorem isIdentifier_iff (allowed : IsComponentName name) :
    Text.IsIdentifier name ↔ IsPlainName name := by
  obtain ⟨first, rest, letters⟩ : ∃ first rest, name.toList = first :: rest :=
    List.exists_cons_of_ne_nil fun none => allowed.1 (String.toList_inj.mp none)
  constructor
  · rintro ⟨start, parts⟩
    have each : ∀ c ∈ name.toList, Text.identifierPart c = true := List.all_eq_true.mp parts
    refine ⟨fun listed => ?_, fun listed => ?_, ?_⟩
    · exact absurd (each '.' listed) (by decide)
    · exact absurd (each '-' listed) (by decide)
    · rw [letters] at start ⊢
      exact Text.isDigit_of_identifierStart start
  · intro plain
    constructor
    · have noDigit : first.isDigit = false := by simpa [letters] using plain.noDigit
      have listed : first ∈ name.toList := by simp [letters]
      rw [letters, List.head?_cons, Option.any_some]
      rcases allowed.isAlphanum_or_underscore plain listed with letter | rfl
      · rw [Char.isAlphanum, noDigit, Bool.or_false] at letter
        simp [Text.identifierStart, letter]
      · rfl
    · refine List.all_eq_true.mpr fun c listed => ?_
      rcases allowed.isAlphanum_or_underscore plain listed with letter | rfl
      · simp [Text.identifierPart, letter]
      · rfl

end IsComponentName

/-! ### Calls -/

/-- What leads to the name of the component in a call of the registry. -/
def callLead : String := "generateMock(schemas."

/-- Where a registry is used, a schema that refers to a component is left to it, unless a documented
value or a list of types comes first. -/
theorem Schema.Refers.generator_eq {options : Options} (enabled : options.registryEnabled = true)
    {name : String} (allowed : IsComponentName name) {schema : Schema} (refers : schema.Refers name)
    (undocumented : schema.exampleValue = none)
    (single : ∀ names, schema.type ≠ some (.multiple names)) (key : Option String) :
    schema.generator options key = .registry name := by
  have named : schema.registryName options = some name := by
    rw [registryName, if_pos enabled, refers.referenceName_eq allowed.1 allowed.noSlash]
  have applies : schema.rule options = .registry name := by
    cases typed : schema.type with
    | none => simp only [rule, undocumented, typed, named]
    | some keyword =>
      cases keyword with
      | single type => simp only [rule, undocumented, typed, named]
      | multiple names => exact absurd typed (single names)
  rw [Schema.generator_eq, applies]

/-- The identifier that a call of the registry reads is the name of the component exactly when the
name is an identifier. -/
theorem readsIdentifier_call_iff (name : String) :
    Text.ReadsIdentifier callLead (Generator.registry name).expression name ↔
      Text.IsIdentifier name :=
  Text.readsIdentifier_append_iff (by decide) callLead []

namespace Document

/-- A schema that refers to a component is left to it where a registry is used, under exactly the
name that sampling looks up and that the expression has after the dot, unless a documented value or a
list of types comes first. What the expression has there is an identifier, and then it is what the
expression reads, exactly when the name is plain. What is read off the expansion of a reference refers
to its component, if the expansion is an object and no pointer of another component is left in it; a
truth value has no place for the name and gives null. -/
theorem registryCall_names {options : Options} (enabled : options.registryEnabled = true)
    {name : String} (allowed : IsComponentName name) :
    (Text.IsIdentifier name ↔ IsPlainName name) ∧
      (∀ (schema : Schema) (key : Option String), schema.Refers name →
        schema.exampleValue = none → (∀ names, schema.type ≠ some (.multiple names)) →
          let generator := schema.generator options key
          generator = .registry name ∧ generator.expression = callLead ++ name ++ ")" ∧
            (Text.ReadsIdentifier callLead generator.expression name ↔ Text.IsIdentifier name) ∧
            ∀ (σ : Type) [WordSource σ] (registry : Registry) (now : Instant),
              (generator.sample registry now : StateM σ Json) = registry.sample now name) ∧
      ∀ (document : Json) (chain : List String) (value : Json) (schema : Schema),
        document.DistinctKeys → value.DistinctKeys →
        value.reference? = some (schemaLead ++ name) →
          let expanded := expandWithin document chain value
          Schema.ofJson expanded.normalize = .ok schema →
            (∀ members, expanded = .obj members → (schema.Refers name ↔ ∀ pointer,
              expanded.reference? = some pointer → pointer = schemaLead ++ name)) ∧
            ∀ truth key, expanded = .bool truth → schema.generator options key = .null := by
  refine ⟨allowed.isIdentifier_iff, ?_, ?_⟩
  · intro schema key refers undocumented single generator
    have delegated : generator = .registry name :=
      refers.generator_eq enabled allowed undocumented single key
    rw [delegated]
    exact ⟨rfl, rfl, readsIdentifier_call_iff name, fun σ _ registry now => rfl⟩
  · intro document chain value schema distinct own reference expanded read
    refine ⟨fun members object => refers_iff distinct own reference object read, ?_⟩
    intro truth key boolean
    rw [boolean] at read
    cases read
    have unnamed : ({} : Schema).registryName options = none := by
      rw [Schema.registryName, if_pos enabled]
      rfl
    rw [Schema.generator_eq, Schema.rule, unnamed]
    rfl

/-- A document with one component, which is an object. -/
def singleDocument (name : String) : Json :=
  .obj [("components", .obj [("schemas", .obj [(name, .obj [("type", .str "object")])])])]

/-- What a reference to the only component is read as. -/
def singleSchema (name : String) : Schema :=
  { type := some (.single "object"), refName := some name }

/-- A reference to the only component is expanded to the marked definition. -/
theorem expand_singleDocument (name : String) :
    expand (singleDocument name) (reference name) =
      .obj [("type", .str "object"), (markerKey, .str name)] := by
  have defined : component? (singleDocument name) name = some (.obj [("type", .str "object")]) := by
    change Entries.get? [(name, Json.obj [("type", .str "object")])] name = _
    rw [Entries.get?, if_pos rfl]
  rw [expand_reference defined, expandWithin_eq]
  rfl

/-- A reference to the only component is read. -/
theorem ofJson_singleDocument (name : String) :
    Schema.ofJson (expand (singleDocument name) (reference name)).normalize =
      .ok (singleSchema name) := by
  rw [expand_singleDocument]
  rfl

/-- The name of a component that is an identifier is read off the call as a whole. -/
theorem registryCall_names_pet :
    let options : Options := { registryModule := some "./registry.ts" }
    let generator := (singleSchema "Pet").generator options none
    options.registryEnabled = true ∧ IsComponentName "Pet" ∧
      (singleSchema "Pet").Refers "Pet" ∧ generator.expression = "generateMock(schemas.Pet)" ∧
      Text.ReadsIdentifier callLead generator.expression "Pet" ∧
      ∀ (registry : Registry) (now : Instant),
        (generator.sample registry now : StateM ChaCha Json) = registry.sample now "Pet" := by
  intro options generator
  have enabled : options.registryEnabled = true := by decide
  have allowed : IsComponentName "Pet" := by decide
  have plain : IsPlainName "Pet" := ⟨by decide, by decide, by decide⟩
  obtain ⟨identifier, named, read⟩ := registryCall_names enabled allowed
  have distinct : (singleDocument "Pet").DistinctKeys := by
    simp [singleDocument, Json.distinctKeys_obj_iff, Json.distinctKeys_str, Entries.keys]
  have own : (reference "Pet").DistinctKeys := by
    simp [reference, Json.distinctKeys_obj_iff, Json.distinctKeys_str, Entries.keys]
  have refers : (singleSchema "Pet").Refers "Pet" := by
    have exactly := (read (singleDocument "Pet") [] (reference "Pet") _ distinct own rfl
      (ofJson_singleDocument "Pet")).1 _ (expand_singleDocument "Pet")
    refine exactly.mpr fun pointer left => ?_
    change (expand (singleDocument "Pet") (reference "Pet")).reference? = some pointer at left
    rw [expand_singleDocument] at left
    cases left
  obtain ⟨-, written, whole, samples⟩ := named (singleSchema "Pet") none refers rfl nofun
  exact ⟨enabled, allowed, refers, written, whole.mpr (identifier.mpr plain), samples ChaCha⟩

/-- The name of a component with a hyphen is no identifier: sampling looks it up as a whole, and the
expression reads what is before the hyphen. -/
theorem registryCall_misses_hyphen :
    let options : Options := { registryModule := some "./registry.ts" }
    let generator := (singleSchema "Pet-Item").generator options none
    options.registryEnabled = true ∧ IsComponentName "Pet-Item" ∧
      Schema.ofJson (expand (singleDocument "Pet-Item") (reference "Pet-Item")).normalize =
        .ok (singleSchema "Pet-Item") ∧
      (singleSchema "Pet-Item").Refers "Pet-Item" ∧ generator = .registry "Pet-Item" ∧
      generator.expression = "generateMock(schemas.Pet-Item)" ∧
      ¬ Text.IsIdentifier "Pet-Item" ∧
      ∀ member, Text.ReadsIdentifier callLead generator.expression member ↔ member = "Pet" := by
  intro options generator
  have enabled : options.registryEnabled = true := by decide
  have allowed : IsComponentName "Pet-Item" := by decide
  have refers : (singleSchema "Pet-Item").Refers "Pet-Item" := .expanded rfl rfl
  have delegated : generator = .registry "Pet-Item" :=
    refers.generator_eq enabled allowed rfl nofun none
  have identifier : Text.IsIdentifier "Pet" := by decide
  have stops : Text.identifierPart '-' = false := by decide
  have reads : Text.ReadsIdentifier callLead generator.expression "Pet" := by
    rw [delegated]
    exact Text.readsIdentifier_of_stop identifier stops callLead ['I', 't', 'e', 'm', ')']
  refine ⟨enabled, allowed, ofJson_singleDocument "Pet-Item", refers, delegated, ?_, by decide, ?_⟩
  · rw [delegated]
    rfl
  · intro member
    constructor
    · exact fun again => again.unique reads
    · rintro rfl
      exact reads

end Document

end ApiMock
