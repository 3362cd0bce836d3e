import ApiMock.Proofs.Sample.Belonging
/-!
# Values of registry components

The components of a registry are compiled without one, so their generators hold no reference to a
component (`Schema.inline_generator`). Sampling such a generator, and belonging to it, is the same
whatever the components stand for. So it makes no difference that a reference is not followed within
the values of a component, and the values that the registry samples are those that
`Registry.Supplies` describes, where every reference is followed.
-/
namespace ApiMock

/-- A generator without references to components of the schema registry. -/
inductive Generator.Inline : Generator → Prop
  /-- Null. -/
  | null : Inline .null
  /-- A given value. -/
  | literal (value : Json) : Inline (.literal value)
  /-- Alternatives without references. -/
  | oneOf {alternatives : List Generator} (each : ∀ generator ∈ alternatives, Inline generator) :
      Inline (.oneOf alternatives)
  /-- Given values. -/
  | enum (values : List Json) : Inline (.enum values)
  /-- Strings. -/
  | text (kind : StringKind) : Inline (.text kind)
  /-- Integers. -/
  | integer (minimum maximum : Option Binary64) : Inline (.integer minimum maximum)
  /-- Truth values. -/
  | boolean : Inline .boolean
  /-- Objects with made-up keys and values without references. -/
  | record {values : Generator} (inner : Inline values) : Inline (.record values)
  /-- Objects whose properties have no references. -/
  | object {properties : List (String × Generator)}
      (each : ∀ property ∈ properties, Inline property.2) : Inline (.object properties)
  /-- Arrays whose items have no references. -/
  | array (minimum : Nat) (maximum : LengthBound) {items : Generator} (inner : Inline items) :
      Inline (.array minimum maximum items)

/-- Without a registry, no schema becomes a reference to a component. -/
theorem Schema.registry_ne_rule {options : Options} (disabled : options.registryEnabled = false)
    (schema : Schema) (name : String) : schema.rule options ≠ .registry name := by
  intro applies
  have unnamed : schema.registryName options = none := by simp [registryName, disabled]
  simp only [rule, unnamed, keywordRule, typeRule, objectRule] at applies
  repeat' split at applies
  all_goals simp_all

/-- Without a registry, a schema is compiled to a generator without references. -/
theorem Schema.inline_generator {options : Options} (disabled : options.registryEnabled = false)
    (key : Option String) (schema : Schema) : (schema.generator options key).Inline := by
  -- The induction is along the rules, since merging and choosing a type leave the schema.
  induction key, schema using Schema.generator.induct options with
  | case1 key schema value applies =>
    rw [generator_eq, applies]
    exact .literal value
  | case2 key schema _ applies none | case5 key schema _ applies none
  | case8 key schema _ applies none =>
    rw [generator_eq, applies]
    simp only [none, if_true]
    exact .null
  | case3 key schema names applies some ih =>
    rw [generator_eq, applies]
    simp only [some]
    refine .oneOf fun generator listed => ?_
    obtain ⟨name, -, rfl⟩ := List.mem_map.mp listed
    exact ih name
  | case4 key schema name applies => exact absurd applies (registry_ne_rule disabled schema name)
  | case6 key schema values applies some =>
    rw [generator_eq, applies]
    simp only [some]
    exact .enum values
  | case7 key schema members applies ih =>
    rw [generator_eq, applies]
    exact ih
  | case9 key schema schemas applies some ih =>
    rw [generator_eq, applies]
    simp only [some]
    refine .oneOf fun generator listed => ?_
    obtain ⟨alternative, member, rfl⟩ := List.mem_map.mp listed
    exact ih ⟨alternative, member⟩
  | case10 key schema applies =>
    rw [generator_eq, applies]
    exact .text _
  | case11 key schema applies =>
    rw [generator_eq, applies]
    exact .integer _ _
  | case12 key schema applies =>
    rw [generator_eq, applies]
    exact .boolean
  | case13 key schema values applies ih =>
    rw [generator_eq, applies]
    exact .record ih
  | case14 key schema properties applies ih =>
    rw [generator_eq, applies]
    refine .object fun property listed => ?_
    obtain ⟨declared, member, rfl⟩ := List.mem_map.mp listed
    exact ih ⟨declared, member⟩
  | case15 key schema items applies ih =>
    rw [generator_eq, applies]
    refine .array _ _ ?_
    cases items with
    | none => exact .null
    | some items => exact ih items applies
  | case16 key schema applies =>
    rw [generator_eq, applies]
    exact .null

namespace Generator

/-- Which values belong to a generator without references does not depend on the components. -/
theorem Belongs.of_inline {component other : String → Json → Prop} {generator : Generator}
    {value : Json} (inline : generator.Inline) (belongs : Belongs component generator value) :
    Belongs other generator value := by
  induction belongs with
  | null => exact .null
  | literal value => exact .literal value
  | oneOf member _ ih =>
    cases inline with
    | oneOf each => exact .oneOf member (ih (each _ member))
  | oneOfNone => exact .oneOfNone
  | registry belongs => cases inline
  | enum member => exact .enum member
  | enumNone => exact .enumNone
  | text kind text => exact .text kind text
  | integer within => exact .integer within
  | boolean truth => exact .boolean truth
  | record size distinct words _ ih =>
    cases inline with
    | record inner =>
      exact .record size distinct words fun key value member => ih key value member inner
  | object names _ ih =>
    cases inline with
    | object each =>
      refine .object names fun key value generator member listed => ?_
      have declared := List.mem_reverse.mp (Entries.mem_of_get? listed)
      exact ih key value generator member listed (each (key, generator) declared)
  | array within _ ih =>
    cases inline with
    | array _ _ inner => exact .array within fun value member => ih value member inner

variable {σ : Type} [WordSource σ]

mutual

/-- What is sampled from a generator without references does not depend on the components. -/
theorem sampleWith_eq_of_inline {draw other : String → StateM σ Json} {now : Instant} :
    {generator : Generator} → generator.Inline →
      generator.sampleWith draw now = generator.sampleWith other now
  | .null, _ | .literal _, _ | .enum _, _ | .text _, _ | .integer _ _, _ | .boolean, _ => by
    rw [sampleWith, sampleWith]
  | .oneOf _, .oneOf each => by rw [sampleWith, sampleWith, sampleAt_eq_of_inline each]
  | .record _, .record inner => by rw [sampleWith, sampleWith, sampleWith_eq_of_inline inner]
  | .object _, .object each => by rw [sampleWith, sampleWith, sampleProperties_eq_of_inline each]
  | .array _ _ _, .array _ _ inner => by
    rw [sampleWith, sampleWith, sampleWith_eq_of_inline inner]

/-- What is sampled at a place of a list of generators without references does not depend on the
components. -/
theorem sampleAt_eq_of_inline {draw other : String → StateM σ Json} {now : Instant} :
    {alternatives : List Generator} → (∀ generator ∈ alternatives, generator.Inline) →
      sampleAt draw now alternatives = sampleAt other now alternatives
  | [], _ => by
    funext place
    rw [sampleAt, sampleAt]
  | generator :: rest, each => by
    funext place
    cases place with
    | zero =>
      rw [sampleAt, sampleAt, sampleWith_eq_of_inline (each generator List.mem_cons_self)]
    | succ place =>
      rw [sampleAt, sampleAt,
        sampleAt_eq_of_inline fun other later => each other (List.mem_cons_of_mem _ later)]

/-- What is sampled from properties without references does not depend on the components. -/
theorem sampleProperties_eq_of_inline {draw other : String → StateM σ Json} {now : Instant} :
    {properties : List (String × Generator)} → (∀ property ∈ properties, property.2.Inline) →
      sampleProperties draw now properties = sampleProperties other now properties
  | [], _ => by rw [sampleProperties, sampleProperties]
  | (name, generator) :: rest, each => by
    have head : generator.Inline := each (name, generator) List.mem_cons_self
    have tail : ∀ property ∈ rest, property.2.Inline :=
      fun property later => each property (List.mem_cons_of_mem _ later)
    rw [sampleProperties, sampleProperties, sampleWith_eq_of_inline head,
      sampleProperties_eq_of_inline tail]

end

end Generator

namespace Registry

/-- The values of the components of a registry: those that belong to the generator of a component,
with all references in it followed, and null for a component that is not known. -/
inductive Supplies (registry : Registry) : String → Json → Prop
  /-- A value that belongs to the generator of the component. -/
  | known {name : String} {generator : Generator} {value : Json}
      (found : Entries.get? registry name = some generator)
      (belongs : Generator.Belongs (Supplies registry) generator value) :
      Supplies registry name value
  /-- There is no such component. -/
  | unknown {name : String} (missing : Entries.get? registry name = none) :
      Supplies registry name .null

/-- A value of a known component belongs to its generator. -/
theorem Supplies.belongs {registry : Registry} {name : String} {generator : Generator}
    {value : Json} (supplied : registry.Supplies name value) (found : Entries.get? registry name = some generator) :
    Generator.Belongs registry.Supplies generator value := by
  cases supplied with
  | known other belongs =>
    rw [found] at other
    cases other
    exact belongs
  | unknown missing =>
    rw [found] at missing
    cases missing

/-- The value of an unknown component is null. -/
theorem Supplies.eq_null {registry : Registry} {name : String} {value : Json}
    (supplied : registry.Supplies name value) (missing : Entries.get? registry name = none) :
    value = .null := by
  cases supplied with
  | known found belongs =>
    rw [missing] at found
    cases found
  | unknown missing => rfl

variable (options : Options) (components : Entries Schema)

/-- What is stored for a component is the generator of its schema, compiled without a registry, and
nothing is stored for other names. -/
theorem get?_ofComponents (name : String) :
    Entries.get? (ofComponents options components) name =
      (Entries.get? components name).map fun schema =>
        schema.generator { options with registryModule := none } none :=
  Entries.get?_map components
    (fun _ schema => schema.generator { options with registryModule := none } none) name

/-- The generators of components hold no references. -/
theorem inline_of_mem_ofComponents {entry : String × Generator}
    (stored : entry ∈ ofComponents options components) : entry.2.Inline := by
  obtain ⟨⟨name, schema⟩, -, rfl⟩ := List.mem_map.mp stored
  exact Schema.inline_generator rfl none schema

/-- What is found under the name of a component holds no references. -/
theorem inline_of_get?_ofComponents {name : String} {generator : Generator}
    (found : Entries.get? (ofComponents options components) name = some generator) :
    generator.Inline :=
  inline_of_mem_ofComponents options components (Entries.mem_of_get? found)

variable {σ : Type} [WordSource σ]

/-- A component is sampled from its generator with the same registry, and an unknown one is null. -/
theorem sample_ofComponents (now : Instant) (name : String) :
    let registry := ofComponents options components
    (registry.sample now name : StateM σ Json) =
      match Entries.get? registry name with
      | some generator => generator.sample registry now
      | none => return .null := by
  intro registry
  unfold sample
  cases found : Entries.get? registry name with
  | none => rfl
  | some generator =>
    exact Generator.sampleWith_eq_of_inline (inline_of_get?_ofComponents options components found)

/-- What a registry samples for a component is a value of the component. -/
theorem sample_supplies (now : Instant) (name : String) :
    let registry := ofComponents options components
    Random.Always (registry.sample now name : StateM σ Json) (registry.Supplies name) := by
  intro registry
  unfold sample
  cases found : Entries.get? registry name with
  | none => exact Random.Always.pure (.unknown found)
  | some generator =>
    have inline := inline_of_get?_ofComponents options components found
    refine (Generator.sampleWith_belongs (fun name => Random.Always.trivial _) now generator).imp
      fun value belongs => ?_
    exact .known found (belongs.of_inline inline)

end Registry

end ApiMock
