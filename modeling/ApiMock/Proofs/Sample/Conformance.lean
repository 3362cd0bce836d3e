import ApiMock.Proofs.Sample.Belonging
import ApiMock.Proofs.Schema.Validity
import ApiMock.Random.ChaCha
/-!
# Sampled bodies conform to their schemas

`Schema.Samplable` describes the schemas whose values can be made up without loss: every node
lists values, or schemas of which one holds, or types with the keywords that go with them, and the
range of every number and of every array length holds something to draw. A value that belongs to
the generator of such a schema is valid for the schema, and sampled values belong to their
generators, so everything sampled from a samplable schema is valid.
-/
namespace ApiMock

namespace Schema

/-- The types of which values can be made up. -/
def typeNames : List String :=
  ["string", "number", "integer", "boolean", "null", "object", "array"]

/-- The integers that a schema leaves to draw. Without bounds of its own these are the naturals up
to the greatest safe integer. -/
structure Leaves (schema : Schema) (n : Int) : Prop where
  /-- The declared bounds admit the integer. -/
  declared : schema.NumberDemands n
  /-- The least integer is zero unless declared. -/
  nonneg : schema.minimum = none → 0 ≤ n
  /-- The greatest integer is safe unless declared. -/
  safe : schema.maximum = none → n ≤ Sample.maxInteger

/-- The node of a schema lists types and has no keyword that would take precedence over them, and
there is something to draw for each of the types. -/
structure Typed (options : Options) (schema : Schema) (keyword : TypeKeyword) : Prop where
  /-- The listed types. -/
  type : schema.type = some keyword
  /-- At least one type is listed. -/
  listed : keyword.names ≠ []
  /-- Values of each type can be made up. -/
  known : ∀ name ∈ keyword.names, name ∈ typeNames
  /-- No value is documented. -/
  exampleValue : schema.exampleValue = none
  /-- No values are listed. -/
  enum : schema.enum = none
  /-- Nothing is composed. -/
  allOf : schema.allOf = none
  /-- There are no alternatives. -/
  oneOf : schema.oneOf = none
  /-- There are no alternatives of the other kind. -/
  anyOf : schema.anyOf = none
  /-- Nothing is referred to. -/
  reference : schema.reference = none
  /-- A number has a safe integer within its range. -/
  range : "number" ∈ keyword.names ∨ "integer" ∈ keyword.names →
    ∃ n : Int, n.natAbs ≤ Sample.maxInteger ∧ schema.Leaves n
  /-- An array has a length that sampling does not cap. -/
  length : "array" ∈ keyword.names →
    schema.minLength.getD 1 ≤ schema.maxLength.getD options.maxArrayLength ∧
      schema.maxLength.getD options.maxArrayLength ≤ Sample.maxArrayLength
  /-- No property is declared twice. -/
  distinct : (Entries.keys (schema.properties.getD [])).Nodup

/-- The schemas whose values can be made up without loss. -/
inductive Samplable (options : Options) : Schema → Prop
  /-- A list of values and nothing else. -/
  | enum (format refName : Option String) {values : List Json} (some : values ≠ []) :
      Samplable options { enum := values, format := format, refName := refName }
  /-- Alternatives and nothing else. -/
  | oneOf (format refName : Option String) {alternatives : List Schema} (some : alternatives ≠ [])
      (each : ∀ alternative ∈ alternatives, Samplable options alternative) :
      Samplable options { oneOf := alternatives, format := format, refName := refName }
  /-- Alternatives of the other kind and nothing else. -/
  | anyOf (format refName : Option String) {alternatives : List Schema} (some : alternatives ≠ [])
      (each : ∀ alternative ∈ alternatives, Samplable options alternative) :
      Samplable options { anyOf := alternatives, format := format, refName := refName }
  /-- Types with the keywords that go with them. -/
  | typed {schema : Schema} {keyword : TypeKeyword} (node : schema.Typed options keyword)
      (properties : ∀ property ∈ schema.properties.getD [], Samplable options property.2)
      (additional : ∀ values, schema.additionalProperties = some (.schema values) →
        Samplable options values)
      (items : ∀ items, schema.items = some items → Samplable options items) :
      Samplable options schema

/-- A node that lists types and has no bounds of its own, whose properties, if there are any, have
different names. -/
theorem typed_of_unbounded {options : Options} {keyword : TypeKeyword}
    {properties : Option (List (String × Schema))} {additional : Option (Additional Schema)}
    {items : Option Schema} (listed : keyword.names ≠ [])
    (known : ∀ name ∈ keyword.names, name ∈ typeNames)
    (lower : 1 ≤ options.maxArrayLength) (upper : options.maxArrayLength ≤ Sample.maxArrayLength)
    (distinct : (Entries.keys (properties.getD [])).Nodup) :
    Typed options
      { type := keyword, properties := properties, additionalProperties := additional,
        items := items } keyword where
  type := rfl
  listed := listed
  known := known
  exampleValue := rfl
  enum := rfl
  allOf := rfl
  oneOf := rfl
  anyOf := rfl
  reference := rfl
  range _ := ⟨0, by decide, ⟨nofun, nofun⟩, fun _ => Int.le_refl 0, fun _ => by decide⟩
  length _ := ⟨lower, upper⟩
  distinct := distinct

/-- The bounds of a schema hold for every integer within them, as soon as they leave one. -/
theorem numberDemands_of_within {schema : Schema} {known n : Int}
    (safe : known.natAbs ≤ Sample.maxInteger) (leaves : schema.Leaves known)
    (within : Sample.IntegerWithin schema.minimum schema.maximum n) :
    schema.NumberDemands n := by
  have least : Sample.leastInteger schema.minimum ≤ known := by
    cases declared : schema.minimum with
    | none => exact leaves.nonneg declared
    | some bound =>
      exact Binary64.ceilWithin_le (by omega) (leaves.declared.minimum bound declared)
  have greatest : known ≤ Sample.greatestInteger schema.maximum := by
    cases declared : schema.maximum with
    | none => exact leaves.safe declared
    | some bound =>
      exact Binary64.le_floorWithin (by omega) (leaves.declared.maximum bound declared)
  rw [Sample.IntegerWithin, if_pos (by omega)] at within
  constructor
  · intro bound declared
    rw [declared] at within
    exact Binary64.atMost_of_ceilWithin_le (by omega) (leaves.declared.minimum bound declared)
      within.1
  · intro bound declared
    rw [declared] at within
    exact Binary64.atLeast_of_le_floorWithin (by omega) (leaves.declared.maximum bound declared)
      within.2

/-- An object has made-up keys where further properties are described and none is declared, and
the declared ones otherwise. -/
theorem objectRule_cases (schema : Schema) :
    (∃ values, schema.properties = none ∧ schema.additionalProperties = some (.schema values) ∧
      schema.objectRule = .record values) ∨
    schema.objectRule = .object (schema.properties.getD []) := by
  unfold objectRule
  split
  · rename_i values undeclared further
    exact .inl ⟨values, undeclared, further, rfl⟩
  · exact .inr rfl

/-- Every value of the generator of a schema is valid for the schema. -/
def Sound (component : String → Json → Prop) (options : Options) (schema : Schema) : Prop :=
  ∀ key value, Generator.Belongs component (schema.generator options key) value →
    schema.Admits value

namespace Typed

variable {options : Options} {schema : Schema} {keyword : TypeKeyword}

/-- The demands of a node that lists types are those on numbers, arrays and objects. -/
theorem demands (node : schema.Typed options keyword) {part : Schema → Json → Prop} {value : Json}
    {name : String} (member : name ∈ keyword.names) (typed : value.HasType name)
    (number : ∀ n q, value = .num n → n.rational? = some q → schema.NumberDemands q)
    (array : ∀ elements, value = .arr elements → schema.ArrayDemands part elements)
    (object : ∀ members, value = .obj members → schema.ObjectDemands part members) :
    schema.Demands part value where
  type listed equal := by
    obtain rfl : keyword = listed := Option.some.inj (node.type.symm.trans equal)
    exact ⟨name, member, typed⟩
  enum _ listed := by rw [node.enum] at listed; cases listed
  allOf _ composed := by rw [node.allOf] at composed; cases composed
  oneOf _ choice := by rw [node.oneOf] at choice; cases choice
  anyOf _ choice := by rw [node.anyOf] at choice; cases choice
  number := number
  array := array
  object := object

/-- With one type in place of its own, a node is compiled by its type. -/
theorem rule_withType (node : schema.Typed options keyword)
    (disabled : options.registryEnabled = false) (name : String) :
    (schema.withType name).rule options = (schema.withType name).typeRule name := by
  simp [rule, registryName, keywordRule, withType, node.exampleValue, node.enum, node.allOf,
    node.oneOf, node.anyOf, disabled]

/-- A value of a node that lists types belongs to the generator for one of them. -/
theorem exists_belongs_withType (node : schema.Typed options keyword)
    {component : String → Json → Prop} {key : Option String} {value : Json}
    (belongs : Generator.Belongs component (schema.generator options key) value) :
    ∃ name ∈ keyword.names,
      Generator.Belongs component ((schema.withType name).generator options key) value := by
  cases keyword with
  | single name =>
    have same : schema.withType name = schema := by
      cases schema
      cases node.type
      rfl
    exact ⟨name, List.mem_singleton_self name, same.symm ▸ belongs⟩
  | multiple names =>
    have choice : schema.rule options = .typeList names := by
      simp [rule, node.type, node.exampleValue]
    have some : names.isEmpty = false := by simpa [TypeKeyword.names] using node.listed
    rw [generator_eq, choice] at belongs
    simp only [some, Bool.false_eq_true, if_false] at belongs
    generalize alternatives : names.map (fun name => (schema.withType name).generator options key) =
      generators at belongs
    cases belongs with
    | oneOf member belongs =>
      obtain ⟨name, listed, rfl⟩ := List.mem_map.mp (alternatives ▸ member)
      exact ⟨name, listed, belongs⟩
    | oneOfNone => exact absurd (List.map_eq_nil_iff.mp alternatives) node.listed

/-- A made-up object with the declared properties has what the schema asks of an object. -/
theorem objectDemands_of_object (node : schema.Typed options keyword)
    {component : String → Json → Prop} {members : Entries Json}
    (properties : ∀ property ∈ schema.properties.getD [], Sound component options property.2)
    (belongs : Generator.Belongs component
      (.object ((schema.properties.getD []).map fun property =>
        (property.1, property.2.generator options (some property.1)))) (.obj members)) :
    schema.ObjectDemands Admits members := by
  cases belongs with
  | object names belong =>
    have declared : members.keys = (Entries.keys (schema.properties.getD [])).eraseDups := by
      rw [names, List.map_map]
      rfl
    have distinct : (Entries.keys ((schema.properties.getD []).map fun property =>
        (property.1, property.2.generator options (some property.1)))).Nodup := by
      simpa [Entries.keys, List.map_map, Function.comp_def] using node.distinct
    have named : ∀ key ∈ members.keys, key ∈ Entries.keys (schema.properties.getD []) :=
      fun key member => List.mem_eraseDups.mp (declared ▸ member)
    refine ⟨fun property member => ?_, fun values found key value member further => ?_,
      fun _ => named⟩
    · have present : property.1 ∈ members.keys :=
        declared ▸ List.mem_eraseDups.mpr (Entries.mem_keys_of_mem member)
      obtain ⟨value, read⟩ := Option.isSome_iff_exists.mp
        ((Entries.get?_isSome_iff members property.1).mpr present)
      have compiled := Entries.get?_of_mem distinct (List.mem_map_of_mem member)
      rw [← Entries.get?_reverse distinct] at compiled
      exact ⟨value, read, properties property member _ value
        (belong property.1 value _ (Entries.mem_of_get? read) compiled)⟩
    · exact absurd (named key (Entries.mem_keys_of_mem member)) further

/-- A made-up object with made-up keys has what the schema asks of an object. -/
theorem objectDemands_of_record {component : String → Json → Prop} {members : Entries Json}
    {values : Schema} (undeclared : schema.properties = none)
    (further : schema.additionalProperties = some (.schema values))
    (sound : Sound component options values)
    (belongs : Generator.Belongs component (.record (values.generator options none))
      (.obj members)) : schema.ObjectDemands Admits members := by
  cases belongs with
  | record size distinct words belong =>
    refine ⟨fun property member => ?_, fun other found key value member _ => ?_,
      fun closed => ?_⟩
    · rw [undeclared] at member
      cases member
    · rw [further] at found
      cases found
      exact sound none value (belong key value member)
    · rw [further] at closed
      cases closed

/-- A made-up array has what the schema asks of an array. -/
theorem arrayDemands_of_array (node : schema.Typed options keyword)
    (listed : "array" ∈ keyword.names) {component : String → Json → Prop} {elements : List Json}
    (items : ∀ items, schema.items = some items → Sound component options items)
    (belongs : Generator.Belongs component
      (.array (schema.minLength.getD 1) (options.lengthBound schema.maxLength)
        ((schema.items.map (generator options none)).getD .null)) (.arr elements)) :
    schema.ArrayDemands Admits elements := by
  cases belongs with
  | array within belong =>
    obtain ⟨ordered, uncapped⟩ := node.length listed
    have bound : (options.lengthBound schema.maxLength).value =
        schema.maxLength.getD options.maxArrayLength := by
      cases schema.maxLength <;> rfl
    rw [Sample.LengthWithin, bound, if_pos (by omega)] at within
    refine ⟨fun least declared => ?_, fun greatest declared => ?_,
      fun schema found element member => ?_⟩
    · simp only [declared, Option.getD_some] at within ordered
      omega
    · simp only [declared, Option.getD_some] at within uncapped
      omega
    · have compiled := belong element member
      rw [found] at compiled
      exact items schema found none element compiled

/-- A drawn integer is valid for a node that lists a type of numbers. -/
theorem demands_of_integer (node : schema.Typed options keyword) {part : Schema → Json → Prop}
    {name : String} (member : name ∈ keyword.names) (numeric : name = "number" ∨ name = "integer")
    {n : Int} (within : Sample.IntegerWithin schema.minimum schema.maximum n) :
    schema.Demands part (.num (.integer n)) := by
  have listed : "number" ∈ keyword.names ∨ "integer" ∈ keyword.names := by
    rcases numeric with rfl | rfl
    · exact .inl member
    · exact .inr member
  obtain ⟨known, safe, leaves⟩ := node.range listed
  have typed : Json.HasType (.num (.integer n)) name := by
    rcases numeric with rfl | rfl
    · exact .number _
    · exact .integer n
  refine node.demands member typed (fun number q equal reads => ?_) nofun nofun
  cases equal
  cases reads
  exact numberDemands_of_within safe leaves within

/-- A value of a node that lists types is valid if it belongs to the generator for one of them and
the values of the parts are valid. -/
theorem admits_of_withType (node : schema.Typed options keyword)
    (disabled : options.registryEnabled = false) {component : String → Json → Prop}
    (properties : ∀ property ∈ schema.properties.getD [], Sound component options property.2)
    (additional : ∀ values, schema.additionalProperties = some (.schema values) →
      Sound component options values)
    (items : ∀ items, schema.items = some items → Sound component options items)
    {key : Option String} {value : Json} {name : String} (member : name ∈ keyword.names)
    (belongs : Generator.Belongs component ((schema.withType name).generator options key) value) :
    schema.Admits value := by
  have known := node.known name member
  rw [generator_eq, node.rule_withType disabled] at belongs
  rw [admits_iff]
  simp only [typeNames, List.mem_cons, List.not_mem_nil, or_false] at known
  rcases known with rfl | rfl | rfl | rfl | rfl | rfl | rfl
  · cases belongs with
    | text kind text => exact node.demands member (.string text) nofun nofun nofun
  · cases belongs with
    | integer within => exact node.demands_of_integer member (.inl rfl) within
  · cases belongs with
    | integer within => exact node.demands_of_integer member (.inr rfl) within
  · cases belongs with
    | boolean truth => exact node.demands member (.boolean truth) nofun nofun nofun
  · cases belongs with
    | null => exact node.demands member .null nofun nofun nofun
  · have objectRule : (schema.withType "object").typeRule "object" = schema.objectRule := rfl
    rcases schema.objectRule_cases with ⟨values, undeclared, further, rule⟩ | rule
    · rw [objectRule, rule] at belongs
      cases belongs with
      | record size distinct words belong =>
        refine node.demands member (.object _) nofun nofun (fun members equal => ?_)
        cases equal
        exact objectDemands_of_record undeclared further (additional values further)
          (.record size distinct words belong)
    · rw [objectRule, rule] at belongs
      cases belongs with
      | object names belong =>
        refine node.demands member (.object _) nofun nofun (fun members equal => ?_)
        cases equal
        exact node.objectDemands_of_object properties (.object names belong)
  · cases belongs with
    | array within belong =>
      refine node.demands member (.array _) nofun (fun elements equal => ?_) nofun
      cases equal
      exact node.arrayDemands_of_array member items (.array within belong)

end Typed

/-- A schema without types and the keywords that go with them asks only for its lists. -/
theorem demands_of_lists {part : Schema → Json → Prop} {format refName : Option String}
    {values : Option (List Json)} {one any : Option (List Schema)} {value : Json}
    (inEnum : ∀ listed, values = some listed → value ∈ listed)
    (inOneOf : ∀ listed, one = some listed → ∃ alternative ∈ listed, part alternative value)
    (inAnyOf : ∀ listed, any = some listed → ∃ alternative ∈ listed, part alternative value) :
    Demands part
      { enum := values, oneOf := one, anyOf := any, format := format, refName := refName }
      value where
  type := nofun
  enum := inEnum
  allOf := nofun
  oneOf := inOneOf
  anyOf := inAnyOf
  number _ _ _ _ := ⟨nofun, nofun⟩
  array _ _ := ⟨nofun, nofun, nofun⟩
  object _ _ := ⟨nofun, nofun, nofun⟩

/-- A value of alternatives is valid for one of them, if values of each are. -/
theorem exists_admits_of_oneOf {component : String → Json → Prop} {options : Options}
    {alternatives : List Schema} (some : alternatives ≠ [])
    (sound : ∀ alternative ∈ alternatives, Sound component options alternative)
    {key : Option String} {value : Json}
    (belongs : Generator.Belongs component
      (if alternatives.isEmpty then .null
        else .oneOf (alternatives.map (generator options key))) value) :
    ∃ alternative ∈ alternatives, alternative.Admits value := by
  rw [if_neg (by simpa using some)] at belongs
  generalize compiled : alternatives.map (generator options key) = generators at belongs
  cases belongs with
  | oneOf member belongs =>
    obtain ⟨alternative, listed, rfl⟩ := List.mem_map.mp (compiled ▸ member)
    exact ⟨alternative, listed, sound alternative listed key value belongs⟩
  | oneOfNone => exact absurd (List.map_eq_nil_iff.mp compiled) some

/-- Every value of the generator of a samplable schema is valid for it. -/
theorem sound_of_samplable {options : Options} (disabled : options.registryEnabled = false)
    (component : String → Json → Prop) {schema : Schema} (samplable : schema.Samplable options) :
    Sound component options schema := by
  -- The induction is on how the schema is built. A list of types leads to schemas that are no
  -- parts of it; `Typed.admits_of_withType` deals with them from what holds of the parts.
  induction samplable with
  | enum format refName some =>
    intro key value belongs
    rw [generator_eq] at belongs
    simp only [rule, registryName, disabled, keywordRule, Bool.false_eq_true, if_false] at belongs
    rw [if_neg (by simpa using some)] at belongs
    cases belongs with
    | enum member =>
      refine admits_iff.mpr (demands_of_lists ?_ (by simp) (by simp))
      rintro listed ⟨⟩
      exact member
    | enumNone => exact absurd rfl some
  | oneOf format refName some each ih =>
    intro key value belongs
    rw [generator_eq] at belongs
    simp only [rule, registryName, disabled, keywordRule, Bool.false_eq_true, if_false,
      Option.some_or] at belongs
    refine admits_iff.mpr (demands_of_lists (by simp) ?_ (by simp))
    rintro listed ⟨⟩
    exact exists_admits_of_oneOf some ih belongs
  | anyOf format refName some each ih =>
    intro key value belongs
    rw [generator_eq] at belongs
    simp only [rule, registryName, disabled, keywordRule, Bool.false_eq_true, if_false,
      Option.none_or] at belongs
    refine admits_iff.mpr (demands_of_lists (by simp) (by simp) ?_)
    rintro listed ⟨⟩
    exact exists_admits_of_oneOf some ih belongs
  | typed node properties additional items ihProperties ihAdditional ihItems =>
    intro key value belongs
    obtain ⟨name, member, belongs⟩ := node.exists_belongs_withType belongs
    exact node.admits_of_withType disabled ihProperties ihAdditional ihItems member belongs

end Schema

/-- Whatever words the source gives, the value sampled from a samplable schema is valid for the
schema. Neither the name of the property that holds the value, nor the registry of the sampler, nor
the time of day makes a difference. -/
theorem sample_admits {σ : Type} [WordSource σ] {options : Options} {schema : Schema}
    (disabled : options.registryEnabled = false) (samplable : schema.Samplable options)
    (key : Option String) (registry : Registry) (now : Instant) (state : σ) :
    schema.Admits (((schema.generator options key).sample registry now).run state).1 := by
  have sound := Schema.sound_of_samplable disabled (fun _ _ => True) samplable
  have belongs : Random.Always ((schema.generator options key).sample registry now : StateM σ Json)
      (Generator.Belongs (fun _ _ => True) (schema.generator options key)) :=
    Generator.sampleWith_belongs
      (fun name => Random.Always.trivial (registry.sample now name)) now _
  exact sound key _ (belongs state)

/-- Null, or an object with a number that is pinned to two, three truth values or words, and a
record of names. -/
def petSchema : Schema where
  type := some (.multiple ["null", "object"])
  properties := some [
    ("id", {
      type := some (.single "integer")
      minimum := some ⟨0x4000000000000000⟩
      maximum := some ⟨0x4000000000000000⟩ }),
    ("tags", {
      type := some (.single "array")
      minLength := some 3
      maxLength := some 3
      items := some { oneOf := some [.ofType "boolean", { enum := some [.str "none"] }] } }),
    ("names", {
      type := some (.single "object")
      additionalProperties := some (.schema (.ofType "string")) })]

/-- The schema of a pet is samplable. -/
theorem petSchema_samplable : petSchema.Samplable {} := by
  have plain : ∀ name ∈ Schema.typeNames, (Schema.ofType name).Samplable {} := fun name known =>
    .typed
      (Schema.typed_of_unbounded (List.cons_ne_nil _ _)
        (fun other member => List.mem_singleton.mp member ▸ known) (by decide) (by decide)
        List.nodup_nil)
      nofun nofun nofun
  have two : (⟨0x4000000000000000⟩ : Binary64).meaning = .finite false (2 ^ 52) (-51) := by decide
  refine .typed (Schema.typed_of_unbounded (by decide) (by decide) (by decide) (by decide)
    (by decide)) (List.forall_mem_cons.mpr ⟨?_, List.forall_mem_cons.mpr ⟨?_,
      List.forall_mem_singleton.mpr ?_⟩⟩) nofun nofun
  · refine .typed (show Schema.Typed {} _ (.single "integer") from ⟨rfl, by decide, by decide, rfl,
      rfl, rfl, rfl, rfl, rfl, fun _ => ⟨2, by decide, ⟨?_, ?_⟩, nofun, nofun⟩, by decide,
      List.nodup_nil⟩) nofun nofun nofun
    · rintro bound ⟨⟩
      norm_num [Binary64.AtMost, two, Binary64.signed]
    · rintro bound ⟨⟩
      norm_num [Binary64.AtLeast, two, Binary64.signed]
  · refine .typed (show Schema.Typed {} _ (.single "array") from ⟨rfl, by decide, by decide, rfl,
      rfl, rfl, rfl, rfl, rfl, fun numeric => absurd numeric (by decide), fun _ => by decide,
      List.nodup_nil⟩) nofun nofun ?_
    rintro items ⟨⟩
    exact .oneOf none none (List.cons_ne_nil _ _) (List.forall_mem_cons.mpr
      ⟨plain "boolean" (by decide),
        List.forall_mem_singleton.mpr (.enum none none (List.cons_ne_nil _ _))⟩)
  · refine .typed (Schema.typed_of_unbounded (List.cons_ne_nil _ _) (by decide) (by decide)
      (by decide) List.nodup_nil) nofun ?_ nofun
    rintro values ⟨⟩
    exact plain "string" (by decide)

/-- What a seed draws from the schema of a pet is valid for it. -/
theorem sample_admits_petSchema :
    petSchema.Samplable {} ∧ petSchema.Admits
      (((petSchema.generator {} none).sample [] 0).run (ChaCha.ofSeed 7)).1 :=
  ⟨petSchema_samplable,
    sample_admits (by decide) petSchema_samplable none [] 0 (ChaCha.ofSeed 7)⟩

end ApiMock
