import ApiMock.Generator.Compile
import ApiMock.Proofs.Entries
/-!
# Nested compositions

What is left of the properties that the members of a composition declare. Merging the members of a
composition merges their own compositions place by place, so what is said somewhere at a level of
the members is said one level higher in the merge, and nothing is lost by it. But a merge that is a
composition itself is compiled as one, without regard to what else it says. So all that counts in
the end is the deepest level: `generator_of_extension` says that the generator has exactly the
properties declared there, and `keeps_properties_iff` says when these are all.
-/
namespace ApiMock.Schema

/-- The members of the composition of a schema. -/
def members (schema : Schema) : List Schema := schema.allOf.getD []

/-- The schemas at a level of nested compositions: the schema itself, and below it the members of
the schemas one level above. -/
def level : Nat → Schema → List Schema
  | 0, schema => [schema]
  | below + 1, schema => schema.members.flatMap (level below)

mutual

/-- The deepest level of nested compositions. -/
def nesting : Schema → Nat
  | ⟨_, _, _, _, _, _, _, _, _, _, _, allOf, _, _, _, _⟩ => nestingBelow? allOf

/-- How many levels an optional composition adds. -/
def nestingBelow? : Option (List Schema) → Nat
  | none => 0
  | some members => 1 + nestingBelow members

/-- The deepest level below the members of a composition. -/
def nestingBelow : List Schema → Nat
  | [] => 0
  | member :: rest => max (nesting member) (nestingBelow rest)

end

/-- The schema itself declares a property. -/
def Declares (name : String) (schema : Schema) : Prop :=
  name ∈ Entries.keys (schema.properties.getD [])

/-- The schema uses no keyword but the type of objects, properties and compositions of schemas of
the same kind. -/
inductive Extension : Schema → Prop
  /-- Any properties, no other type, and any members of the same kind. -/
  | intro {type : Option TypeKeyword} {properties : Option (List (String × Schema))}
      {allOf : Option (List Schema)} (typed : type = none ∨ type = some (.single "object"))
      (members : ∀ members, allOf = some members → ∀ member ∈ members, Extension member) :
      Extension { type := type, properties := properties, allOf := allOf }

/-- A schema without nested levels is no composition. -/
theorem nesting_eq_zero (schema : Schema) : schema.nesting = 0 ↔ schema.allOf = none := by
  obtain ⟨_, _, _, _, _, _, _, _, _, _, _, allOf, _, _, _, _⟩ := schema
  cases allOf <;> simp [nesting, nestingBelow?]

/-- A schema with nested levels is a composition, with one level less below its members. -/
theorem nesting_eq_succ {schema : Schema} {below : Nat} (levels : schema.nesting = below + 1) :
    ∃ members, schema.allOf = some members ∧ nestingBelow members = below := by
  obtain ⟨_, _, _, _, _, _, _, _, _, _, _, allOf, _, _, _, _⟩ := schema
  cases allOf with
  | none => simp [nesting, nestingBelow?] at levels
  | some members =>
    refine ⟨members, rfl, ?_⟩
    simp only [nesting, nestingBelow?] at levels
    omega

/-! ### Merging keeps what is said at a level -/

/-- Something holds of a merge exactly when it holds of one of its sides. -/
def Additive (claim : Schema → Prop) : Prop :=
  ∀ base top, claim (merged base top) ↔ claim base ∨ claim top

/-- The members of a merge are the merged members. -/
theorem members_merged (base top : Schema) :
    (merged base top).members = mergeSchemas base.members top.members := by
  obtain ⟨_, _, _, _, _, _, _, _, _, _, _, allOf, _, _, _, _⟩ := top
  simp only [members, merged]
  cases allOf with
  | none => cases base.allOf <;> simp [mergeSchemas?, mergeSchemas]
  | some new =>
    cases base.allOf with
    | none => cases new <;> simp [mergeSchemas?, mergeSchemas]
    | some old => simp [mergeSchemas?]

/-- A member of merged lists is a member of one of them or a merge of one of each. -/
theorem mem_mergeSchemas {base top : List Schema} {schema : Schema}
    (member : schema ∈ mergeSchemas base top) :
    schema ∈ base ∨ schema ∈ top ∨ ∃ old ∈ base, ∃ new ∈ top, schema = merged old new := by
  induction base generalizing top with
  | nil =>
    cases top with
    | nil => simp [mergeSchemas] at member
    | cons new top => exact .inr (.inl (by simpa [mergeSchemas] using member))
  | cons old base ih =>
    cases top with
    | nil => exact .inl (by simpa [mergeSchemas] using member)
    | cons new top =>
      simp only [mergeSchemas, List.mem_cons] at member
      rcases member with rfl | later
      · exact .inr (.inr ⟨old, List.mem_cons_self, new, List.mem_cons_self, rfl⟩)
      · rcases ih later with inBase | inTop | ⟨left, inBase, right, inTop, equal⟩
        · exact .inl (List.mem_cons_of_mem _ inBase)
        · exact .inr (.inl (List.mem_cons_of_mem _ inTop))
        · exact .inr (.inr ⟨left, List.mem_cons_of_mem _ inBase, right,
            List.mem_cons_of_mem _ inTop, equal⟩)

/-- What is said at the level below a schema is said at a level of one of its members. -/
theorem exists_level_succ {claim : Schema → Prop} {depth : Nat} {schema : Schema} :
    (∃ node ∈ level (depth + 1) schema, claim node) ↔
      ∃ member ∈ schema.members, ∃ node ∈ level depth member, claim node := by
  simp only [level, List.mem_flatMap]
  constructor
  · rintro ⟨node, ⟨member, inside, below⟩, holds⟩
    exact ⟨member, inside, node, below, holds⟩
  · rintro ⟨member, inside, node, below, holds⟩
    exact ⟨node, ⟨member, inside, below⟩, holds⟩

namespace Additive

variable {claim : Schema → Prop}

/-- What holds of a member of merged lists holds of a member of one of them. -/
theorem exists_mem_mergeSchemas (additive : Additive claim) (base top : List Schema) :
    (∃ schema ∈ mergeSchemas base top, claim schema) ↔
      (∃ schema ∈ base, claim schema) ∨ ∃ schema ∈ top, claim schema := by
  induction base generalizing top with
  | nil => cases top <;> simp [mergeSchemas]
  | cons old base ih =>
    cases top with
    | nil => simp [mergeSchemas]
    | cons new top =>
      simp only [mergeSchemas, List.exists_mem_cons_iff, ih, additive old new]
      exact or_or_or_comm

/-- What holds at a level of a merge holds at that level of one of its sides. -/
theorem level (additive : Additive claim) (depth : Nat) :
    Additive fun schema => ∃ node ∈ Schema.level depth schema, claim node := by
  induction depth with
  | zero =>
    intro base top
    simpa [Schema.level] using additive base top
  | succ depth ih =>
    intro base top
    simp only [exists_level_succ, members_merged]
    exact ih.exists_mem_mergeSchemas base.members top.members

/-- What does not hold of the empty schema holds of the merge of a list exactly when it holds of
one of the list. -/
theorem mergeAll (additive : Additive claim) (empty : ¬ claim {}) (schemas : List Schema) :
    claim (mergeAll schemas) ↔ ∃ schema ∈ schemas, claim schema := by
  have onto : ∀ base, claim (schemas.foldl merged base) ↔
      claim base ∨ ∃ schema ∈ schemas, claim schema := by
    induction schemas with
    | nil => simp
    | cons first rest ih =>
      intro base
      rw [List.foldl_cons, ih, additive, List.exists_mem_cons_iff, or_assoc]
  rw [Schema.mergeAll, onto]
  simp [empty]

/-- What holds at a level of the merge of a list holds at that level of one of the list. -/
theorem level_mergeAll (additive : Additive claim) (empty : ¬ claim {}) (depth : Nat)
    (schemas : List Schema) :
    (∃ node ∈ Schema.level depth (Schema.mergeAll schemas), claim node) ↔
      ∃ schema ∈ schemas, ∃ node ∈ Schema.level depth schema, claim node := by
  refine (additive.level depth).mergeAll ?_ schemas
  cases depth with
  | zero => simpa [Schema.level] using empty
  | succ depth => simp [Schema.level, members]

end Additive

/-- A merge has the types of its sides. -/
theorem additive_type : Additive fun schema => schema.type.isSome := by
  intro base top
  obtain ⟨type, _, _, _, _, _, _, _, _, _, _, _, _, _, _, _⟩ := top
  simp only [merged]
  cases type with
  | none => cases base.type <;> simp [mergeType]
  | some new =>
    cases new <;> cases base.type with
    | none => simp [mergeType]
    | some old => cases old <;> simp [mergeType]

/-- Merged properties have the names of both sides. -/
theorem mem_keys_mergeProperties {base top : List (String × Schema)} {name : String} :
    name ∈ Entries.keys (mergeProperties base top) ↔
      name ∈ Entries.keys base ∨ name ∈ Entries.keys top := by
  induction top generalizing base with
  | nil => simp [mergeProperties, Entries.keys]
  | cons entry rest ih =>
    obtain ⟨other, schema⟩ := entry
    rw [mergeProperties, ih, Entries.mem_keys_insert]
    simp only [Entries.keys, List.map_cons, List.mem_cons]
    tauto

/-- A merge declares the properties of its sides. -/
theorem additive_declares (name : String) : Additive (Declares name) := by
  intro base top
  obtain ⟨_, _, _, _, _, _, _, _, properties, _, _, _, _, _, _, _⟩ := top
  simp only [Declares, merged]
  cases properties with
  | none => cases base.properties <;> simp [mergeProperties?, Entries.keys]
  | some new =>
    cases base.properties with
    | none => simp [mergeProperties?, Entries.keys]
    | some old => simp [mergeProperties?, mem_keys_mergeProperties]

mutual

/-- A merge nests as deeply as the deeper of its sides. -/
theorem nesting_merged (base : Schema) :
    (top : Schema) → (merged base top).nesting = max base.nesting top.nesting
  | ⟨_, _, _, _, _, _, _, _, _, _, _, allOf, _, _, _, _⟩ => by
    obtain ⟨_, _, _, _, _, _, _, _, _, _, _, allOf', _, _, _, _⟩ := base
    simp only [merged, nesting]
    exact nestingBelow?_merge allOf' allOf
termination_by structural top => top

/-- The merge of optional compositions nests as deeply as the deeper of its sides. -/
theorem nestingBelow?_merge : (base top : Option (List Schema)) →
    nestingBelow? (mergeSchemas? base top) = max (nestingBelow? base) (nestingBelow? top)
  | base, none => by simp [mergeSchemas?, nestingBelow?]
  | none, some new => by simp [mergeSchemas?, nestingBelow?]
  | some old, some new => by
    have inner := nestingBelow_merge old new
    simp only [mergeSchemas?, nestingBelow?]
    omega
termination_by structural _ top => top

/-- Merged lists nest as deeply as the deeper of their sides. -/
theorem nestingBelow_merge : (base top : List Schema) →
    nestingBelow (mergeSchemas base top) = max (nestingBelow base) (nestingBelow top)
  | base, [] => by simp [mergeSchemas, nestingBelow]
  | [], new :: top => by simp [mergeSchemas, nestingBelow]
  | old :: base, new :: top => by
    have head := nesting_merged old new
    have tail := nestingBelow_merge base top
    simp only [mergeSchemas, nestingBelow]
    omega
termination_by structural _ top => top

end

/-- The merge of a list nests as deeply as its deepest schema. -/
theorem nesting_mergeAll (schemas : List Schema) :
    (mergeAll schemas).nesting = nestingBelow schemas := by
  have onto : ∀ base, (schemas.foldl merged base).nesting =
      max base.nesting (nestingBelow schemas) := by
    induction schemas with
    | nil => simp [nestingBelow]
    | cons first rest ih =>
      intro base
      rw [List.foldl_cons, ih, nesting_merged, nestingBelow, Nat.max_assoc]
  rw [mergeAll, onto]
  exact Nat.zero_max _

/-- What holds of the empty schema, and of a merge if it holds of its sides, holds of the merge of
any number of schemas of which it holds. -/
theorem mergeAll_induction {property : Schema → Prop} (empty : property {})
    (merges : ∀ {base top}, property base → property top → property (merged base top))
    {schemas : List Schema} (each : ∀ schema ∈ schemas, property schema) :
    property (mergeAll schemas) := by
  have onto : ∀ base, property base → property (schemas.foldl merged base) := by
    induction schemas with
    | nil => exact fun base holds => holds
    | cons first rest ih =>
      intro base holds
      exact ih (fun schema member => each schema (List.mem_cons_of_mem _ member)) _
        (merges holds (each first List.mem_cons_self))
  exact onto {} empty

/-! ### Compiling extensions -/

namespace Extension

/-- The merge of extensions is one. -/
theorem merged {base top : Schema} (left : Extension base) (right : Extension top) :
    Extension (Schema.merged base top) := by
  induction right generalizing base with
  | @intro type properties allOf typed members ih =>
    obtain ⟨typed', members'⟩ := left
    refine .intro ?_ ?_
    · rcases typed with rfl | rfl <;> rcases typed' with rfl | rfl <;> simp [mergeType]
    · intro merges equal member inside
      cases allOf with
      | none => exact members' merges (by simpa [mergeSchemas?] using equal) member inside
      | some new =>
        rename_i allOf'
        cases allOf' with
        | none => exact members merges (by simpa [mergeSchemas?] using equal) member inside
        | some old =>
          simp only [mergeSchemas?, Option.some.injEq] at equal
          rcases mem_mergeSchemas (equal ▸ inside) with
            inOld | inNew | ⟨first, inOld, second, inNew, rfl⟩
          · exact members' old rfl member inOld
          · exact members new rfl member inNew
          · exact ih new rfl second inNew (members' old rfl first inOld)

/-- The merge of any number of extensions is one. -/
theorem mergeAll {schemas : List Schema} (each : ∀ schema ∈ schemas, Extension schema) :
    Extension (Schema.mergeAll schemas) :=
  mergeAll_induction (.intro (.inl rfl) nofun) merged each

/-- An extension has no other type than that of objects. -/
theorem type_eq {schema : Schema} (extension : Extension schema) (typed : schema.type.isSome) :
    schema.type = some (.single "object") := by
  cases extension with
  | intro either members =>
    rcases either with rfl | rfl
    · cases typed
    · rfl

/-- The members of an extension are extensions. -/
theorem of_mem {schema member : Schema} (extension : Extension schema)
    (inside : member ∈ schema.members) : Extension member := by
  cases extension with
  | @intro type properties allOf typed members =>
    cases allOf with
    | none => cases inside
    | some listed => exact members listed rfl member inside

/-- The schemas at every level of an extension are extensions. -/
theorem of_mem_level {depth : Nat} {schema node : Schema} (extension : Extension schema)
    (inside : node ∈ level depth schema) : Extension node := by
  induction depth generalizing schema with
  | zero => exact List.mem_singleton.mp inside ▸ extension
  | succ depth ih =>
    obtain ⟨member, listed, below⟩ := List.mem_flatMap.mp inside
    exact ih (extension.of_mem listed) below

/-- An extension that is neither a component nor a composition becomes an object with its
properties, or nothing where the type of objects is not said. -/
theorem generator_of_unnamed {options : Options} {schema : Schema} (extension : Extension schema)
    (unnamed : schema.registryName options = none) (flat : schema.allOf = none)
    (key : Option String) :
    schema.generator options key =
      if schema.type.isSome then
        .object ((schema.properties.getD []).map fun property =>
          (property.1, property.2.generator options (some property.1)))
      else .null := by
  cases extension with
  | @intro type properties allOf typed members =>
    obtain rfl : allOf = none := flat
    rw [generator_eq]
    rcases typed with rfl | rfl
    · simp [rule, unnamed, keywordRule]
    · cases properties <;> simp [rule, unnamed, keywordRule, typeRule, objectRule]

/-- Without a registry, an extension without a composition becomes an object with its properties, or
nothing where the type of objects is not said. -/
theorem generator_of_flat {options : Options} (disabled : options.registryEnabled = false)
    {schema : Schema} (extension : Extension schema) (flat : schema.allOf = none)
    (key : Option String) :
    schema.generator options key =
      if schema.type.isSome then
        .object ((schema.properties.getD []).map fun property =>
          (property.1, property.2.generator options (some property.1)))
      else .null :=
  extension.generator_of_unnamed (by simp [registryName, disabled]) flat key

/-- An extension with a composition is compiled as the merge of its members. -/
theorem generator_of_composed {options : Options} (disabled : options.registryEnabled = false)
    {schema : Schema} (extension : Extension schema) {members : List Schema}
    (composed : schema.allOf = some members) (key : Option String) :
    schema.generator options key = (Schema.mergeAll members).generator options key := by
  cases extension with
  | @intro type properties allOf typed _ =>
    obtain rfl : allOf = some members := composed
    rw [generator_eq]
    rcases typed with rfl | rfl <;> simp [rule, registryName, disabled, keywordRule]

end Extension

/-- An extension is compiled as a schema without a composition that says what is said at the deepest
level of nested compositions, and nothing else. -/
theorem exists_deepest {options : Options} (disabled : options.registryEnabled = false)
    {schema : Schema} (extension : Extension schema) (key : Option String) :
    ∃ flat, Extension flat ∧ flat.allOf = none ∧
      schema.generator options key = flat.generator options key ∧
      ∀ claim, Additive claim → ¬ claim {} →
        ((∃ node ∈ level schema.nesting schema, claim node) ↔ claim flat) := by
  -- One level is merged at a time, so the induction is on the number of levels.
  induction levels : schema.nesting generalizing schema with
  | zero =>
    refine ⟨schema, extension, (nesting_eq_zero schema).mp levels, rfl, fun claim _ _ => ?_⟩
    simp [level]
  | succ below ih =>
    obtain ⟨members, composed, depth⟩ := nesting_eq_succ levels
    have listed : schema.members = members := by simp [Schema.members, composed]
    have parts : ∀ member ∈ members, Extension member :=
      fun member inside => extension.of_mem (listed ▸ inside)
    obtain ⟨flat, flatExtension, isFlat, generator, said⟩ :=
      ih (Extension.mergeAll parts) ((nesting_mergeAll members).trans depth)
    refine ⟨flat, flatExtension, isFlat, ?_, fun claim additive empty => ?_⟩
    · rw [extension.generator_of_composed disabled composed, generator]
    · rw [exists_level_succ, listed, ← additive.level_mergeAll empty, said claim additive empty]

/-- The generator of an extension is an object with exactly the properties that are declared at the
deepest level of nested compositions, if a type is said at that level. -/
theorem generator_of_extension {options : Options} (disabled : options.registryEnabled = false)
    {schema : Schema} (extension : Extension schema) (key : Option String)
    (typed : ∃ node ∈ level schema.nesting schema, node.type.isSome) :
    ∃ properties, schema.generator options key = .object properties ∧
      ∀ name, name ∈ Entries.keys properties ↔
        ∃ node ∈ level schema.nesting schema, Declares name node := by
  obtain ⟨flat, flatExtension, isFlat, generator, said⟩ := exists_deepest disabled extension key
  have flatTyped : flat.type.isSome := (said _ additive_type (by simp)).mp typed
  rw [flatExtension.generator_of_flat disabled isFlat, if_pos flatTyped] at generator
  refine ⟨_, generator, fun name => ?_⟩
  rw [said _ (additive_declares name) (by simp [Declares, Entries.keys])]
  simp [Declares, Entries.keys]

/-- An extension becomes nothing if no type is said at the deepest level of nested compositions. -/
theorem generator_of_untyped {options : Options} (disabled : options.registryEnabled = false)
    {schema : Schema} (extension : Extension schema) (key : Option String)
    (untyped : ¬ ∃ node ∈ level schema.nesting schema, node.type.isSome) :
    schema.generator options key = .null := by
  obtain ⟨flat, flatExtension, isFlat, generator, said⟩ := exists_deepest disabled extension key
  rw [generator, flatExtension.generator_of_flat disabled isFlat,
    if_neg fun flatTyped => untyped ((said _ additive_type (by simp)).mpr flatTyped)]

/-- A composition keeps every property that is declared in it, at any level, exactly when the
deepest level declares all of them and says the type of objects. -/
theorem keeps_properties_iff {options : Options} (disabled : options.registryEnabled = false)
    {members : List Schema} (extensions : ∀ member ∈ members, Extension member)
    (key : Option String) :
    let composition : Schema := { allOf := some members }
    (∃ properties, composition.generator options key = .object properties ∧
      ∀ depth, ∀ node ∈ level depth composition, ∀ name,
        Declares name node → name ∈ Entries.keys properties) ↔
    (∃ node ∈ level composition.nesting composition, node.type = some (.single "object")) ∧
      ∀ depth, ∀ node ∈ level depth composition, ∀ name,
        Declares name node →
          ∃ deepest ∈ level composition.nesting composition, Declares name deepest := by
  intro composition
  have extension : Extension composition :=
    .intro (.inl rfl) fun _ equal => (Option.some.inj equal) ▸ extensions
  have typed : (∃ node ∈ level composition.nesting composition, node.type.isSome) ↔
      ∃ node ∈ level composition.nesting composition, node.type = some (.single "object") := by
    refine exists_congr fun node => and_congr_right fun inside => ?_
    exact ⟨(extension.of_mem_level inside).type_eq, fun equal => by simp [equal]⟩
  rw [← typed]
  constructor
  · rintro ⟨properties, generator, kept⟩
    by_cases said : ∃ node ∈ level composition.nesting composition, node.type.isSome
    · obtain ⟨properties', generator', keys⟩ := generator_of_extension disabled extension key said
      obtain rfl : properties = properties' :=
        Generator.object.inj (generator.symm.trans generator')
      exact ⟨said, fun depth node inside name declared =>
        (keys name).mp (kept depth node inside name declared)⟩
    · rw [generator_of_untyped disabled extension key said] at generator
      cases generator
  · rintro ⟨said, deepest⟩
    obtain ⟨properties, generator, keys⟩ := generator_of_extension disabled extension key said
    exact ⟨properties, generator, fun depth node inside name declared =>
      (keys name).mpr (deepest depth node inside name declared)⟩

/-- The registry is disabled by default. -/
theorem unregistered : Options.registryEnabled {} = false := rfl

/-- A schema of objects with a name. -/
def named : Schema :=
  { type := some (.single "object"), properties := some [("name", .ofType "boolean")] }

/-- A schema of objects with a name is an extension. -/
theorem extension_named : Extension named := .intro (.inr rfl) nofun

/-- A composition of two schemas that are none themselves keeps the property of each. -/
theorem keeps_properties_pair :
    let aged : Schema := { properties := some [("age", {})] }
    let composition : Schema := { allOf := some [named, aged] }
    ∃ properties, composition.generator {} none = .object properties ∧
      ∀ depth, ∀ node ∈ level depth composition, ∀ name,
        Declares name node → name ∈ Entries.keys properties := by
  intro aged composition
  refine (keeps_properties_iff unregistered ?_ none).mpr ⟨?_, ?_⟩
  · intro member listed
    rcases List.mem_pair.mp listed with rfl | rfl
    · exact extension_named
    · exact .intro (.inl rfl) nofun
  · exact ⟨named, List.mem_cons_self, rfl⟩
  · intro depth node inside name declared
    match depth, inside with
    | 0, inside =>
      obtain rfl := List.mem_singleton.mp inside
      cases declared
    | 1, inside => exact ⟨node, inside, declared⟩
    | depth + 2, inside => cases inside

/-- A schema that extends a composition loses its own properties: the merge of the two is a
composition, and compiled as nothing else. -/
theorem loses_property :
    let base : Schema := { allOf := some [{ type := some (.single "object") }] }
    let composition : Schema := { allOf := some [base, named] }
    Extension base ∧ Extension named ∧ Declares "name" named ∧
      composition.generator {} none = .object [] := by
  intro base composition
  have flat : Extension { type := some (.single "object") } := .intro (.inr rfl) nofun
  have extension : Extension base := by
    refine .intro (.inl rfl) fun members equal member listed => ?_
    obtain rfl := List.mem_singleton.mp (Option.some.inj equal ▸ listed)
    exact flat
  have both : ∀ member ∈ [base, named], Extension member := by
    simpa using ⟨extension, extension_named⟩
  have whole : Extension composition :=
    .intro (.inl rfl) fun _ equal => (Option.some.inj equal) ▸ both
  refine ⟨extension, extension_named, by simp [Declares, named, Entries.keys], ?_⟩
  have once : composition.generator {} none = (mergeAll [base, named]).generator {} none :=
    whole.generator_of_composed unregistered rfl none
  have twice : (mergeAll [base, named]).generator {} none =
      (mergeAll [{ type := some (.single "object") }]).generator {} none :=
    (Extension.mergeAll both).generator_of_composed unregistered rfl none
  rw [once, twice]
  exact flat.generator_of_flat unregistered rfl none

end ApiMock.Schema
