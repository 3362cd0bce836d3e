import ApiMock.Generator.Basic
import ApiMock.Options.Basic
import ApiMock.Schema.Depth

/-!
# From schemas to generators

The rules are tried in order and the first that applies decides: a documented value, a choice of
types, a registry component, a list of values, a composition, a choice of schemas, and last the
type. `Schema.rule` finds the rule and `Schema.generator` carries it out. The name of the
property that holds the value is passed on as long as the same value is meant, and dropped below
arrays and records.

The recursion leaves the schema it started from where a composition is merged and where one type
of a list takes the place of the list. It ends because a merge nests less deeply than the
composition it replaces, and a single type is no list.
-/
namespace ApiMock

namespace Schema

/-- The rules by which a schema becomes a generator. -/
inductive Rule where
  /-- The documented value is given. -/
  | documented (value : Json)
  /-- One of the types is chosen. -/
  | typeList (names : List String)
  /-- A registry component supplies the value. -/
  | registry (name : String)
  /-- One of the values is chosen. -/
  | enum (values : List Json)
  /-- The schemas are merged. -/
  | composition (members : List Schema)
  /-- One of the schemas is chosen. -/
  | alternatives (schemas : List Schema)
  /-- A string is made up. -/
  | string
  /-- A number is made up. -/
  | number
  /-- A truth value is made up. -/
  | boolean
  /-- An object with made-up keys is made up. -/
  | record (values : Schema)
  /-- An object with the given properties is made up. -/
  | object (properties : List (String × Schema))
  /-- An array is made up. -/
  | array (items : Option Schema)
  /-- Nothing is known about the value. -/
  | unknown

/-- The rule for an object: further properties count only where no properties are named. -/
def objectRule (schema : Schema) : Rule :=
  match schema.properties, schema.additionalProperties with
  | none, some (.schema values) => .record values
  | properties, _ => .object (properties.getD [])

/-- The rule for a type name. -/
def typeRule (schema : Schema) (name : String) : Rule :=
  if name = "string" then .string
  else if name = "number" ∨ name = "integer" then .number
  else if name = "boolean" then .boolean
  else if name = "object" then schema.objectRule
  else if name = "array" then .array schema.items
  else .unknown

/-- The rule for a schema that is neither a documented value, a choice of types nor a registry
component. -/
def keywordRule (schema : Schema) : Rule :=
  match schema.enum, schema.allOf, schema.oneOf.or schema.anyOf, schema.type with
  | some values, _, _, _ => .enum values
  | none, some members, _, _ => .composition members
  | none, none, some schemas, _ => .alternatives schemas
  | none, none, none, some (.single name) => schema.typeRule name
  | none, none, none, _ => .unknown

/-- The component that supplies the values of a schema, where a registry is used. -/
def registryName (options : Options) (schema : Schema) : Option String :=
  if options.registryEnabled then schema.referenceName else none

/-- The first rule that applies to a schema. -/
def rule (options : Options) (schema : Schema) : Rule :=
  match schema.exampleValue, schema.type, schema.registryName options with
  | some value, _, _ => .documented value
  | none, some (.multiple names), _ => .typeList names
  | none, _, some name => .registry name
  | none, _, none => schema.keywordRule

/-- The schema with one type in place of its own. -/
def withType (schema : Schema) (name : String) : Schema :=
  { schema with type := some (.single name) }

/-- How many of the rules that replace a schema by another of the same depth may still apply. -/
def pendingRules (schema : Schema) : Nat :=
  (match schema.type with | some (.multiple _) => 2 | _ => 0) +
    (match schema.allOf with | some _ => 1 | none => 0)

/-- A choice of types comes from a list of types. -/
theorem type_of_rule {options : Options} {schema : Schema} {names : List String}
    (applies : schema.rule options = .typeList names) : schema.type = some (.multiple names) := by
  simp only [rule, keywordRule, typeRule, objectRule] at applies
  repeat' split at applies
  all_goals simp_all

/-- A merge comes from a composition. -/
theorem allOf_of_rule {options : Options} {schema : Schema} {members : List Schema}
    (applies : schema.rule options = .composition members) : schema.allOf = some members := by
  simp only [rule, keywordRule, typeRule, objectRule] at applies
  repeat' split at applies
  all_goals simp_all

/-- A choice of schemas comes from one of the two keywords for it. -/
theorem oneOf_of_rule {options : Options} {schema : Schema} {schemas : List Schema}
    (applies : schema.rule options = .alternatives schemas) :
    schema.oneOf.or schema.anyOf = some schemas := by
  simp only [rule, keywordRule, typeRule, objectRule] at applies
  repeat' split at applies
  all_goals simp_all

/-- Made-up keys come from further properties. -/
theorem additional_of_rule {options : Options} {schema values : Schema}
    (applies : schema.rule options = .record values) :
    schema.additionalProperties = some (.schema values) := by
  simp only [rule, keywordRule, typeRule, objectRule] at applies
  repeat' split at applies
  all_goals simp_all

/-- Given properties come from the schema. -/
theorem properties_of_rule {options : Options} {schema : Schema}
    {properties : List (String × Schema)} (applies : schema.rule options = .object properties) :
    properties = schema.properties.getD [] := by
  simp only [rule, keywordRule, typeRule, objectRule] at applies
  repeat' split at applies
  all_goals simp_all

/-- Items come from the schema. -/
theorem items_of_rule {options : Options} {schema : Schema} {items : Option Schema}
    (applies : schema.rule options = .array items) : items = schema.items := by
  simp only [rule, keywordRule, typeRule, objectRule] at applies
  repeat' split at applies
  all_goals simp_all

/-- The type of a schema does not count for its depth. -/
theorem depth_withType (schema : Schema) (name : String) :
    (schema.withType name).depth = schema.depth := by
  cases schema
  rfl

/-- The merge of a composition is less deep than the schema, or as shallow as can be. -/
theorem depth_mergeAll_lt {schema : Schema} {members : List Schema}
    (composed : schema.allOf = some members) :
    (mergeAll members).depth < schema.depth ∨
      (mergeAll members).depth = schema.depth ∧ (mergeAll members).pendingRules = 0 := by
  cases members with
  | nil =>
    have least : (mergeAll []).depth = 1 := rfl
    have none : (mergeAll []).pendingRules = 0 := rfl
    have positive : 1 ≤ schema.depth := by
      cases schema
      simp only [depth]
      omega
    omega
  | cons first rest =>
    left
    have bound := depth_foldl_merged_le (first :: rest) {}
    have least : (({} : Schema)).depth = 1 := rfl
    have positive : 1 ≤ first.depth := by
      cases first
      simp only [depth]
      omega
    have below : 1 + depthSchemas (first :: rest) ≤ schema.depth := by
      cases schema
      simp only at composed
      subst composed
      simp only [depth, depthSchemas?]
      omega
    simp only [depthSchemas] at bound below
    simp only [mergeAll]
    omega

/-- A schema of `oneOf` or `anyOf` is less deep than the schema. -/
theorem depth_alternative_lt {schema alternative : Schema} {alternatives : List Schema}
    (choice : schema.oneOf.or schema.anyOf = some alternatives)
    (member : alternative ∈ alternatives) : alternative.depth < schema.depth := by
  have inside := depth_le_depthSchemas member
  obtain ⟨_, _, _, _, _, _, _, _, _, _, _, _, oneOf, anyOf, _, _⟩ := schema
  simp only at choice
  cases oneOf with
  | some schemas =>
    cases choice
    simp only [depth, depthSchemas?]
    omega
  | none =>
    simp only [Option.none_or] at choice
    subst choice
    simp only [depth, depthSchemas?]
    omega

/-- The schema of array items is less deep than the schema. -/
theorem depth_items_lt {schema items : Schema} (found : schema.items = some items) :
    items.depth < schema.depth := by
  cases schema
  simp only at found
  subst found
  simp only [depth, depthSchema?]
  omega

/-- The schema of further properties is less deep than the schema. -/
theorem depth_additional_lt {schema values : Schema}
    (found : schema.additionalProperties = some (.schema values)) :
    values.depth < schema.depth := by
  cases schema
  simp only at found
  subst found
  simp only [depth, depthAdditional?]
  omega

/-- The schema of a property is less deep than the schema. -/
theorem depth_property_lt {schema : Schema} {property : String × Schema}
    (member : property ∈ schema.properties.getD []) : property.2.depth < schema.depth := by
  obtain ⟨_, _, _, _, _, _, _, _, properties, _, _, _, _, _, _, _⟩ := schema
  cases properties with
  | none => simp at member
  | some entries =>
    have inside := depth_le_depthProperties member
    simp only [Option.getD_some] at inside
    simp only [depth, depthProperties?]
    omega

end Schema

/-- The upper bound of an array length that a schema leaves open or names. -/
def Options.lengthBound (options : Options) : Option Nat → LengthBound
  | some length => .declared length
  | none => .configured options.maxArrayLength

/-- The generator of a schema; `key` is the name of the property that holds the value. -/
def Schema.generator (options : Options) (key : Option String) (schema : Schema) : Generator :=
  match _ : schema.rule options with
  | .documented value => .literal value
  | .typeList names =>
    if names.isEmpty then .null
    else .oneOf (names.map fun name => generator options key (schema.withType name))
  | .registry name => .registry name
  | .enum values => if values.isEmpty then .null else .enum values
  | .composition members => generator options key (mergeAll members)
  | .alternatives schemas =>
    if schemas.isEmpty then .null
    else .oneOf (schemas.attach.map fun alternative => generator options key alternative.1)
  | .string => .text (StringKind.ofHints schema.format key)
  | .number => .integer schema.minimum schema.maximum
  | .boolean => .boolean
  | .record values => .record (generator options none values)
  | .object properties =>
    .object (properties.attach.map fun property =>
      (property.1.1, generator options (some property.1.1) property.1.2))
  | .array items =>
    .array (schema.minLength.getD 1) (options.lengthBound schema.maxLength)
      (match items with
        | some items => generator options none items
        | none => .null)
  | .unknown => .null
termination_by (schema.depth, schema.pendingRules)
decreasing_by
  · rename_i applies _
    rw [Schema.depth_withType]
    refine Prod.Lex.right _ ?_
    simp [Schema.pendingRules, Schema.withType, Schema.type_of_rule applies]
  · rename_i applies
    rcases Schema.depth_mergeAll_lt (Schema.allOf_of_rule applies) with less | ⟨same, settled⟩
    · exact Prod.Lex.left _ _ less
    · rw [same, settled]
      refine Prod.Lex.right _ ?_
      simp [Schema.pendingRules, Schema.allOf_of_rule applies]
  · rename_i applies _
    exact Prod.Lex.left _ _
      (Schema.depth_alternative_lt (Schema.oneOf_of_rule applies) alternative.2)
  · rename_i applies
    exact Prod.Lex.left _ _ (Schema.depth_additional_lt (Schema.additional_of_rule applies))
  · rename_i applies
    obtain ⟨property, member⟩ := property
    rw [Schema.properties_of_rule applies] at member
    exact Prod.Lex.left _ _ (Schema.depth_property_lt member)
  · rename_i applies
    exact Prod.Lex.left _ _ (Schema.depth_items_lt (Schema.items_of_rule applies).symm)

/-- How a schema becomes a generator, rule by rule. -/
theorem Schema.generator_eq (options : Options) (key : Option String) (schema : Schema) :
    schema.generator options key =
      match schema.rule options with
      | .documented value => .literal value
      | .typeList names =>
        if names.isEmpty then .null
        else .oneOf (names.map fun name => (schema.withType name).generator options key)
      | .registry name => .registry name
      | .enum values => if values.isEmpty then .null else .enum values
      | .composition members => (mergeAll members).generator options key
      | .alternatives schemas =>
        if schemas.isEmpty then .null else .oneOf (schemas.map (generator options key))
      | .string => .text (StringKind.ofHints schema.format key)
      | .number => .integer schema.minimum schema.maximum
      | .boolean => .boolean
      | .record values => .record (values.generator options none)
      | .object properties =>
        .object (properties.map fun property =>
          (property.1, property.2.generator options (some property.1)))
      | .array items =>
        .array (schema.minLength.getD 1) (options.lengthBound schema.maxLength)
          ((items.map (generator options none)).getD .null)
      | .unknown => .null := by
  rw [Schema.generator]
  split <;> rename_i applies <;> simp only [applies]
  case h_6 schemas => simp
  case h_11 properties =>
    exact congrArg Generator.object (List.attach_map_val (f := fun property : String × Schema =>
      (property.1, property.2.generator options (some property.1))))
  case h_12 items => cases items <;> rfl

/-- The generator of a schema, if there is one; a value without a schema is null. -/
def Generator.ofSchema (options : Options) (key : Option String) : Option Schema → Generator
  | some schema => schema.generator options key
  | none => .null

end ApiMock
