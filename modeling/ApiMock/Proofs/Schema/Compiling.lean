import ApiMock.Generator.Compile
import ApiMock.Proofs.Generator.Parts
import ApiMock.Proofs.Recursion
/-!
# Compiling comes to an end

A schema is compiled by compiling other schemas, of which two kinds are no parts of it: the merge of
a composition, and the schema with one of its types in place of the list of them. The first nests
less deeply, because merging never deepens, and the second is no list of types any more. So the rank
of a schema, which counts its depth first and then the rules that keep the depth, falls with each
call. Generators nest at most twice as deeply as schemas, for a list of arrays makes a choice and an
array of each level, and one level more where nothing is said of the items of the last.
-/
namespace ApiMock.Schema

/-! ### Calls -/

/-- The calls of the compiler: a schema, with the name of the property that holds its value, is
compiled for the sake of another. -/
inductive Calls (options : Options) : Option String × Schema → Option String × Schema → Prop
  /-- One type of a list is compiled in place of the list. -/
  | type {key : Option String} {schema : Schema} {names : List String} {name : String}
      (applies : schema.rule options = .typeList names) (listed : name ∈ names) :
      Calls options (key, schema.withType name) (key, schema)
  /-- The merge of a composition is compiled. -/
  | merge {key : Option String} {schema : Schema} {members : List Schema}
      (applies : schema.rule options = .composition members) :
      Calls options (key, mergeAll members) (key, schema)
  /-- Alternatives are compiled. -/
  | alternative {key : Option String} {schema alternative : Schema} {schemas : List Schema}
      (applies : schema.rule options = .alternatives schemas) (listed : alternative ∈ schemas) :
      Calls options (key, alternative) (key, schema)
  /-- The values of made-up keys are compiled. -/
  | values {key : Option String} {schema values : Schema}
      (applies : schema.rule options = .record values) :
      Calls options (none, values) (key, schema)
  /-- Properties are compiled, each with its name. -/
  | property {key : Option String} {schema : Schema} {properties : List (String × Schema)}
      {name : String} {property : Schema} (applies : schema.rule options = .object properties)
      (listed : (name, property) ∈ properties) : Calls options (some name, property) (key, schema)
  /-- The items of an array are compiled. -/
  | items {key : Option String} {schema items : Schema}
      (applies : schema.rule options = .array (some items)) :
      Calls options (none, items) (key, schema)

/-- One step of the compiler, where `compile` gives the generators of the schemas it calls for. -/
def compileStep (options : Options) (compile : Option String × Schema → Generator) :
    Option String × Schema → Generator
  | (key, schema) =>
    match schema.rule options with
    | .documented value => .literal value
    | .typeList names =>
      if names.isEmpty then .null
      else .oneOf (names.map fun name => compile (key, schema.withType name))
    | .registry name => .registry name
    | .enum values => if values.isEmpty then .null else .enum values
    | .composition members => compile (key, mergeAll members)
    | .alternatives schemas =>
      if schemas.isEmpty then .null
      else .oneOf (schemas.map fun alternative => compile (key, alternative))
    | .string => .text (StringKind.ofHints schema.format key)
    | .number => .integer schema.minimum schema.maximum
    | .boolean => .boolean
    | .record values => .record (compile (none, values))
    | .object properties =>
      .object (properties.map fun property =>
        (property.1, compile (some property.1, property.2)))
    | .array items =>
      .array (schema.minLength.getD 1) (options.lengthBound schema.maxLength)
        ((items.map fun items => compile (none, items)).getD .null)
    | .unknown => .null

variable {options : Options}

/-- A step of the compiler looks at the generators of its calls only. -/
theorem compileStep_congr {first second : Option String × Schema → Generator}
    {call : Option String × Schema}
    (same : ∀ inner, Calls options inner call → first inner = second inner) :
    compileStep options first call = compileStep options second call := by
  obtain ⟨key, schema⟩ := call
  simp only [compileStep]
  cases applies : schema.rule options with
  | typeList names =>
    have each : ∀ name ∈ names,
        first (key, schema.withType name) = second (key, schema.withType name) :=
      fun name listed => same _ (.type applies listed)
    simp only [List.map_congr_left each]
  | composition members => exact same _ (.merge applies)
  | alternatives schemas =>
    have each : ∀ alternative ∈ schemas, first (key, alternative) = second (key, alternative) :=
      fun alternative listed => same _ (.alternative applies listed)
    simp only [List.map_congr_left each]
  | record values => exact congrArg Generator.record (same _ (.values applies))
  | object properties =>
    have each : ∀ property ∈ properties,
        (property.1, first (some property.1, property.2)) =
          (property.1, second (some property.1, property.2)) :=
      fun property listed => congrArg _ (same _ (.property applies listed))
    exact congrArg Generator.object (List.map_congr_left each)
  | array items =>
    cases items with
    | none => rfl
    | some items => simp only [Option.map_some, same _ (.items applies)]
  | _ => rfl

/-! ### Calls come to an end -/

/-- The depth of a schema first, and then how many rules may still apply that keep the depth. -/
def rank (schema : Schema) : Nat := 4 * schema.depth + schema.pendingRules

/-- At most two kinds of rules keep the depth, and the list of types counts twice. -/
theorem pendingRules_le (schema : Schema) : schema.pendingRules ≤ 3 := by
  unfold pendingRules
  split <;> split <;> omega

/-- A schema that nests less deeply has a lower rank, whatever rules may apply. -/
theorem rank_lt_of_depth_lt {inner outer : Schema} (shallower : inner.depth < outer.depth) :
    inner.rank < outer.rank := by
  have pending := pendingRules_le inner
  unfold rank
  omega

/-- The rank of schemas falls with each call. -/
theorem Calls.rank_lt {inner outer : Option String × Schema} (call : Calls options inner outer) :
    inner.2.rank < outer.2.rank := by
  cases call with
  | @type key schema names name applies listed =>
    have single : (schema.withType name).pendingRules < schema.pendingRules := by
      simp [pendingRules, withType, type_of_rule applies]
    have same : (schema.withType name).depth = schema.depth := depth_withType schema name
    simp only [rank]
    omega
  | @merge key schema members applies =>
    rcases depth_mergeAll_lt (allOf_of_rule applies) with shallower | ⟨same, settled⟩
    · exact rank_lt_of_depth_lt shallower
    · -- Only the merge of no schemas is as deep as the composition, and it is the empty schema.
      have pending : 0 < schema.pendingRules := by simp [pendingRules, allOf_of_rule applies]
      simp only [rank]
      omega
  | alternative applies listed =>
    exact rank_lt_of_depth_lt (depth_alternative_lt (oneOf_of_rule applies) listed)
  | values applies => exact rank_lt_of_depth_lt (depth_additional_lt (additional_of_rule applies))
  | property applies listed =>
    exact rank_lt_of_depth_lt (depth_property_lt (properties_of_rule applies ▸ listed))
  | items applies => exact rank_lt_of_depth_lt (depth_items_lt (items_of_rule applies).symm)

/-- The compiler is a recursion whose calls come to an end. -/
theorem recursion_generator (options : Options) :
    Recursion (Calls options) (compileStep options)
      fun call => call.2.generator options call.1 where
  ends := Subrelation.wf Calls.rank_lt (measure fun call : Option String × Schema => call.2.rank).wf
  reads _ _ _ same := compileStep_congr same
  unfolds call := generator_eq options call.1 call.2

/-! ### Depth of generators -/

/-- Every schema has a level of its own. -/
theorem depth_pos (schema : Schema) : 1 ≤ schema.depth := by
  cases schema
  simp only [depth]
  omega

/-- How deeply the generator of a schema nests at most: two levels for each one of the schema, and
one more for a list of types, which becomes a choice. -/
def levels (schema : Schema) : Nat :=
  2 * schema.depth +
    match schema.type with
    | some (.multiple _) => 1
    | _ => 0

/-- A list of types adds one level to those of the depth. -/
theorem levels_le (schema : Schema) :
    2 * schema.depth ≤ schema.levels ∧ schema.levels ≤ 2 * schema.depth + 1 := by
  unfold levels
  split <;> omega

/-- Where no rule that keeps the depth is left, the depth alone counts. -/
theorem levels_of_settled {schema : Schema} (settled : schema.pendingRules = 0) :
    schema.levels = 2 * schema.depth := by
  unfold pendingRules at settled
  unfold levels
  split <;> simp_all

/-- A schema that nests less deeply has fewer levels, whatever its type. -/
theorem levels_lt_of_depth_lt {inner outer : Schema} (shallower : inner.depth < outer.depth) :
    inner.levels < outer.levels := by
  have above := (levels_le inner).2
  have below := (levels_le outer).1
  omega

/-- The merge of a composition has no more levels than the composition. -/
theorem levels_mergeAll_le {schema : Schema} {members : List Schema}
    (composed : schema.allOf = some members) : (mergeAll members).levels ≤ schema.levels := by
  rcases depth_mergeAll_lt composed with shallower | ⟨same, settled⟩
  · exact Nat.le_of_lt (levels_lt_of_depth_lt shallower)
  · have below := (levels_le schema).1
    rw [levels_of_settled settled]
    omega

/-- What is called for has fewer levels, unless it is called for by a composition. -/
theorem Calls.levels_lt {inner outer : Option String × Schema} (call : Calls options inner outer)
    (simple : ∀ members, outer.2.rule options ≠ .composition members) :
    inner.2.levels < outer.2.levels := by
  cases call with
  | @type key schema names name applies listed =>
    have same : (schema.withType name).depth = schema.depth := depth_withType schema name
    have listType : schema.levels = 2 * schema.depth + 1 := by
      simp [levels, type_of_rule applies]
    have singleType : (schema.withType name).levels = 2 * (schema.withType name).depth := rfl
    simp only
    omega
  | merge applies => exact absurd applies (simple _)
  | alternative applies listed =>
    exact levels_lt_of_depth_lt (depth_alternative_lt (oneOf_of_rule applies) listed)
  | values applies =>
    exact levels_lt_of_depth_lt (depth_additional_lt (additional_of_rule applies))
  | property applies listed =>
    exact levels_lt_of_depth_lt (depth_property_lt (properties_of_rule applies ▸ listed))
  | items applies => exact levels_lt_of_depth_lt (depth_items_lt (items_of_rule applies).symm)

/-- The parts of what a step compiles come from its calls, but for the items of an array of which
nothing is said. A composition makes no generator of its own. -/
theorem call_of_part {compile : Option String × Schema → Generator}
    {call : Option String × Schema} {part : Generator}
    (direct : part.Part (compileStep options compile call))
    (simple : ∀ members, call.2.rule options ≠ .composition members) :
    part = .null ∨ ∃ inner, Calls options inner call ∧ part = compile inner := by
  obtain ⟨key, schema⟩ := call
  simp only [compileStep] at direct
  cases applies : schema.rule options with
  | typeList names =>
    simp only [applies] at direct
    split at direct
    · cases direct
    · cases direct with
      | alternative listed =>
        obtain ⟨name, named, rfl⟩ := List.mem_map.mp listed
        exact .inr ⟨_, .type applies named, rfl⟩
  | composition members => exact absurd applies (simple members)
  | alternatives schemas =>
    simp only [applies] at direct
    split at direct
    · cases direct
    · cases direct with
      | alternative listed =>
        obtain ⟨alternative, named, rfl⟩ := List.mem_map.mp listed
        exact .inr ⟨_, .alternative applies named, rfl⟩
  | record values =>
    simp only [applies] at direct
    cases direct
    exact .inr ⟨_, .values applies, rfl⟩
  | object properties =>
    simp only [applies] at direct
    cases direct with
    | property listed =>
      obtain ⟨⟨name, property⟩, named, equal⟩ := List.mem_map.mp listed
      cases equal
      exact .inr ⟨_, .property applies named, rfl⟩
  | array items =>
    simp only [applies] at direct
    cases direct
    cases items with
    | none => exact .inl rfl
    | some items => exact .inr ⟨_, .items applies, rfl⟩
  | enum values =>
    simp only [applies] at direct
    split at direct <;> cases direct
  | _ =>
    simp only [applies] at direct
    cases direct

/-- A generator has no more levels than its schema. -/
theorem depth_generator_le_levels (call : Option String × Schema) :
    (call.2.generator options call.1).depth ≤ call.2.levels := by
  have recursion := recursion_generator options
  induction call using recursion.ends.induction with
  | _ call ih =>
    have positive := depth_pos call.2
    have least := (levels_le call.2).1
    by_cases composed : ∃ members, call.2.rule options = .composition members
    · obtain ⟨members, applies⟩ := composed
      have merged : call.2.generator options call.1 =
          (mergeAll members).generator options call.1 := by rw [generator_eq, applies]
      calc (call.2.generator options call.1).depth
        _ = ((mergeAll members).generator options call.1).depth := by rw [merged]
        _ ≤ (mergeAll members).levels := ih (call.1, mergeAll members) (.merge applies)
        _ ≤ call.2.levels := levels_mergeAll_le (allOf_of_rule applies)
    · have simple : ∀ members, call.2.rule options ≠ .composition members :=
        fun members applies => composed ⟨members, applies⟩
      have split : call.2.levels = (call.2.levels - 1) + 1 := by omega
      rw [split, Generator.depth_le_succ_iff]
      intro part direct
      rw [recursion.unfolds] at direct
      rcases call_of_part direct simple with rfl | ⟨inner, called, rfl⟩
      · simp only [Generator.depth]
        omega
      · have bound := ih inner called
        have fewer := called.levels_lt simple
        omega

/-- Compiling comes to an end on every schema, though it goes on to schemas that are no parts of the
one it started from: a merge is never deeper than the deeper of its sides, and so the calls of the
compiler end. The generator of a schema is at most twice as deep as the schema, and one level. -/
theorem compiling_ends (options : Options) :
    Recursion (Calls options) (compileStep options)
        (fun call => call.2.generator options call.1) ∧
      (∀ base top : Schema, (merged base top).depth ≤ max base.depth top.depth) ∧
      ∀ (key : Option String) (schema : Schema),
        (schema.generator options key).depth ≤ 2 * schema.depth + 1 := by
  refine ⟨recursion_generator options, depth_merged_le, fun key schema => ?_⟩
  calc (schema.generator options key).depth
    _ ≤ schema.levels := depth_generator_le_levels (key, schema)
    _ ≤ 2 * schema.depth + 1 := (levels_le schema).2

/-- Arrays that are described with a list of types. -/
def listedArrays (items : Option Schema) : Schema :=
  { type := some (.multiple ["array"]), items }

/-- Arrays described with a list of types become a choice of an array. -/
theorem depth_generator_listedArrays (options : Options) (key : Option String)
    (items : Option Schema) :
    ((listedArrays items).generator options key).depth =
      2 + ((items.map (generator options none)).getD .null).depth := by
  have choice : (listedArrays items).rule options = .typeList ["array"] := rfl
  have array : ((listedArrays items).withType "array").rule options = .array items := by
    simp [rule, registryName, referenceName, keywordRule, typeRule, withType, listedArrays]
  rw [generator_eq, choice]
  simp only [List.isEmpty_cons, Bool.false_eq_true, if_false, List.map_cons, List.map_nil]
  rw [generator_eq, array]
  simp only [Generator.depth, Generator.depthAll]
  omega

/-- The bound on the depth of generators is met at every depth. -/
theorem exists_depth_generator_eq (options : Options) (key : Option String) (deeper : Nat) :
    ∃ schema : Schema, schema.depth = deeper + 1 ∧
      (schema.generator options key).depth = 2 * schema.depth + 1 := by
  induction deeper generalizing key with
  | zero => exact ⟨listedArrays none, rfl, depth_generator_listedArrays options key none⟩
  | succ deeper ih =>
    obtain ⟨items, depth, deepest⟩ := ih none
    have outer : (listedArrays (some items)).depth = items.depth + 1 := by
      simp [listedArrays, Schema.depth, depthProperties?, depthAdditional?, depthSchema?,
        depthSchemas?, Nat.add_comm]
    refine ⟨listedArrays (some items), by rw [outer, depth], ?_⟩
    rw [depth_generator_listedArrays, outer, Option.map_some, Option.getD_some, deepest]
    omega

end ApiMock.Schema
