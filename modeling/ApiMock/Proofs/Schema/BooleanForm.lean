import ApiMock.Proofs.Json.Position
import ApiMock.Schema.BooleanForm
/-!
# Where boolean schemas are replaced

A value that describes a schema has other schemas below five kinds of keywords (`SchemaEdge`), and so on
down to any depth (`SchemaPath`). Each place below it is used in some role (`Role`): as a schema, as a
container of schemas, or as data. The replacement of boolean schemas rewrites every place by its role
alone (`Role.at?_rewrite`), which says all about it: it turns the boolean schemas into empty ones,
leaves everything that has no such schema within, and does nothing when it is repeated.
-/
namespace ApiMock.Json

/-! ### Schemas below a schema -/

/-- Schemas stand directly below an object: as the values of `properties`, as `items`, as an object
under `additionalProperties`, and in the lists under `allOf`, `oneOf` and `anyOf`. -/
inductive SchemaEdge (value : Json) : List Step → Json → Prop
  /-- The schema of a property. -/
  | property {properties schema : Json} {name : String}
      (found : value.get? "properties" = some properties)
      (named : properties.get? name = some schema) :
      SchemaEdge value [.key "properties", .key name] schema
  /-- The schema of items. -/
  | items {schema : Json} (found : value.get? "items" = some schema) :
      SchemaEdge value [.key "items"] schema
  /-- The schema of further properties; a truth value in its place is none. -/
  | further {members : List (String × Json)}
      (found : value.get? "additionalProperties" = some (obj members)) :
      SchemaEdge value [.key "additionalProperties"] (obj members)
  /-- A schema of a list. -/
  | member {keyword : String} {schemas : List Json} {schema : Json} {position : Nat}
      (combines : keyword ∈ ["allOf", "oneOf", "anyOf"])
      (found : value.get? keyword = some (arr schemas))
      (listed : schemas[position]? = some schema) :
      SchemaEdge value [.key keyword, .index position] schema

/-- A place is a schema within a value: the value itself, or what stands below a schema. -/
inductive SchemaPath : Json → List Step → Json → Prop
  /-- The value itself. -/
  | root (value : Json) : SchemaPath value [] value
  /-- A schema within one directly below the value. -/
  | deeper {value schema place : Json} {edge path : List Step} (first : SchemaEdge value edge schema)
      (onward : SchemaPath schema path place) : SchemaPath value (edge ++ path) place

/-- A boolean schema stands at a path of a value or beneath it. -/
def LeadsToBoolean (value : Json) (path : List Step) : Prop :=
  ∃ rest truth, SchemaPath value (path ++ rest) (.bool truth)

/-! ### Roles -/

/-- What a place within a schema is used as. -/
inductive Role where
  /-- A schema. -/
  | schema
  /-- The schemas of properties by name. -/
  | named
  /-- The schema of further properties, or whether there are any. -/
  | further
  /-- A list of schemas. -/
  | listed
  /-- Anything else. -/
  | data

namespace Role

/-- The role of what stands under a key of a schema. -/
def ofKeyword (key : String) : Role :=
  if key = "items" then schema
  else if key = "properties" then named
  else if key = "additionalProperties" then further
  else if key = "allOf" ∨ key = "oneOf" ∨ key = "anyOf" then listed
  else data

/-- The role of a member of an object. -/
def ofMember : Role → String → Role
  | schema, key => ofKeyword key
  | further, key => ofKeyword key
  | named, _ => schema
  | _, _ => data

/-- The role of an item of an array. -/
def ofItem : Role → Role
  | listed => schema
  | _ => data

/-- The role of what a step leads to. -/
def after (role : Role) : Step → Role
  | .key name => role.ofMember name
  | .index _ => role.ofItem

/-- The role of what a path leads to. -/
def along (role : Role) (path : List Step) : Role := path.foldl after role

/-- What the replacement of boolean schemas makes of a value in a role. -/
def rewrite : Role → Json → Json
  | schema => normalize
  | named => normalizeProperties
  | further => normalizeAdditional
  | listed => normalizeList
  | data => id

/-- Below data there is nothing but data. -/
theorem along_data (path : List Step) : along data path = data := by
  induction path with
  | nil => rfl
  | cons step path ih =>
    cases step with
    | key name => exact ih
    | index position => exact ih

/-- The members of a schema are rewritten by their roles. -/
theorem normalizeKeywords_eq_map (members : List (String × Json)) :
    normalizeKeywords members =
      members.map fun member => (member.1, (ofKeyword member.1).rewrite member.2) := by
  induction members with
  | nil => rfl
  | cons member rest ih =>
    obtain ⟨key, value⟩ := member
    rw [normalizeKeywords, ih, List.map_cons, ofKeyword]
    split_ifs <;> rfl

/-- The schemas of properties are rewritten one by one. -/
theorem normalizeMembers_eq_map (members : List (String × Json)) :
    normalizeMembers members = members.map fun member => (member.1, member.2.normalize) := by
  induction members with
  | nil => rfl
  | cons member rest ih => rw [normalizeMembers, ih, List.map_cons]

/-- The schemas of a list are rewritten one by one. -/
theorem normalizeItems_eq_map (items : List Json) :
    normalizeItems items = items.map normalize := by
  induction items with
  | nil => rfl
  | cons item rest ih => rw [normalizeItems, ih, List.map_cons]

/-- An object keeps its keys, and its members are rewritten by their roles. -/
theorem rewrite_obj (role : Role) (members : List (String × Json)) :
    role.rewrite (obj members) =
      obj (members.map fun member => (member.1, (role.ofMember member.1).rewrite member.2)) := by
  cases role with
  | schema | further => exact congrArg obj (normalizeKeywords_eq_map members)
  | named => exact congrArg obj (normalizeMembers_eq_map members)
  | listed | data => exact congrArg obj (List.map_id members).symm

/-- An array keeps its length, and its items are rewritten by their role. -/
theorem rewrite_arr (role : Role) (items : List Json) :
    role.rewrite (arr items) = arr (items.map role.ofItem.rewrite) := by
  cases role with
  | listed => exact congrArg arr (normalizeItems_eq_map items)
  | schema | named | further | data => exact congrArg arr (List.map_id items).symm

/-- A step into a rewritten value leads to what it led to, rewritten by its role. -/
theorem step?_rewrite (role : Role) (value : Json) (step : Step) :
    (role.rewrite value).step? step = (value.step? step).map (role.after step).rewrite := by
  cases value with
  | obj members =>
    rw [rewrite_obj]
    cases step with
    | key name =>
      exact Entries.get?_map members (fun key member => (role.ofMember key).rewrite member) name
    | index position => rfl
  | arr items =>
    rw [rewrite_arr]
    cases step with
    | key name => rfl
    | index position => exact List.getElem?_map
  | _ => cases role <;> cases step <;> rfl

/-- What stands at a path of a rewritten value is what stood there, rewritten by its role. -/
theorem at?_rewrite (role : Role) (value : Json) (path : List Step) :
    (role.rewrite value).at? path = (value.at? path).map (role.along path).rewrite := by
  induction path generalizing role value with
  | nil => rfl
  | cons step path ih =>
    rw [at?, at?, step?_rewrite]
    cases value.step? step with
    | none => rfl
    | some inner => exact ih (role.after step) inner

/-- Rewriting again changes nothing. -/
theorem rewrite_rewrite (role : Role) (value : Json) :
    role.rewrite (role.rewrite value) = role.rewrite value := by
  induction value using Json.induction generalizing role with
  | arr items ih =>
    rw [rewrite_arr, rewrite_arr, List.map_map]
    exact congrArg arr (List.map_congr_left fun item listed => ih item listed role.ofItem)
  | obj members ih =>
    rw [rewrite_obj, rewrite_obj, List.map_map]
    refine congrArg obj (List.map_congr_left fun member listed => ?_)
    exact congrArg (member.1, ·) (ih member listed (role.ofMember member.1))
  | _ => cases role <;> rfl

/-! ### Roles of schemas -/

variable {value inner place : Json} {path : List Step} {role : Role}

/-- What stands at a place in a role is a schema: in the role of a schema anything is, and in place of
further properties an object is. -/
inductive HasSchema : Role → Json → Prop
  /-- Anything in the role of a schema. -/
  | schema (place : Json) : HasSchema .schema place
  /-- An object in place of further properties. -/
  | further (members : List (String × Json)) : HasSchema .further (obj members)

/-- What stands directly below a schema is a schema by its role. -/
theorem HasSchema.of_edge (outer : role.HasSchema value) (edge : SchemaEdge value path inner) :
    value.at? path = some inner ∧ (role.along path).HasSchema inner := by
  -- A key leads on from both roles alike.
  have same : ∀ key rest, role.along (.key key :: rest) = (ofKeyword key).along rest := by
    intro key rest
    cases outer <;> rfl
  cases edge with
  | property found named =>
    rw [same]
    exact ⟨by simp [at?, step?, found, named], .schema _⟩
  | items found =>
    rw [same]
    exact ⟨by simp [at?, step?, found], .schema _⟩
  | further found =>
    rw [same]
    exact ⟨by simp [at?, step?, found], .further _⟩
  | @member keyword _ _ position combines found listed =>
    have list : ofKeyword keyword = .listed := by
      simp only [List.mem_cons, List.not_mem_nil, or_false] at combines
      rcases combines with rfl | rfl | rfl <;> rfl
    rw [same, list]
    exact ⟨by simp [at?, step?, found, items?, listed], .schema _⟩

/-- A schema within a value is a schema by its role. -/
theorem HasSchema.of_path (outer : role.HasSchema value) (reached : SchemaPath value path place) :
    value.at? path = some place ∧ (role.along path).HasSchema place := by
  induction reached generalizing role with
  | root value => exact ⟨rfl, outer⟩
  | deeper first onward ih =>
    obtain ⟨found, inner⟩ := outer.of_edge first
    obtain ⟨reached, last⟩ := ih inner
    refine ⟨?_, ?_⟩
    · rw [at?_append, found, Option.bind_some, reached]
    · rwa [along, List.foldl_append]

/-- Below data there is no schema. -/
theorem along_data_ne_schema (path : List Step) : along data path ≠ schema := fun same => by
  cases (along_data path).symm.trans same

/-- Below the schemas of properties, a key leads to a schema. -/
theorem exists_of_along_named (described : named.along path = schema) :
    ∃ name rest, path = .key name :: rest ∧ schema.along rest = schema := by
  cases path with
  | nil => cases described
  | cons step rest =>
    cases step with
    | key name => exact ⟨name, rest, rfl, described⟩
    | index position => exact absurd described (along_data_ne_schema rest)

/-- Below the schema of further properties, a key leads on as from any schema. -/
theorem exists_of_along_further (described : further.along path = schema) :
    ∃ name rest, path = .key name :: rest ∧ schema.along path = schema := by
  cases path with
  | nil => cases described
  | cons step rest =>
    cases step with
    | key name => exact ⟨name, rest, rfl, described⟩
    | index position => exact absurd described (along_data_ne_schema rest)

/-- Below a list of schemas, a position leads to a schema. -/
theorem exists_of_along_listed (described : listed.along path = schema) :
    ∃ position rest, path = .index position :: rest ∧ schema.along rest = schema := by
  cases path with
  | nil => cases described
  | cons step rest =>
    cases step with
    | key name => exact absurd described (along_data_ne_schema rest)
    | index position => exact ⟨position, rest, rfl, described⟩

/-- The way to a place in the role of a schema begins with a step or two to a schema directly below. -/
theorem exists_edge_of_along {step : Step} (found : value.at? (step :: path) = some place)
    (described : schema.along (step :: path) = schema) :
    ∃ edge rest inner, step :: path = edge ++ rest ∧ edge ≠ [] ∧ SchemaEdge value edge inner ∧
      inner.at? rest = some place ∧ schema.along rest = schema := by
  obtain ⟨inner, first, onward⟩ := Option.bind_eq_some_iff.mp found
  cases step with
  | index position => exact absurd described (along_data_ne_schema path)
  | key name =>
    change (ofKeyword name).along path = schema at described
    rw [ofKeyword] at described
    split_ifs at described with isItems isProperties isFurther isList
    · subst isItems
      exact ⟨_, path, inner, rfl, List.cons_ne_nil _ _, .items first, onward, described⟩
    · subst isProperties
      obtain ⟨property, rest, rfl, later⟩ := exists_of_along_named described
      obtain ⟨schema, named, onward⟩ := Option.bind_eq_some_iff.mp onward
      exact ⟨[.key "properties", .key property], rest, schema, rfl, List.cons_ne_nil _ _,
        .property first named, onward, later⟩
    · subst isFurther
      obtain ⟨property, rest, rfl, later⟩ := exists_of_along_further described
      obtain ⟨members, rfl⟩ := exists_obj_of_at? onward
      exact ⟨[.key "additionalProperties"], .key property :: rest, .obj members, rfl,
        List.cons_ne_nil _ _, .further first, onward, later⟩
    · obtain ⟨position, rest, rfl, later⟩ := exists_of_along_listed described
      obtain ⟨items, rfl⟩ := exists_arr_of_at? onward
      obtain ⟨schema, listed, onward⟩ := Option.bind_eq_some_iff.mp onward
      have combines : name ∈ ["allOf", "oneOf", "anyOf"] := by simpa using isList
      exact ⟨[.key name, .index position], rest, schema, rfl, List.cons_ne_nil _ _,
        .member combines first listed, onward, later⟩
    · exact absurd described (along_data_ne_schema path)

/-- What stands at a path in the role of a schema is a schema within the value. -/
theorem schemaPath_of_along (found : value.at? path = some place)
    (described : schema.along path = schema) : SchemaPath value path place := by
  induction size : path.length using Nat.strongRecOn generalizing value path with
  | _ size ih =>
    subst size
    cases path with
    | nil =>
      obtain rfl : value = place := Option.some.inj found
      exact .root value
    | cons step path =>
      obtain ⟨edge, rest, inner, parts, filled, first, onward, later⟩ :=
        exists_edge_of_along found described
      have shorter : rest.length < (step :: path).length := by
        have positive : 0 < edge.length := List.length_pos_iff.mpr filled
        rw [parts, List.length_append]
        omega
      rw [parts]
      exact .deeper first (ih _ shorter onward later rfl)

end Role

/-! ### What replacement does -/

variable {value : Json} {path : List Step}

/-- Where a boolean schema is beneath a part of a path, it is beneath its beginning. -/
theorem LeadsToBoolean.of_append {rest : List Step} (leads : LeadsToBoolean value (path ++ rest)) :
    LeadsToBoolean value path := by
  obtain ⟨onward, truth, reached⟩ := leads
  exact ⟨rest ++ onward, truth, by rwa [← List.append_assoc]⟩

/-- A boolean schema becomes the empty schema. -/
theorem at?_normalize_of_schemaPath {truth : Bool} (reached : SchemaPath value path (.bool truth)) :
    value.normalize.at? path = some .empty := by
  obtain ⟨found, described⟩ := (Role.HasSchema.schema value).of_path reached
  generalize last : Role.schema.along path = role at described
  cases described with
  | schema =>
    have rewritten := Role.schema.at?_rewrite value path
    rw [found, last] at rewritten
    exact rewritten

/-- One more step keeps a path clear of boolean schemas, and leads to the role of what is there. -/
theorem clear_of_step {place inner : Json} {next : Step} (found : value.at? path = some place)
    (clear : ¬ LeadsToBoolean value path) (first : place.step? next = some inner) :
    value.at? (path ++ [next]) = some inner ∧ ¬ LeadsToBoolean value (path ++ [next]) ∧
      Role.schema.along (path ++ [next]) = (Role.schema.along path).after next := by
  refine ⟨?_, fun leads => clear leads.of_append, ?_⟩
  · rw [at?_append, found, Option.bind_some, at?, first]
    rfl
  · rw [Role.along, List.foldl_append]
    rfl

/-- What has no boolean schema within is left as it is. -/
theorem rewrite_eq_self {place : Json} (found : value.at? path = some place)
    (distinct : place.DistinctKeys) (clear : ¬ LeadsToBoolean value path) :
    (Role.schema.along path).rewrite place = place := by
  induction place using Json.induction generalizing path with
  | null | num | str => cases Role.schema.along path <;> rfl
  | bool truth =>
    cases role : Role.schema.along path with
    | schema =>
      have reached := Role.schemaPath_of_along found role
      exact absurd ⟨[], truth, by rwa [List.append_nil]⟩ clear
    | _ => rfl
  | arr items ih =>
    have each : ∀ item ∈ items, (Role.schema.along path).ofItem.rewrite item = item := by
      intro item listed
      obtain ⟨position, here⟩ := List.mem_iff_getElem?.mp listed
      have first : (arr items).step? (.index position) = some item := here
      obtain ⟨inside, clear, role⟩ := clear_of_step found clear first
      have same := ih item listed inside (distinctKeys_arr_iff.mp distinct item listed) clear
      rwa [role] at same
    rw [Role.rewrite_arr, List.map_congr_left each, List.map_id']
  | obj members ih =>
    obtain ⟨own, inner⟩ := distinctKeys_obj_iff.mp distinct
    have each : ∀ member ∈ members,
        (member.1, ((Role.schema.along path).ofMember member.1).rewrite member.2) = member := by
      intro member listed
      have first : (obj members).step? (.key member.1) = some member.2 :=
        Entries.get?_of_mem own listed
      obtain ⟨inside, clear, role⟩ := clear_of_step found clear first
      have same := ih member listed inside (inner member listed) clear
      rw [role] at same
      exact congrArg (member.1, ·) same
    rw [Role.rewrite_obj, List.map_congr_left each, List.map_id']

/-- After boolean schemas are replaced, there is none, and each has become the empty schema. Whatever has
no boolean schema at it or beneath it is unchanged, and where there are such schemas within, objects keep
their keys and the order of them, and arrays their length. Replacing once more changes nothing. -/
theorem replaces_boolean_schemas (value : Json) :
    (∀ path place truth, SchemaPath value.normalize path place → place ≠ .bool truth) ∧
      (∀ path truth, SchemaPath value path (.bool truth) →
        value.normalize.at? path = some .empty) ∧
      (∀ path, value.DistinctKeys → ¬ LeadsToBoolean value path →
        value.normalize.at? path = value.at? path) ∧
      (∀ path members, value.at? path = some (.obj members) →
        ∃ others, value.normalize.at? path = some (.obj others) ∧
          Entries.keys others = Entries.keys members) ∧
      (∀ path items, value.at? path = some (.arr items) →
        ∃ others, value.normalize.at? path = some (.arr others) ∧
          others.length = items.length) ∧
      value.normalize.normalize = value.normalize := by
  have again : value.normalize.normalize = value.normalize := Role.schema.rewrite_rewrite value
  have rewritten : ∀ path,
      value.normalize.at? path = (value.at? path).map (Role.schema.along path).rewrite :=
    Role.schema.at?_rewrite value
  refine ⟨?_, fun path truth => at?_normalize_of_schemaPath, ?_, ?_, ?_, again⟩
  · rintro path _ truth reached rfl
    -- A boolean schema that is left would be replaced when the value is normalized again.
    have found : value.normalize.at? path = some (.bool truth) :=
      ((Role.HasSchema.schema value.normalize).of_path reached).1
    have emptied := at?_normalize_of_schemaPath reached
    rw [again, found] at emptied
    cases emptied
  · intro path distinct clear
    rw [rewritten]
    cases found : value.at? path with
    | none => rfl
    | some place =>
      have inside : place.DistinctKeys := distinct.within (within_of_at? found)
      exact congrArg some (rewrite_eq_self found inside clear)
  · intro path members found
    have kept := Entries.keys_map members fun key => ((Role.schema.along path).ofMember key).rewrite
    refine ⟨_, ?_, kept⟩
    rw [rewritten, found, Option.map_some, Role.rewrite_obj]
  · intro path items found
    refine ⟨_, ?_, List.length_map (Role.schema.along path).ofItem.rewrite⟩
    rw [rewritten, found, Option.map_some, Role.rewrite_arr]

/-- A schema with boolean schemas for a property and in a list, and with truth values beside them that
are none. -/
def mixedSchema : Json :=
  .obj [("properties", .obj [("any", .bool true), ("items", .obj [("items", .bool false)])]),
    ("additionalProperties", .bool true),
    ("example", .obj [("items", .bool true)]),
    ("oneOf", .arr [.bool false])]

/-- The schema of the property is replaced; the example and the truth value for further properties
stay. -/
theorem replaces_boolean_schemas_mixedSchema :
    mixedSchema.DistinctKeys ∧
      mixedSchema.normalize.at? [.key "properties", .key "any"] = some .empty ∧
      mixedSchema.normalize.at? [.key "example"] = some (.obj [("items", .bool true)]) ∧
      mixedSchema.normalize.at? [.key "additionalProperties"] = some (.bool true) ∧
      ∃ others, mixedSchema.normalize.at? [] = some (.obj others) ∧
        Entries.keys others = ["properties", "additionalProperties", "example", "oneOf"] := by
  have truth : ∀ value, (bool value).DistinctKeys := fun value members within => by cases within
  have distinct : mixedSchema.DistinctKeys := by
    simp [mixedSchema, distinctKeys_obj_iff, distinctKeys_arr_iff, truth, Entries.keys]
  obtain ⟨-, emptied, kept, ordered, -, -⟩ := replaces_boolean_schemas mixedSchema
  have schemaRole := Role.HasSchema.schema mixedSchema
  have example_clear : ¬ LeadsToBoolean mixedSchema [.key "example"] := by
    rintro ⟨rest, value, reached⟩
    have role : Role.schema.along ([.key "example"] ++ rest) = .data := Role.along_data rest
    have described := (schemaRole.of_path reached).2
    rw [role] at described
    cases described
  have further_clear : ¬ LeadsToBoolean mixedSchema [.key "additionalProperties"] := by
    rintro ⟨rest, value, reached⟩
    obtain ⟨found, described⟩ := schemaRole.of_path reached
    cases rest with
    | nil => cases described
    | cons step rest => cases step <;> cases found
  refine ⟨distinct, emptied _ true (.deeper (.property rfl rfl) (.root _)), ?_, ?_, ?_⟩
  · exact kept _ distinct example_clear
  · exact kept _ distinct further_clear
  · exact ordered [] _ rfl

end ApiMock.Json
