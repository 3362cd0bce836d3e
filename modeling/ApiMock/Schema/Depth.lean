import ApiMock.Schema.Merge

/-!
# Depth of schemas

How deeply schemas nest, a schema without sub-schemas counting one. Merging never deepens:
`depth_merged_le` bounds the depth of a merge by the deeper of its two sides, so a schema
compiled in place of its `allOf` list nests less deeply than the schema it came from.
-/
namespace ApiMock.Schema

mutual

/-- The depth of a schema: one more than the deepest of its sub-schemas. -/
def depth : Schema → Nat
  | ⟨_, _, _, _, _, _, _, _, properties, additionalProperties, items, allOf, oneOf, anyOf, _, _⟩ =>
    1 + max (depthProperties? properties) (max (depthAdditional? additionalProperties)
      (max (depthSchema? items)
        (max (depthSchemas? allOf) (max (depthSchemas? oneOf) (depthSchemas? anyOf)))))

/-- The depth of an optional schema. -/
def depthSchema? : Option Schema → Nat
  | none => 0
  | some schema => depth schema

/-- The depth of the schema of further properties. -/
def depthAdditional? : Option (Additional Schema) → Nat
  | none => 0
  | some (.allowed _) => 0
  | some (.schema values) => depth values

/-- The depth of the deepest of optional properties. -/
def depthProperties? : Option (List (String × Schema)) → Nat
  | none => 0
  | some properties => depthProperties properties

/-- The depth of the deepest property. -/
def depthProperties : List (String × Schema) → Nat
  | [] => 0
  | (_, schema) :: rest => max (depth schema) (depthProperties rest)

/-- The depth of the deepest schema of an optional list. -/
def depthSchemas? : Option (List Schema) → Nat
  | none => 0
  | some schemas => depthSchemas schemas

/-- The depth of the deepest schema of a list. -/
def depthSchemas : List Schema → Nat
  | [] => 0
  | schema :: rest => max (depth schema) (depthSchemas rest)

end

/-- A property of a list is at most as deep as the deepest one. -/
theorem depth_le_depthProperties {properties : List (String × Schema)} {name : String}
    {schema : Schema} (member : (name, schema) ∈ properties) :
    schema.depth ≤ depthProperties properties := by
  induction properties with
  | nil => simp at member
  | cons entry rest ih =>
    obtain ⟨other, first⟩ := entry
    simp only [depthProperties]
    rcases List.mem_cons.mp member with equal | later
    · cases equal
      omega
    · have := ih later
      omega

/-- A schema of a list is at most as deep as the deepest one. -/
theorem depth_le_depthSchemas {schemas : List Schema} {schema : Schema}
    (member : schema ∈ schemas) : schema.depth ≤ depthSchemas schemas := by
  induction schemas with
  | nil => simp at member
  | cons first rest ih =>
    simp only [depthSchemas]
    rcases List.mem_cons.mp member with equal | later
    · subst equal
      omega
    · have := ih later
      omega

/-- The schema read under a name is at most as deep as the deepest property. -/
theorem depth_le_of_get? {properties : List (String × Schema)} {name : String} {schema : Schema}
    (found : Entries.get? properties name = some schema) :
    schema.depth ≤ depthProperties properties := by
  induction properties with
  | nil => simp [Entries.get?] at found
  | cons entry rest ih =>
    obtain ⟨other, first⟩ := entry
    simp only [Entries.get?] at found
    simp only [depthProperties]
    split at found
    · cases found
      omega
    · have := ih found
      omega

/-- Writing a property deepens a list by no more than the property written. -/
theorem depthProperties_insert_le (properties : List (String × Schema)) (name : String)
    (schema : Schema) :
    depthProperties (Entries.insert properties name schema) ≤
      max (depthProperties properties) schema.depth := by
  induction properties with
  | nil => simp [Entries.insert, depthProperties]
  | cons entry rest ih =>
    obtain ⟨other, first⟩ := entry
    simp only [Entries.insert]
    split <;> simp only [depthProperties] <;> omega

/-- Two bounds by a maximum make one bound of the maxima. -/
private theorem max_le_max_pair {a b left right left' right' : Nat} (first : a ≤ max left right)
    (second : b ≤ max left' right') : max a b ≤ max (max left left') (max right right') := by
  omega

mutual

/-- A merge is at most as deep as the deeper of its sides. -/
theorem depth_merged_le (base : Schema) :
    (top : Schema) → (merged base top).depth ≤ max base.depth top.depth
  | ⟨_, _, _, _, _, _, _, _, properties, additionalProperties, items, allOf, oneOf, anyOf, _,
      _⟩ => by
    obtain ⟨_, _, _, _, _, _, _, _, properties', additionalProperties', items', allOf', oneOf',
      anyOf', _, _⟩ := base
    have inProperties := depthProperties?_merge_le properties' properties
    have inAdditional := depthAdditional?_merge_le additionalProperties' additionalProperties
    have inItems := depthSchema?_merge_le items' items
    have inAllOf := depthSchemas?_merge_le allOf' allOf
    have inOneOf := depthSchemas?_merge_le oneOf' oneOf
    have inAnyOf := depthSchemas?_merge_le anyOf' anyOf
    simp only [merged, depth]
    rw [Nat.add_max_add_left]
    exact Nat.add_le_add_left (max_le_max_pair inProperties (max_le_max_pair inAdditional
      (max_le_max_pair inItems (max_le_max_pair inAllOf (max_le_max_pair inOneOf inAnyOf))))) 1
termination_by structural top => top

/-- The merge of optional schemas is at most as deep as the deeper of its sides. -/
theorem depthSchema?_merge_le : (base top : Option Schema) →
    depthSchema? (mergeSchema? base top) ≤ max (depthSchema? base) (depthSchema? top)
  | _, none => by simp only [mergeSchema?]; omega
  | none, some _ => by simp only [mergeSchema?]; omega
  | some old, some new => by
    have inner := depth_merged_le old new
    simpa only [mergeSchema?, depthSchema?] using inner
termination_by structural _ top => top

/-- The merge of further properties is at most as deep as the deeper of its sides. -/
theorem depthAdditional?_merge_le : (base top : Option (Additional Schema)) →
    depthAdditional? (mergeAdditional? base top) ≤
      max (depthAdditional? base) (depthAdditional? top)
  | _, none => by simp only [mergeAdditional?]; omega
  | _, some (.allowed _) => by simp only [mergeAdditional?]; omega
  | none, some (.schema _) => by simp only [mergeAdditional?]; omega
  | some (.allowed _), some (.schema _) => by simp only [mergeAdditional?]; omega
  | some (.schema old), some (.schema new) => by
    have inner := depth_merged_le old new
    simpa only [mergeAdditional?, depthAdditional?] using inner
termination_by structural _ top => top

/-- The merge of optional properties is at most as deep as the deeper of its sides. -/
theorem depthProperties?_merge_le : (base top : Option (List (String × Schema))) →
    depthProperties? (mergeProperties? base top) ≤
      max (depthProperties? base) (depthProperties? top)
  | _, none => by simp only [mergeProperties?]; omega
  | none, some _ => by simp only [mergeProperties?]; omega
  | some old, some new => by
    have inner := depthProperties_merge_le old new
    simpa only [mergeProperties?, depthProperties?] using inner
termination_by structural _ top => top

/-- Merged properties are at most as deep as the deeper of their sides. -/
theorem depthProperties_merge_le (base : List (String × Schema)) :
    (top : List (String × Schema)) →
    depthProperties (mergeProperties base top) ≤ max (depthProperties base) (depthProperties top)
  | [] => by simp only [mergeProperties]; omega
  | (name, schema) :: rest => by
    simp only [mergeProperties, depthProperties]
    cases found : Entries.get? base name with
    | none =>
      have later := depthProperties_merge_le (Entries.insert base name schema) rest
      have written := depthProperties_insert_le base name schema
      simp only
      omega
    | some old =>
      have later := depthProperties_merge_le (Entries.insert base name (merged old schema)) rest
      have written := depthProperties_insert_le base name (merged old schema)
      have inner := depth_merged_le old schema
      have below := depth_le_of_get? found
      simp only
      omega
termination_by structural top => top

/-- The merge of optional lists is at most as deep as the deeper of its sides. -/
theorem depthSchemas?_merge_le : (base top : Option (List Schema)) →
    depthSchemas? (mergeSchemas? base top) ≤ max (depthSchemas? base) (depthSchemas? top)
  | _, none => by simp only [mergeSchemas?]; omega
  | none, some _ => by simp only [mergeSchemas?]; omega
  | some old, some new => by
    have inner := depthSchemas_merge_le old new
    simpa only [mergeSchemas?, depthSchemas?] using inner
termination_by structural _ top => top

/-- Merged lists are at most as deep as the deeper of their sides. -/
theorem depthSchemas_merge_le : (base top : List Schema) →
    depthSchemas (mergeSchemas base top) ≤ max (depthSchemas base) (depthSchemas top)
  | _, [] => by simp only [mergeSchemas]; omega
  | [], _ :: _ => by simp only [mergeSchemas]; omega
  | old :: base, new :: top => by
    have head := depth_merged_le old new
    have tail := depthSchemas_merge_le base top
    simp only [mergeSchemas, depthSchemas]
    omega
termination_by structural _ top => top

end

/-- Merging onto a schema any number of schemas is at most as deep as the deepest of all. -/
theorem depth_foldl_merged_le (schemas : List Schema) (base : Schema) :
    (schemas.foldl merged base).depth ≤ max base.depth (depthSchemas schemas) := by
  induction schemas generalizing base with
  | nil => simp only [List.foldl_nil]; omega
  | cons first rest ih =>
    have later := ih (base.merged first)
    have step := depth_merged_le base first
    simp only [List.foldl_cons, depthSchemas]
    omega

end ApiMock.Schema
