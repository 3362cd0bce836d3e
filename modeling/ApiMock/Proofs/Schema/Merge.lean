import ApiMock.Generator.Compile
import ApiMock.Proofs.Json.Merge
import ApiMock.Proofs.Schema.Names
import ApiMock.Proofs.Schema.Origin
/-!
# The algebra of merged schemas

A merge of schemas lays each of the sixteen keywords over its counterpart, and every keyword knows
how one value of its own is laid over another (`merged_eq`). So the laws of a merge are those of its
keywords: the empty schema changes nothing on either side, and a schema that has been laid changes
nothing when it is laid once more (`repeatable_merged`), which takes an induction because
properties, items and lists of schemas merge in turn.
-/
namespace ApiMock

/-! ### Keywords -/

/-- What is laid replaces what was there. -/
def replaceBy {α : Type} (_ value : α) : α := value

/-- A replacement changes nothing the second time. -/
theorem repeatable_replaceBy {α : Type} (value : α) : Repeatable replaceBy value := by
  intro old?
  cases old? <;> rfl

/-- Without a merge of its own, the top value comes first. -/
theorem optionwise_replaceBy {α : Type} (base top : Option α) :
    optionwise replaceBy base top = top.or base := by
  cases top with
  | none => rfl
  | some value =>
    cases base <;> rfl

namespace Schema

/-- A type keyword laid over another one: two lists merge place by place. -/
def typeOver : (base top : TypeKeyword) → TypeKeyword
  | .multiple base, .multiple top => .multiple (overlay base top)
  | _, top => top

/-- Further properties laid over others: two schemas merge. -/
def additionalOver : (base top : Additional Schema) → Additional Schema
  | .schema base, .schema top => .schema (merged base top)
  | _, top => top

/-- Names of a list replace those at the same places. -/
theorem overlay_eq_itemwise {α : Type} : overlay (α := α) = itemwise replaceBy := by
  funext base top
  induction top generalizing base with
  | nil =>
    cases base <;> rfl
  | cons value top ih =>
    cases base with
    | nil => exact List.append_nil _
    | cons old base => exact congrArg (value :: ·) (ih base)

/-- Properties merge name by name. -/
theorem mergeProperties_eq_keywise (base top : List (String × Schema)) :
    mergeProperties base top = Entries.keywise merged base top := by
  induction top generalizing base with
  | nil => rfl
  | cons entry rest ih =>
    obtain ⟨name, schema⟩ := entry
    rw [mergeProperties, ih, Entries.keywise_cons]
    cases Entries.get? base name <;> rfl

/-- Schemas of a list merge place by place. -/
theorem mergeSchemas_eq_itemwise (base top : List Schema) :
    mergeSchemas base top = itemwise merged base top := by
  induction top generalizing base with
  | nil => cases base <;> rfl
  | cons schema rest ih =>
    cases base with
    | nil => rfl
    | cons old base =>
      rw [mergeSchemas, itemwise, ih]

/-- Optional types merge where there are two. -/
theorem mergeType_eq (base top : Option TypeKeyword) :
    mergeType base top = optionwise typeOver base top := by
  cases base with
  | none => cases top <;> rfl
  | some old =>
    cases top with
    | none => cases old <;> rfl
    | some new => cases old <;> cases new <;> rfl

/-- Optional lists of literals merge where there are two. -/
theorem mergeEnum_eq (base top : Option (List Json)) :
    mergeEnum base top = optionwise (itemwise Json.merge) base top := by
  cases base with
  | none => cases top <;> rfl
  | some old =>
    cases top with
    | none => rfl
    | some new => exact congrArg some (Json.mergeItems_eq_itemwise old new)

/-- Documented values merge where there are two. -/
theorem mergeExample_eq (base top : Option Json) :
    mergeExample base top = optionwise Json.merge base top := by
  cases base <;> cases top <;> rfl

/-- Optional schemas merge where there are two. -/
theorem mergeSchema?_eq (base top : Option Schema) :
    mergeSchema? base top = optionwise merged base top := by
  cases base <;> cases top <;> rfl

/-- Further properties merge where there are two. -/
theorem mergeAdditional?_eq (base top : Option (Additional Schema)) :
    mergeAdditional? base top = optionwise additionalOver base top := by
  cases top with
  | none => rfl
  | some new =>
    cases base with
    | none => cases new <;> rfl
    | some old => cases old <;> cases new <;> rfl

/-- Optional properties merge where there are two. -/
theorem mergeProperties?_eq (base top : Option (List (String × Schema))) :
    mergeProperties? base top = optionwise (Entries.keywise merged) base top := by
  cases base with
  | none => cases top <;> rfl
  | some old =>
    cases top with
    | none => rfl
    | some new => exact congrArg some (mergeProperties_eq_keywise old new)

/-- Optional lists of schemas merge where there are two. -/
theorem mergeSchemas?_eq (base top : Option (List Schema)) :
    mergeSchemas? base top = optionwise (itemwise merged) base top := by
  cases base with
  | none => cases top <;> rfl
  | some old =>
    cases top with
    | none => rfl
    | some new => exact congrArg some (mergeSchemas_eq_itemwise old new)

/-- A merge lays every keyword over its counterpart. -/
theorem merged_eq (base top : Schema) :
    merged base top =
      { type := optionwise typeOver base.type top.type
        format := optionwise replaceBy base.format top.format
        enum := optionwise (itemwise Json.merge) base.enum top.enum
        exampleValue := optionwise Json.merge base.exampleValue top.exampleValue
        minimum := optionwise replaceBy base.minimum top.minimum
        maximum := optionwise replaceBy base.maximum top.maximum
        minLength := optionwise replaceBy base.minLength top.minLength
        maxLength := optionwise replaceBy base.maxLength top.maxLength
        properties := optionwise (Entries.keywise merged) base.properties top.properties
        additionalProperties :=
          optionwise additionalOver base.additionalProperties top.additionalProperties
        items := optionwise merged base.items top.items
        allOf := optionwise (itemwise merged) base.allOf top.allOf
        oneOf := optionwise (itemwise merged) base.oneOf top.oneOf
        anyOf := optionwise (itemwise merged) base.anyOf top.anyOf
        reference := optionwise replaceBy base.reference top.reference
        refName := optionwise replaceBy base.refName top.refName } := by
  cases top
  simp only [merged, mergeType_eq, mergeEnum_eq, mergeExample_eq, mergeSchema?_eq,
    mergeAdditional?_eq, mergeProperties?_eq, mergeSchemas?_eq, optionwise_replaceBy]

/-! ### The empty schema -/

/-- Over the empty schema a schema stands as it is. -/
theorem merged_empty_left (top : Schema) : merged {} top = top := by
  rw [merged_eq]
  cases top
  simp only [optionwise_none_left]

/-- The empty schema changes nothing. -/
theorem merged_empty_right (base : Schema) : merged base {} = base := by
  rw [merged_eq]
  cases base
  rfl

/-! ### Laying once more -/

/-- No object within a literal has a key twice, neither in the schema nor in one within it. -/
def DistinctLiterals (schema : Schema) : Prop :=
  ∀ node, schema.Holds node → (∀ value ∈ node.enum.getD [], value.DistinctKeys) ∧
    ∀ value, node.exampleValue = some value → value.DistinctKeys

/-- A type keyword changes nothing the second time. -/
theorem repeatable_typeOver (keyword : TypeKeyword) : Repeatable typeOver keyword := by
  cases keyword with
  | single name =>
    rintro (_ | _ | _) <;> rfl
  | multiple names =>
    have again : ∀ old?, overlay (laidOn overlay old? names) names = laidOn overlay old? names := by
      rw [overlay_eq_itemwise]
      exact repeatable_itemwise fun name _ => repeatable_replaceBy name
    intro old?
    cases old? with
    | none => exact congrArg TypeKeyword.multiple (again none)
    | some old =>
      cases old with
      | single name => exact congrArg TypeKeyword.multiple (again none)
      | multiple base => exact congrArg TypeKeyword.multiple (again (some base))

/-- Further properties change nothing the second time if their schema does not. -/
theorem repeatable_additionalOver {keyword : Additional Schema}
    (inner : ∀ values, keyword = .schema values → Repeatable merged values) :
    Repeatable additionalOver keyword := by
  cases keyword with
  | allowed value =>
    rintro (_ | _ | _) <;> rfl
  | schema values =>
    have again := inner values rfl
    intro old?
    cases old? with
    | none => exact congrArg Additional.schema (again none)
    | some old =>
      cases old with
      | allowed value => exact congrArg Additional.schema (again none)
      | schema base => exact congrArg Additional.schema (again (some base))

/-- A schema changes nothing the second time. -/
theorem repeatable_merged {top : Schema} (names : DistinctNames top)
    (literals : DistinctLiterals top) : Repeatable merged top := by
  induction names with
  | @intro top own properties additional items allOf oneOf anyOf inProperties inAdditional inItems
      inAllOf inOneOf inAnyOf =>
    obtain ⟨listed, given⟩ := literals top (.root top)
    apply repeatable_of_again (merged_empty_left top)
    intro base
    have replaced : ∀ {α : Type} (base top : Option α),
        optionwise replaceBy (optionwise replaceBy base top) top = optionwise replaceBy base top :=
      fun base top => optionwise_again (fun value _ => repeatable_replaceBy value) base
    have type := optionwise_again fun keyword (_ : top.type = some keyword) =>
      repeatable_typeOver keyword
    have enum := optionwise_itemwise_again fun value member =>
      Json.repeatable_merge (listed value member)
    have exampleValue := optionwise_again fun value found =>
      Json.repeatable_merge (given value found)
    have properties := Entries.optionwise_keywise_again own fun property member =>
      inProperties property member fun node held => literals node (.property member held)
    have additional := optionwise_again fun keyword found =>
      repeatable_additionalOver fun values same =>
        inAdditional values (same ▸ found)
          fun node held => literals node (.additional (same ▸ found) held)
    have items := optionwise_again fun schema found =>
      inItems schema found fun node held => literals node (.items found held)
    have allOf := optionwise_itemwise_again fun member within =>
      inAllOf member within fun node held => literals node (.member within held)
    have oneOf := optionwise_itemwise_again fun alternative within =>
      inOneOf alternative within fun node held => literals node (.oneOf within held)
    have anyOf := optionwise_itemwise_again fun alternative within =>
      inAnyOf alternative within fun node held => literals node (.anyOf within held)
    rw [merged_eq (merged base top) top, merged_eq base top]
    simp only [replaced, type, enum, exampleValue, properties, additional, items, allOf, oneOf,
      anyOf]

/-- A schema with nothing but one composed member is compiled like the member. -/
theorem generator_of_member (options : Options) (key : Option String) (member : Schema) :
    generator options key { allOf := some [member] } = member.generator options key := by
  have unnamed : registryName options { allOf := some [member] } = none := by
    unfold registryName
    split <;> rfl
  have composed : rule options { allOf := some [member] } = .composition [member] := by
    simp only [rule, unnamed, keywordRule]
  have alone : mergeAll [member] = member := merged_empty_left member
  rw [generator_eq, composed]
  change (mergeAll [member]).generator options key = _
  rw [alone]

/-- The algebra of merging. The empty schema is neutral on both sides. Where no map has a key twice,
laying a schema over itself, or once more over what it was laid on, changes nothing, and neither
does laying a value. So a schema with nothing but one composed member is compiled like the
member. -/
theorem merging_laws :
    (∀ schema : Schema, merged {} schema = schema ∧ merged schema {} = schema) ∧
    (∀ schema, DistinctNames schema → DistinctLiterals schema → merged schema schema = schema ∧
      ∀ base, merged (merged base schema) schema = merged base schema) ∧
    (∀ value : Json, value.DistinctKeys → Json.merge value value = value ∧
      ∀ base, Json.merge (Json.merge base value) value = Json.merge base value) ∧
    ∀ options key (member : Schema),
      generator options key { allOf := some [member] } = member.generator options key := by
  refine ⟨fun schema => ⟨merged_empty_left schema, merged_empty_right schema⟩, ?_, ?_,
    generator_of_member⟩
  · intro schema names literals
    have again := repeatable_merged names literals
    exact ⟨again none, fun base => again (some base)⟩
  · intro value distinct
    have again := Json.repeatable_merge distinct
    exact ⟨again none, fun base => again (some base)⟩

/-- A dog has a name and a documented value. -/
def dogSchema : Schema :=
  { type := some (.multiple ["object", "null"])
    exampleValue := some (.obj [("name", .str "Rex")])
    properties := some [("name", ofType "string")] }

/-- An animal has a name too, and legs. -/
def animalSchema : Schema :=
  { type := some (.multiple ["array"])
    properties := some [("legs", ofType "integer"), ("name", { format := some "uuid" })] }

/-- No map in the schema of dogs has a key twice. -/
theorem distinct_dogSchema : DistinctNames dogSchema ∧ DistinctLiterals dogSchema := by
  constructor
  · refine .intro (by decide) (fun property listed => ?_) nofun nofun nofun nofun nofun
    obtain rfl := List.mem_singleton.mp listed
    exact .intro List.nodup_nil nofun nofun nofun nofun nofun nofun
  · intro node held
    cases held with
    | root =>
      refine ⟨nofun, fun value found => ?_⟩
      cases found
      simp (disch := decide) [Json.distinctKeys_obj_iff, Entries.keys,
        Json.distinctKeys_of_isScalar]
    | property listed inner =>
      obtain rfl := List.mem_singleton.mp listed
      cases inner with
      | root => exact ⟨nofun, nofun⟩
      | property listed | member listed | oneOf listed | anyOf listed => cases listed
      | additional found | items found => cases found
    | member listed | oneOf listed | anyOf listed => cases listed
    | additional found | items found => cases found

/-- Dogs laid over animals are the same when they are laid once more. -/
theorem merging_laws_dogSchema :
    (DistinctNames dogSchema ∧ DistinctLiterals dogSchema) ∧
      merged dogSchema dogSchema = dogSchema ∧
      merged (merged animalSchema dogSchema) dogSchema = merged animalSchema dogSchema ∧
      (merged animalSchema dogSchema).type = some (.multiple ["object", "null"]) ∧
      (merged animalSchema dogSchema).properties =
        some [("legs", ofType "integer"),
          ("name", { type := some (.single "string"), format := some "uuid" })] := by
  obtain ⟨names, literals⟩ := distinct_dogSchema
  obtain ⟨-, laws, -, -⟩ := merging_laws
  obtain ⟨same, again⟩ := laws dogSchema names literals
  exact ⟨⟨names, literals⟩, same, again animalSchema, rfl, rfl⟩

end Schema

end ApiMock
