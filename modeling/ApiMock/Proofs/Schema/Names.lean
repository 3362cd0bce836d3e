import ApiMock.Proofs.Json.Position
import ApiMock.Proofs.Schema.Compiling
import ApiMock.Proofs.Schema.Composition
import ApiMock.Proofs.Schema.Documented
/-!
# Names of properties

Properties are listed, and a list could name one of them twice. What is read off a document does
not, since an object has each of its keys once, and merging writes a property over the one of the
same name. So the schemas that the compiler goes on to name no property twice if the schema that it
started from names none twice.
-/
namespace ApiMock.Schema

/-- No property is named twice, neither by the schema nor by one within it. -/
inductive DistinctNames : Schema → Prop
  /-- The names of the schema are distinct, and so are those of all its sub-schemas. -/
  | intro {schema : Schema} (own : (Entries.keys (schema.properties.getD [])).Nodup)
      (properties : ∀ property ∈ schema.properties.getD [], DistinctNames property.2)
      (additional : ∀ values, schema.additionalProperties = some (.schema values) →
        DistinctNames values)
      (items : ∀ items, schema.items = some items → DistinctNames items)
      (allOf : ∀ member ∈ schema.allOf.getD [], DistinctNames member)
      (oneOf : ∀ alternative ∈ schema.oneOf.getD [], DistinctNames alternative)
      (anyOf : ∀ alternative ∈ schema.anyOf.getD [], DistinctNames alternative) :
      DistinctNames schema

/-! ### Merging -/

section

variable {claim : Schema → Prop}

/-- What holds of the properties of both sides, and of a property laid over one of which it holds,
holds of all merged properties. -/
theorem forall_mergeProperties {base top : List (String × Schema)}
    (inBase : ∀ property ∈ base, claim property.2) (inTop : ∀ property ∈ top, claim property.2)
    (merges : ∀ property ∈ top, ∀ old, claim old → claim (merged old property.2)) :
    ∀ property ∈ mergeProperties base top, claim property.2 := by
  induction top generalizing base with
  | nil => exact inBase
  | cons entry rest ih =>
    obtain ⟨name, schema⟩ := entry
    refine ih ?_ (fun property later => inTop property (List.mem_cons_of_mem _ later))
      fun property later => merges property (List.mem_cons_of_mem _ later)
    intro property listed
    rcases Entries.mem_insert listed with rfl | before
    · cases found : Entries.get? base name with
      | none => exact inTop _ List.mem_cons_self
      | some old => exact merges _ List.mem_cons_self old (inBase _ (Entries.mem_of_get? found))
    · exact inBase property before

/-- The same for optional properties. -/
theorem forall_mergeProperties? {base top : Option (List (String × Schema))}
    (inBase : ∀ property ∈ base.getD [], claim property.2)
    (inTop : ∀ property ∈ top.getD [], claim property.2)
    (merges : ∀ property ∈ top.getD [], ∀ old, claim old → claim (merged old property.2)) :
    ∀ property ∈ (mergeProperties? base top).getD [], claim property.2 := by
  cases top with
  | none => exact inBase
  | some new =>
    cases base with
    | none => exact inTop
    | some old => exact forall_mergeProperties inBase inTop merges

/-- What holds of the schemas of both sides, and of a schema laid over one of which it holds, holds
of all schemas of merged lists. -/
theorem forall_mergeSchemas? {base top : Option (List Schema)}
    (inBase : ∀ schema ∈ base.getD [], claim schema)
    (inTop : ∀ schema ∈ top.getD [], claim schema)
    (merges : ∀ schema ∈ top.getD [], ∀ old, claim old → claim (merged old schema)) :
    ∀ schema ∈ (mergeSchemas? base top).getD [], claim schema := by
  cases top with
  | none => exact inBase
  | some new =>
    cases base with
    | none => exact inTop
    | some old =>
      intro schema listed
      rcases mem_mergeSchemas listed with left | right | ⟨first, left, second, right, rfl⟩
      · exact inBase schema left
      · exact inTop schema right
      · exact merges second right first (inBase first left)

end

/-- Merged properties have distinct names if those of the base are distinct. -/
theorem nodup_keys_mergeProperties {base : List (String × Schema)}
    (distinct : (Entries.keys base).Nodup) (top : List (String × Schema)) :
    (Entries.keys (mergeProperties base top)).Nodup := by
  induction top generalizing base with
  | nil => exact distinct
  | cons entry rest ih => exact ih (Entries.nodup_keys_insert distinct _ _)

/-- The same for optional properties, of which both sides have distinct names. -/
theorem nodup_keys_mergeProperties? {base top : Option (List (String × Schema))}
    (left : (Entries.keys (base.getD [])).Nodup) (right : (Entries.keys (top.getD [])).Nodup) :
    (Entries.keys ((mergeProperties? base top).getD [])).Nodup := by
  cases top with
  | none => exact left
  | some new =>
    cases base with
    | none => exact right
    | some old => exact nodup_keys_mergeProperties left new

namespace DistinctNames

/-- A merge names no property twice if its sides do not. -/
theorem merged {base top : Schema} (left : DistinctNames base) (right : DistinctNames top) :
    DistinctNames (Schema.merged base top) := by
  induction right generalizing base with
  | @intro top own properties additional items allOf oneOf anyOf inProperties inAdditional inItems
      inAllOf inOneOf inAnyOf =>
    obtain ⟨own', properties', additional', items', allOf', oneOf', anyOf'⟩ := left
    obtain ⟨_, _, _, _, _, _, _, _, _, further, item, _, _, _, _, _⟩ := top
    refine .intro (nodup_keys_mergeProperties? own' own) ?_ ?_ ?_ ?_ ?_ ?_
    · exact forall_mergeProperties? properties' properties
        fun property listed old holds => inProperties property listed holds
    · intro values merges
      simp only [Schema.merged] at merges
      unfold mergeAdditional? at merges
      split at merges
      · exact additional' values merges
      · cases merges
      · rename_i old new overlaid
        cases merges
        exact inAdditional new rfl (additional' old overlaid)
      · rename_i new _ _
        cases merges
        exact additional values rfl
    · intro inner merges
      simp only [Schema.merged] at merges
      unfold mergeSchema? at merges
      split at merges
      · exact items' inner merges
      · rename_i new _
        exact items inner merges
      · rename_i old new overlaid
        cases merges
        exact inItems new rfl (items' old overlaid)
    · exact forall_mergeSchemas? allOf' allOf fun schema listed old holds =>
        inAllOf schema listed holds
    · exact forall_mergeSchemas? oneOf' oneOf fun schema listed old holds =>
        inOneOf schema listed holds
    · exact forall_mergeSchemas? anyOf' anyOf fun schema listed old holds =>
        inAnyOf schema listed holds

/-- The empty schema names no property. -/
theorem empty : DistinctNames {} :=
  .intro List.nodup_nil nofun nofun nofun nofun nofun nofun

/-- The merge of any number of schemas names no property twice if none of them does. -/
theorem mergeAll {schemas : List Schema} (each : ∀ schema ∈ schemas, DistinctNames schema) :
    DistinctNames (Schema.mergeAll schemas) :=
  mergeAll_induction empty merged each

/-- A schema with one type in place of its own names the same properties. -/
theorem withType {schema : Schema} (distinct : DistinctNames schema) (name : String) :
    DistinctNames (schema.withType name) := by
  obtain ⟨own, properties, additional, items, allOf, oneOf, anyOf⟩ := distinct
  exact .intro own properties additional items allOf oneOf anyOf

end DistinctNames

/-- What the compiler calls for names no property twice if the schema that it compiles does not. -/
theorem Calls.distinctNames {options : Options} {inner outer : Option String × Schema}
    (call : Calls options inner outer) (distinct : outer.2.DistinctNames) :
    inner.2.DistinctNames := by
  cases call with
  | type applies listed => exact distinct.withType _
  | merge applies =>
    obtain ⟨-, -, -, -, allOf, -, -⟩ := distinct
    refine .mergeAll fun member listed => allOf member ?_
    rw [allOf_of_rule applies]
    exact listed
  | @alternative key schema alternative schemas applies listed =>
    obtain ⟨-, -, -, -, -, oneOf, anyOf⟩ := distinct
    have either := oneOf_of_rule applies
    cases first : schema.oneOf with
    | some alternatives =>
      rw [first] at either oneOf
      cases either
      exact oneOf alternative listed
    | none =>
      rw [first, Option.none_or] at either
      rw [either] at anyOf
      exact anyOf alternative listed
  | values applies =>
    obtain ⟨-, -, additional, -, -, -, -⟩ := distinct
    exact additional _ (additional_of_rule applies)
  | property applies listed =>
    obtain ⟨-, properties, -, -, -, -, -⟩ := distinct
    exact properties _ (properties_of_rule applies ▸ listed)
  | items applies =>
    obtain ⟨-, -, -, items, -, -, -⟩ := distinct
    exact items _ (items_of_rule applies).symm

/-! ### Reading -/

/-- A keyword without schemas under it brings no property. -/
theorem distinctNames_of_setPlain {schema next : Schema} {keyword : Keyword} {value : Json}
    (distinct : schema.DistinctNames) (read : schema.setPlain keyword value = .ok next) :
    next.DistinctNames := by
  obtain ⟨own, properties, additional, items, allOf, oneOf, anyOf⟩ := distinct
  cases keyword with
  | properties | items | allOf | oneOf | anyOf => cases read
  | exampleValue =>
    cases read
    exact .intro own properties additional items allOf oneOf anyOf
  | additionalProperties =>
    cases value with
    | bool allowed =>
      cases read
      exact .intro own properties nofun items allOf oneOf anyOf
    | _ => cases read
  | _ =>
    obtain ⟨part, -, rfl⟩ := exists_of_map read
    exact .intro own properties additional items allOf oneOf anyOf

/-- The schema of further properties is put into a schema as it was read. -/
theorem distinctNames_of_setAdditional {schema next : Schema}
    {values : Except DecodeError Schema} (distinct : schema.DistinctNames)
    (inner : ∀ read, values = .ok read → read.DistinctNames)
    (written : schema.setAdditional values = .ok next) : next.DistinctNames := by
  obtain ⟨own, properties, -, items, allOf, oneOf, anyOf⟩ := distinct
  cases values with
  | error cause => cases written
  | ok values =>
    cases written
    refine .intro own properties ?_ items allOf oneOf anyOf
    rintro read ⟨⟩
    exact inner _ rfl

/-- A value is read without naming a property twice, as a schema and under any keyword. -/
structure ReadsDistinct (value : Json) : Prop where
  /-- The schema that the value describes names no property twice. -/
  schema : ∀ {schema}, ofJson value = .ok schema → schema.DistinctNames
  /-- Put under a keyword of a schema, the value brings no property twice. -/
  keyword : ∀ {schema next keyword}, schema.DistinctNames →
    setKeyword schema keyword value = .ok next → next.DistinctNames

/-- Members that are read one by one bring no property twice if each of them does not. -/
theorem distinctNames_of_ofMembers {schema result : Schema} {members : List (String × Json)}
    (each : ∀ member ∈ members, ReadsDistinct member.2) (distinct : schema.DistinctNames)
    (read : ofMembers schema members = .ok result) : result.DistinctNames := by
  induction members generalizing schema with
  | nil =>
    cases read
    exact distinct
  | cons member rest ih =>
    obtain ⟨key, value⟩ := member
    have later : ∀ member ∈ rest, ReadsDistinct member.2 :=
      fun member listed => each member (List.mem_cons_of_mem _ listed)
    cases known : Keyword.ofKey? key with
    | none =>
      rw [ofMembers_cons_of_unknown known] at read
      exact ih later distinct read
    | some keyword =>
      rw [ofMembers_cons known] at read
      obtain ⟨next, first, onward⟩ := exists_of_bind read
      exact ih later ((each _ List.mem_cons_self).keyword distinct first) onward

/-- Items that are read one by one bring no property twice if each of them does not. -/
theorem distinctNames_of_ofItems {schema result : Schema} {length : Nat} {keywords : List Keyword}
    {items : List Json} (each : ∀ item ∈ items, ReadsDistinct item)
    (distinct : schema.DistinctNames) (read : ofItems schema length keywords items = .ok result) :
    result.DistinctNames := by
  induction keywords generalizing schema items with
  | nil =>
    cases items with
    | nil =>
      cases read
      exact distinct
    | cons value rest => cases read
  | cons keyword keywords ih =>
    cases items with
    | nil => cases read
    | cons value rest =>
      have later : ∀ item ∈ rest, ReadsDistinct item :=
        fun item listed => each item (List.mem_cons_of_mem _ listed)
      rw [ofItems_cons] at read
      obtain ⟨next, first, onward⟩ := exists_of_bind read
      exact ih later ((each _ List.mem_cons_self).keyword distinct first) onward

/-- The schemas of a list name no property twice if each of the values does not. -/
theorem distinctNames_of_ofList {items : List Json} {schemas : List Schema}
    (each : ∀ item ∈ items, ReadsDistinct item) (read : ofList items = .ok schemas) :
    ∀ schema ∈ schemas, schema.DistinctNames := by
  induction items generalizing schemas with
  | nil =>
    cases read
    nofun
  | cons value rest ih =>
    rw [ofList] at read
    split at read
    · rename_i first readFirst
      cases onward : ofList rest with
      | error cause =>
        rw [onward] at read
        cases read
      | ok others =>
        rw [onward] at read
        cases read
        have later : ∀ schema ∈ others, schema.DistinctNames :=
          ih (fun item listed => each item (List.mem_cons_of_mem _ listed)) onward
        exact List.forall_mem_cons.mpr ⟨(each _ List.mem_cons_self).schema readFirst, later⟩
    · cases read

/-- Properties are read with their names, and they name no property twice if their values do not. -/
theorem distinctNames_of_ofProperties {members : List (String × Json)}
    {properties : List (String × Schema)} (each : ∀ member ∈ members, ReadsDistinct member.2)
    (read : ofProperties members = .ok properties) :
    Entries.keys properties = Entries.keys members ∧
      ∀ property ∈ properties, property.2.DistinctNames := by
  induction members generalizing properties with
  | nil =>
    cases read
    exact ⟨rfl, nofun⟩
  | cons member rest ih =>
    obtain ⟨name, value⟩ := member
    rw [ofProperties] at read
    split at read
    · rename_i first readFirst
      cases onward : ofProperties rest with
      | error cause =>
        rw [onward] at read
        cases read
      | ok others =>
        rw [onward] at read
        cases read
        obtain ⟨names, later⟩ :=
          ih (fun member listed => each member (List.mem_cons_of_mem _ listed)) onward
        exact ⟨congrArg (List.cons name) names, List.forall_mem_cons.mpr
          ⟨(each _ List.mem_cons_self).schema readFirst, later⟩⟩
    · cases read

/-- An array is read without naming a property twice if its items are. -/
theorem readsDistinct_arr {items : List Json} (each : ∀ item ∈ items, ReadsDistinct item) :
    ReadsDistinct (.arr items) := by
  have asSchema : ∀ {schema}, ofItems {} items.length Keyword.all items = .ok schema →
      schema.DistinctNames := distinctNames_of_ofItems each .empty
  refine ⟨asSchema, fun {schema next keyword} names read => ?_⟩
  have plain := @distinctNames_of_setPlain schema next keyword (.arr items) names
  obtain ⟨own, properties, additional, items, allOf, oneOf, anyOf⟩ := id names
  cases keyword with
  | additionalProperties => exact distinctNames_of_setAdditional names (fun _ => asSchema) read
  | items =>
    obtain ⟨part, inner, rfl⟩ := exists_of_map read
    refine .intro own properties additional ?_ allOf oneOf anyOf
    rintro _ ⟨⟩
    exact asSchema inner
  | allOf =>
    obtain ⟨schemas, inner, rfl⟩ := exists_of_map read
    exact .intro own properties additional items (distinctNames_of_ofList each inner) oneOf anyOf
  | oneOf =>
    obtain ⟨schemas, inner, rfl⟩ := exists_of_map read
    exact .intro own properties additional items allOf (distinctNames_of_ofList each inner) anyOf
  | anyOf =>
    obtain ⟨schemas, inner, rfl⟩ := exists_of_map read
    exact .intro own properties additional items allOf oneOf (distinctNames_of_ofList each inner)
  | _ => exact plain (by simpa only [setKeyword] using read)

/-- An object with distinct keys is read without naming a property twice if its values are. -/
theorem readsDistinct_obj {members : List (String × Json)} (keys : (Entries.keys members).Nodup)
    (each : ∀ member ∈ members, ReadsDistinct member.2) : ReadsDistinct (.obj members) := by
  have asSchema : ∀ {schema}, ofMembers {} members = .ok schema → schema.DistinctNames :=
    distinctNames_of_ofMembers each .empty
  refine ⟨asSchema, fun {schema next keyword} names read => ?_⟩
  have plain := @distinctNames_of_setPlain schema next keyword (.obj members) names
  obtain ⟨own, properties, additional, items, allOf, oneOf, anyOf⟩ := id names
  cases keyword with
  | additionalProperties => exact distinctNames_of_setAdditional names (fun _ => asSchema) read
  | items =>
    obtain ⟨part, inner, rfl⟩ := exists_of_map read
    refine .intro own properties additional ?_ allOf oneOf anyOf
    rintro _ ⟨⟩
    exact asSchema inner
  | properties =>
    obtain ⟨part, inner, rfl⟩ := exists_of_map read
    obtain ⟨sameKeys, parts⟩ := distinctNames_of_ofProperties each inner
    exact .intro (sameKeys ▸ keys) parts additional items allOf oneOf anyOf
  | _ => exact plain (by simpa only [setKeyword] using read)

/-- The schema that a value with distinct keys describes names no property twice. -/
theorem distinctNames_of_ofJson {value : Json} {schema : Schema} (distinct : value.DistinctKeys)
    (read : ofJson value = .ok schema) : schema.DistinctNames := by
  suffices reads : ReadsDistinct value from reads.schema read
  clear read
  induction value using Json.induction with
  | null =>
    refine ⟨nofun, fun names read => ?_⟩
    cases read
    exact names
  | arr items ih =>
    exact readsDistinct_arr fun item listed =>
      ih item listed (Json.distinctKeys_arr_iff.mp distinct item listed)
  | obj members ih =>
    obtain ⟨keys, inner⟩ := Json.distinctKeys_obj_iff.mp distinct
    exact readsDistinct_obj keys fun member listed => ih member listed (inner member listed)
  | _ => exact ⟨nofun, distinctNames_of_setPlain⟩

end ApiMock.Schema
