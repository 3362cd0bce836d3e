import ApiMock.Proofs.Layers
import ApiMock.Proofs.Schema.Merge
/-!
# Merging any number of schemas

A composition merges its members one after the other, beginning with the empty schema. Every
keyword of the result is stacked from what the members declare under it (`read_mergeAll`). So the
last member that declares a keyword decides it where nothing merges, and a property, the items and
each place of a list of schemas are the merge of what the members have there, in their order
(`foldsMembers_mergeAll`).
-/
namespace ApiMock.Schema

variable {α : Type}

/-! ### What members declare -/

/-- What the last of the members that declare something declares. -/
def lastOf (members : List Schema) (keyword : Schema → Option α) : Option α :=
  (members.filterMap keyword).getLast?

/-- The merge of all schemas that members have at a place, if any of them has one there. -/
def mergeOf (members : List Schema) (place : Schema → Option Schema) : Option Schema :=
  match members.filterMap place with
  | [] => none
  | found => some (mergeAll found)

/-- The names of the properties of a schema, in order. -/
def propertyNames (schema : Schema) : List String := Entries.keys (schema.properties.getD [])

/-- The schema of a property. -/
def property? (name : String) (schema : Schema) : Option Schema :=
  schema.properties.bind (Entries.get? · name)

/-- The length of a list of schemas, if there is one. -/
def length? (list : Schema → Option (List Schema)) (schema : Schema) : Option Nat :=
  (list schema).map List.length

/-- The schema at a place of a list of schemas. -/
def place? (list : Schema → Option (List Schema)) (place : Nat) (schema : Schema) :
    Option Schema :=
  (list schema).bind (·[place]?)

/-- A list of schemas is as long as the longest one of the members, and at each place the schemas of
the members are merged. -/
structure FoldsList (members : List Schema) (whole : Schema)
    (list : Schema → Option (List Schema)) : Prop where
  /-- There is a list if a member has one, and the longest one decides its length. -/
  length : length? list whole = (members.filterMap (length? list)).max?
  /-- The schemas at a place merge. -/
  place : ∀ place, place? list place whole = mergeOf members (place? list place)

/-- A schema is what members declare, keyword by keyword. -/
structure FoldsMembers (members : List Schema) (whole : Schema) : Prop where
  /-- The last format counts. -/
  format : whole.format = lastOf members format
  /-- The last least number counts. -/
  minimum : whole.minimum = lastOf members minimum
  /-- The last greatest number counts. -/
  maximum : whole.maximum = lastOf members maximum
  /-- The last least length counts. -/
  minLength : whole.minLength = lastOf members minLength
  /-- The last greatest length counts. -/
  maxLength : whole.maxLength = lastOf members maxLength
  /-- The last pointer counts. -/
  reference : whole.reference = lastOf members reference
  /-- The last mark of an expansion counts. -/
  refName : whole.refName = lastOf members refName
  /-- There are properties if a member has some, be it none at all. -/
  properties : whole.properties = none ↔ ∀ member ∈ members, member.properties = none
  /-- The names are those of all members, in the order in which they come up first. -/
  names : whole.propertyNames = (members.flatMap propertyNames).eraseDups
  /-- The schemas of a property merge. -/
  property : ∀ name, property? name whole = mergeOf members (property? name)
  /-- The schemas of items merge. -/
  items : whole.items = mergeOf members items
  /-- Compositions merge place by place. -/
  allOf : FoldsList members whole allOf
  /-- Alternatives merge place by place. -/
  oneOf : FoldsList members whole oneOf
  /-- Alternatives of the other kind merge place by place. -/
  anyOf : FoldsList members whole anyOf

/-! ### One keyword of all members -/

/-- Of values that replace each other the last one is left. -/
theorem stacked_replaceBy (values : List α) : stacked replaceBy values = values.getLast? := by
  induction values using List.reverseRecOn with
  | nil => rfl
  | append_singleton values last _ =>
    rw [stacked_append_singleton, List.getLast?_concat]
    cases stacked replaceBy values <;> rfl

/-- Schemas that are laid over each other are merged beginning with the empty schema. -/
theorem stacked_merged (members : List Schema) (place : Schema → Option Schema) :
    stacked merged (members.filterMap place) = mergeOf members place := by
  unfold mergeOf
  cases members.filterMap place with
  | nil => rfl
  | cons first rest =>
    change some (rest.foldl merged first) = some (rest.foldl merged (merged {} first))
    rw [merged_empty_left]

variable {members : List Schema}

/-- What is read off the merge of members is stacked from what is read off the members, if it is so
for each member upon any schema, and nothing is read off the empty schema. -/
theorem read_mergeAll {lay : α → α → α} {read : Schema → Option α} (nothing : read {} = none)
    (reads : ∀ member ∈ members, ∀ base,
      read (merged base member) = optionwise lay (read base) (read member)) :
    read (mergeAll members) = stacked lay (members.filterMap read) := by
  unfold mergeAll
  rw [read_foldl reads, nothing]
  rfl

/-- A keyword that replaces what was there is that of the last member that declares it. -/
theorem replaced_mergeAll {keyword : Schema → Option α} (nothing : keyword {} = none)
    (replaces : ∀ base top,
      keyword (merged base top) = optionwise replaceBy (keyword base) (keyword top)) :
    keyword (mergeAll members) = lastOf members keyword := by
  rw [read_mergeAll nothing fun member _ base => replaces base member, stacked_replaceBy]
  rfl

/-- A list of schemas that merges place by place folds the lists of all members. -/
theorem foldsList_mergeAll {list : Schema → Option (List Schema)} (nothing : list {} = none)
    (merges : ∀ base top,
      list (merged base top) = optionwise (itemwise merged) (list base) (list top)) :
    FoldsList members (mergeAll members) list where
  length := by
    have empty : length? list {} = none := congrArg (Option.map List.length) nothing
    have longer : ∀ base top,
        length? list (merged base top) = optionwise max (length? list base) (length? list top) := by
      intro base top
      rw [length?, merges]
      exact map_optionwise length_itemwise (list base) (list top)
    rw [read_mergeAll empty fun member _ base => longer base member]
    cases members.filterMap (length? list) <;> rfl
  place place := by
    have empty : place? list place {} = none := congrArg (Option.bind · (·[place]?)) nothing
    have merging : ∀ base top, place? list place (merged base top) =
        optionwise merged (place? list place base) (place? list place top) := by
      intro base top
      rw [place?, merges]
      exact bind_optionwise (fun top _ base => getElem?_itemwise base top place) (list base)
    rw [read_mergeAll empty fun member _ base => merging base member, stacked_merged]

/-- The properties of a merge are stacked from those of the members. -/
theorem properties_mergeAll (members : List Schema) :
    (mergeAll members).properties =
      stacked (Entries.keywise merged) (members.filterMap properties) := by
  refine read_mergeAll rfl fun member _ base => ?_
  rw [merged_eq]

/-- The names of all properties, whether or not a schema has any. -/
theorem flatMap_propertyNames (members : List Schema) :
    members.flatMap propertyNames = (members.filterMap properties).flatMap Entries.keys := by
  induction members with
  | nil => rfl
  | cons member rest ih =>
    rw [List.flatMap_cons, ih, propertyNames]
    cases declared : member.properties with
    | none =>
      rw [List.filterMap_cons_none declared]
      rfl
    | some entries =>
      rw [List.filterMap_cons_some declared]
      rfl

/-- Where no property is named twice, no key of the properties is repeated. -/
theorem nodup_keys_of_properties {schema : Schema} {entries : Entries Schema}
    (declared : schema.properties = some entries) (distinct : schema.propertyNames.Nodup) :
    entries.keys.Nodup := by
  rwa [propertyNames, declared] at distinct

/-- The merge of members, of which none names a property twice, is what they declare, keyword by
keyword: the last declaration counts where nothing merges, properties come in the order in which
members name them first, and the schemas of one property, of items and of one place of a list
merge in the order of the members. -/
theorem foldsMembers_mergeAll (members : List Schema)
    (distinct : ∀ member ∈ members, member.propertyNames.Nodup) :
    FoldsMembers members (mergeAll members) where
  format := replaced_mergeAll rfl fun base top => by rw [merged_eq]
  minimum := replaced_mergeAll rfl fun base top => by rw [merged_eq]
  maximum := replaced_mergeAll rfl fun base top => by rw [merged_eq]
  minLength := replaced_mergeAll rfl fun base top => by rw [merged_eq]
  maxLength := replaced_mergeAll rfl fun base top => by rw [merged_eq]
  reference := replaced_mergeAll rfl fun base top => by rw [merged_eq]
  refName := replaced_mergeAll rfl fun base top => by rw [merged_eq]
  properties := by
    rw [properties_mergeAll, stacked_eq_none_iff, List.filterMap_eq_nil_iff]
  names := by
    have each : ∀ entries ∈ members.filterMap Schema.properties, (Entries.keys entries).Nodup := by
      intro entries listed
      obtain ⟨member, within, declared⟩ := List.mem_filterMap.mp listed
      exact nodup_keys_of_properties declared (distinct member within)
    rw [propertyNames, properties_mergeAll, Entries.keys_stacked_keywise each,
      flatMap_propertyNames]
  property name := by
    have merging : ∀ member ∈ members, ∀ base, property? name (merged base member) =
        optionwise merged (property? name base) (property? name member) := by
      intro member listed base
      rw [property?, merged_eq]
      refine bind_optionwise (fun top declared base => ?_) _
      have own := nodup_keys_of_properties declared (distinct member listed)
      exact Entries.get?_keywise own base name
    have nothing : property? name {} = none := rfl
    rw [read_mergeAll nothing merging, stacked_merged]
  items := by
    have merging : ∀ base top : Schema,
        (merged base top).items = optionwise merged base.items top.items := fun base top => by
      rw [merged_eq]
    rw [read_mergeAll rfl fun member _ base => merging base member, stacked_merged]
  allOf := foldsList_mergeAll rfl fun base top => by rw [merged_eq]
  oneOf := foldsList_mergeAll rfl fun base top => by rw [merged_eq]
  anyOf := foldsList_mergeAll rfl fun base top => by rw [merged_eq]

/-- A pet, something with a tag, and a cat, which declare in part the same. -/
def catMembers : List Schema :=
  [{ format := some "pet", oneOf := some [ofType "string"]
     properties := some [("id", ofType "integer"), ("name", { minLength := some 1 })] },
   { minLength := some 2, oneOf := some [{ format := some "uuid" }, ofType "null"]
     properties := some [("tag", ofType "string"), ("name", ofType "string")] },
   { format := some "cat", items := some (ofType "string")
     properties := some [("lives", ofType "integer"), ("name", { format := some "email" })] }]

/-- The merge of the three has each property once, and the schemas of the name merge. -/
theorem foldsMembers_mergeAll_catMembers :
    (∀ member ∈ catMembers, member.propertyNames.Nodup) ∧
      FoldsMembers catMembers (mergeAll catMembers) ∧
      (mergeAll catMembers).format = some "cat" ∧
      (mergeAll catMembers).propertyNames = ["id", "name", "tag", "lives"] ∧
      property? "name" (mergeAll catMembers) =
        some { type := some (.single "string"), format := some "email", minLength := some 1 } ∧
      (mergeAll catMembers).oneOf =
        some [{ type := some (.single "string"), format := some "uuid" }, ofType "null"] := by
  have distinct : ∀ member ∈ catMembers, member.propertyNames.Nodup := by decide
  exact ⟨distinct, foldsMembers_mergeAll catMembers distinct, rfl, rfl, rfl, rfl⟩

end ApiMock.Schema
