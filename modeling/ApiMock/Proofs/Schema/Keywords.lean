import ApiMock.Proofs.Entries
import ApiMock.Proofs.Schema.Marking
/-!
# What reading a keyword writes

Reading one keyword off a value leaves a schema as it is or writes the field of the keyword, and no
other (`Sets`). So what a field holds after a description was read is what counts of the values under
its own key, the last one of them first (`OwnField.ofMembers`), or of the item at its place in the
list form (`OwnField.ofItems`), however the other keywords come in between.
-/
namespace ApiMock.Schema

/-! ### One keyword -/

/-- What reading a keyword off a value makes of a schema. -/
inductive Sets (schema : Schema) : Keyword → Json → Schema → Prop
  /-- Null counts as an absent keyword. -/
  | null (keyword : Keyword) : Sets schema keyword .null schema
  | type {value : Json} (type : TypeKeyword) :
      Sets schema .type value { schema with type := some type }
  | format {value : Json} (format : String) :
      Sets schema .format value { schema with format := some format }
  | enum {value : Json} (values : List Json) :
      Sets schema .enum value { schema with enum := some values }
  /-- A documented value is kept as it stands. -/
  | exampleValue {value : Json} (present : value ≠ .null) :
      Sets schema .exampleValue value { schema with exampleValue := some value }
  | minimum {value : Json} (minimum : Binary64) :
      Sets schema .minimum value { schema with minimum := some minimum }
  | maximum {value : Json} (maximum : Binary64) :
      Sets schema .maximum value { schema with maximum := some maximum }
  | minLength {value : Json} (least : Nat) :
      Sets schema .minLength value { schema with minLength := some least }
  | maxLength {value : Json} (greatest : Nat) :
      Sets schema .maxLength value { schema with maxLength := some greatest }
  | properties {value : Json} (properties : List (String × Schema)) :
      Sets schema .properties value { schema with properties := some properties }
  | additionalProperties {value : Json} (further : Additional Schema) :
      Sets schema .additionalProperties value { schema with additionalProperties := some further }
  | items {value : Json} (items : Schema) :
      Sets schema .items value { schema with items := some items }
  | allOf {value : Json} (schemas : List Schema) :
      Sets schema .allOf value { schema with allOf := some schemas }
  | oneOf {value : Json} (schemas : List Schema) :
      Sets schema .oneOf value { schema with oneOf := some schemas }
  | anyOf {value : Json} (schemas : List Schema) :
      Sets schema .anyOf value { schema with anyOf := some schemas }
  /-- A pointer is a string. -/
  | reference (pointer : String) :
      Sets schema .reference (.str pointer) { schema with reference := some pointer }
  /-- A mark is a string. -/
  | refName (name : String) :
      Sets schema .refName (.str name) { schema with refName := some name }

/-- What is read and then changed was read. -/
theorem exists_of_map {α β : Type} {source : Except DecodeError α} {change : α → β} {result : β}
    (read : source.map change = .ok result) : ∃ part, source = .ok part ∧ change part = result := by
  cases source with
  | error cause => cases read
  | ok part => exact ⟨part, rfl, Except.ok.inj read⟩

/-- Only strings are read as texts. -/
theorem eq_str_of_decodeText {value : Json} {text : String} (read : value.decodeText = .ok text) :
    value = .str text := by
  cases value <;> cases read
  rfl

variable {schema next result : Schema} {keyword : Keyword} {value : Json}

/-- What a keyword without schemas under it writes. -/
theorem sets_of_setPlain (present : value ≠ .null)
    (read : schema.setPlain keyword value = .ok next) : Sets schema keyword value next := by
  cases keyword with
  | properties | items | allOf | oneOf | anyOf => cases read
  | exampleValue =>
    cases read
    exact .exampleValue present
  | additionalProperties =>
    cases value <;> cases read
    exact .additionalProperties _
  | reference =>
    obtain ⟨pointer, text, rfl⟩ := exists_of_map read
    obtain rfl := eq_str_of_decodeText text
    exact .reference pointer
  | refName =>
    obtain ⟨name, text, rfl⟩ := exists_of_map read
    obtain rfl := eq_str_of_decodeText text
    exact .refName name
  | _ =>
    obtain ⟨part, -, rfl⟩ := exists_of_map read
    constructor

/-- What a schema of further properties writes. -/
theorem sets_of_setAdditional {values : Except DecodeError Schema}
    (read : schema.setAdditional values = .ok next) :
    Sets schema .additionalProperties value next := by
  cases values with
  | error cause => cases read
  | ok values =>
    cases read
    exact .additionalProperties _

/-- Reading a keyword writes its field and no other. -/
theorem sets_of_setKeyword (read : schema.setKeyword keyword value = .ok next) :
    Sets schema keyword value next := by
  cases value with
  | null =>
    cases read
    exact .null keyword
  | arr items =>
    have plain : schema.setPlain keyword (.arr items) = .ok next →
        Sets schema keyword (.arr items) next := sets_of_setPlain (by simp)
    cases keyword with
    | additionalProperties => exact sets_of_setAdditional read
    | items | allOf | oneOf | anyOf =>
      obtain ⟨part, -, rfl⟩ := exists_of_map read
      constructor
    | _ => exact plain (by simpa only [setKeyword] using read)
  | obj members =>
    have plain : schema.setPlain keyword (.obj members) = .ok next →
        Sets schema keyword (.obj members) next := sets_of_setPlain (by simp)
    cases keyword with
    | additionalProperties => exact sets_of_setAdditional read
    | items | properties =>
      obtain ⟨part, -, rfl⟩ := exists_of_map read
      constructor
    | _ => exact plain (by simpa only [setKeyword] using read)
  | _ => exact sets_of_setPlain (by simp) read

/-! ### Fields of their own -/

/-- A keyword has a field of its own: reading the keyword writes there what counts of its value, and
reading another keyword leaves the field as it is. -/
def OwnField {α : Type} (keyword : Keyword) (field : Schema → Option α)
    (counts : Json → Option α) : Prop :=
  ∀ {schema next : Schema} {other : Keyword} {value : Json}, Sets schema other value next →
    field next = (if other = keyword then counts value else none).or (field schema)

/-- The documented value has a field of its own, and null is none. -/
theorem ownField_exampleValue : OwnField .exampleValue Schema.exampleValue Json.nonNull? := by
  intro schema next other value sets
  cases sets with
  | null => split <;> rfl
  | exampleValue present => cases value <;> first | rfl | exact absurd rfl present
  | _ => rfl

/-- The pointer of a reference has a field of its own. -/
theorem ownField_reference : OwnField .reference Schema.reference Json.text? := by
  intro schema next other value sets
  cases sets with
  | null => split <;> rfl
  | _ => rfl

/-- The mark of a component has a field of its own. -/
theorem ownField_refName : OwnField .refName Schema.refName Json.text? := by
  intro schema next other value sets
  cases sets with
  | null => split <;> rfl
  | _ => rfl

/-! ### Members -/

/-- Every keyword has one key. -/
theorem eq_iff_of_ofKey? {key : String} {keyword other : Keyword}
    (meant : Keyword.ofKey? key = some other) : other = keyword ↔ key = keyword.key := by
  have keyed := List.find?_some meant
  have read : Keyword.ofKey? keyword.key = some keyword := by cases keyword <;> rfl
  constructor
  · rintro rfl
    exact (beq_iff_eq.mp keyed).symm
  · rintro rfl
    exact Option.some.inj (meant.symm.trans read)

/-- What counts of the values under a key, the last of them first. -/
def lastAmong? {α : Type} (key : String) (counts : Json → Option α) :
    List (String × Json) → Option α
  | [] => none
  | (other, value) :: rest =>
    (lastAmong? key counts rest).or (if other = key then counts value else none)

section Own

variable {α : Type} {field : Schema → Option α} {counts : Json → Option α}

/-- Where no key is repeated, what is read under the key decides. -/
theorem lastAmong?_eq {members : Entries Json} (distinct : members.keys.Nodup) (key : String) :
    lastAmong? key counts members = (members.get? key).bind counts := by
  induction members with
  | nil => rfl
  | cons member rest ih =>
    obtain ⟨other, value⟩ := member
    obtain ⟨fresh, distinct⟩ := List.nodup_cons.mp distinct
    rw [lastAmong?, ih distinct, Entries.get?]
    by_cases same : other = key
    · subst same
      rw [Entries.get?_eq_none fresh, if_pos rfl, if_pos rfl]
      rfl
    · rw [if_neg same, if_neg same, Option.or_none]

/-- Of the members that are read, those under the key of a keyword decide on its field. -/
theorem OwnField.ofMembers (own : OwnField keyword field counts)
    {members : List (String × Json)} (read : Schema.ofMembers schema members = .ok result) :
    field result = (lastAmong? keyword.key counts members).or (field schema) := by
  induction members generalizing schema with
  | nil =>
    cases read
    rfl
  | cons member rest ih =>
    obtain ⟨key, value⟩ := member
    rw [lastAmong?]
    cases meant : Keyword.ofKey? key with
    | none =>
      rw [ofMembers_cons_of_unknown meant] at read
      have other : key ≠ keyword.key := by
        rintro rfl
        cases keyword <;> cases meant
      rw [ih read, if_neg other, Option.or_none]
    | some other =>
      rw [ofMembers_cons meant] at read
      obtain ⟨next, first, onward⟩ := exists_of_bind read
      rw [ih onward, own (sets_of_setKeyword first), Option.or_assoc]
      simp only [eq_iff_of_ofKey? meant]

/-! ### Items -/

/-- Of a list of keywords, the first is read into a schema before the rest. -/
theorem ofItems_cons (schema : Schema) (length : Nat) (keyword : Keyword) (keywords : List Keyword)
    (value : Json) (rest : List Json) :
    ofItems schema length (keyword :: keywords) (value :: rest) =
      (schema.setKeyword keyword value).bind fun next => ofItems next length keywords rest := by
  simp only [ofItems]
  cases schema.setKeyword keyword value <;> rfl

/-- Items for other keywords leave the field of a keyword as it is. -/
theorem OwnField.ofItems_of_not_mem (own : OwnField keyword field counts) {length : Nat}
    {keywords : List Keyword} {items : List Json} (absent : keyword ∉ keywords)
    (read : Schema.ofItems schema length keywords items = .ok result) :
    field result = field schema := by
  induction keywords generalizing schema items with
  | nil =>
    cases items with
    | nil =>
      cases read
      rfl
    | cons value rest => cases read
  | cons first keywords ih =>
    cases items with
    | nil => cases read
    | cons value rest =>
      have other : first ≠ keyword := fun same => absent (same ▸ List.mem_cons_self)
      have later : keyword ∉ keywords := fun listed => absent (List.mem_cons_of_mem _ listed)
      rw [ofItems_cons] at read
      obtain ⟨next, written, onward⟩ := exists_of_bind read
      rw [ih later onward, own (sets_of_setKeyword written), if_neg other, Option.none_or]

/-- Of the items that are read, the one at the place of a keyword decides on its field. -/
theorem OwnField.ofItems (own : OwnField keyword field counts) {length : Nat}
    {keywords : List Keyword} {items : List Json} (distinct : keywords.Nodup)
    (read : Schema.ofItems schema length keywords items = .ok result) :
    field result = ((items[keywords.idxOf keyword]?).bind counts).or (field schema) := by
  induction keywords generalizing schema items with
  | nil =>
    cases items with
    | nil =>
      cases read
      rfl
    | cons value rest => cases read
  | cons first keywords ih =>
    cases items with
    | nil => cases read
    | cons value rest =>
      obtain ⟨fresh, distinct⟩ := List.nodup_cons.mp distinct
      rw [ofItems_cons] at read
      obtain ⟨next, written, onward⟩ := exists_of_bind read
      by_cases same : first = keyword
      · subst same
        rw [own.ofItems_of_not_mem fresh onward, own (sets_of_setKeyword written), if_pos rfl,
          List.idxOf_cons_self]
        rfl
      · rw [ih distinct onward, own (sets_of_setKeyword written), if_neg same, Option.none_or,
          List.idxOf_cons_ne _ same, List.getElem?_cons_succ]

end Own

end ApiMock.Schema
