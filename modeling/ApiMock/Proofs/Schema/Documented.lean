import ApiMock.Proofs.Document.Substitution
import ApiMock.Proofs.Schema.Keywords
/-!
# The example that a schema documents

`Json.documentedExample?` reads the example off the value that describes a schema. That is what the
schema is read to have (`exampleValue_of_ofJson`): no other keyword writes it, and neither a mark
nor the replacement of boolean schemas touches it. Putting values in place of references does, since
it does not tell the example from the schemas beside it.
-/
namespace ApiMock

namespace Json

/-- The value of the members under the keyword of examples. Null counts as none, and of several the
last counts. -/
def exampleAmong? : List (String × Json) → Option Json
  | [] => none
  | (key, value) :: rest =>
    (exampleAmong? rest).or (if key = "example" then value.nonNull? else none)

/-- The example that the description of a schema gives: under its keyword, or at its place in the
list form. -/
def documentedExample? : Json → Option Json
  | obj members => exampleAmong? members
  | arr items => (items[3]?).bind nonNull?
  | _ => none

/-- The example of members is the last value under its keyword that counts. -/
theorem exampleAmong?_eq (members : List (String × Json)) :
    exampleAmong? members = Schema.lastAmong? "example" nonNull? members := by
  induction members with
  | nil => rfl
  | cons member rest ih => rw [exampleAmong?, Schema.lastAmong?, ih]

/-- Where no key is repeated, the example is what is found under its keyword, but for null. -/
theorem documentedExample?_obj {members : Entries Json} (distinct : members.keys.Nodup) :
    (obj members).documentedExample? = (members.get? "example").bind nonNull? := by
  rw [documentedExample?, exampleAmong?_eq, Schema.lastAmong?_eq distinct]

/-- Only null counts as none. -/
theorem nonNull?_eq_none_iff {value : Json} : value.nonNull? = none ↔ value = .null := by
  cases value <;> simp [nonNull?]

/-- What is not null counts as it is. -/
theorem nonNull?_eq_some_iff {value given : Json} :
    value.nonNull? = some given ↔ value ≠ .null ∧ value = given := by
  cases value <;> simp [nonNull?]

/-- Null is no example of members. -/
theorem ne_null_of_exampleAmong? {members : List (String × Json)} {given : Json}
    (found : exampleAmong? members = some given) : given ≠ .null := by
  induction members with
  | nil => cases found
  | cons member rest ih =>
    obtain ⟨key, value⟩ := member
    rw [exampleAmong?, Option.or_eq_some_iff] at found
    rcases found with later | ⟨-, here⟩
    · exact ih later
    · by_cases same : key = "example"
      · rw [if_pos same] at here
        obtain ⟨present, rfl⟩ := nonNull?_eq_some_iff.mp here
        exact present
      · rw [if_neg same] at here
        cases here

/-- Null is no documented example. -/
theorem ne_null_of_documentedExample? {value given : Json}
    (found : value.documentedExample? = some given) : given ≠ .null := by
  cases value with
  | obj members => exact ne_null_of_exampleAmong? found
  | arr items =>
    obtain ⟨item, -, counts⟩ := Option.bind_eq_some_iff.mp found
    obtain ⟨present, rfl⟩ := nonNull?_eq_some_iff.mp counts
    exact present
  | _ => cases found

/-- A mark is no example. -/
theorem documentedExample?_mark (name : String) (value : Json) :
    (Document.mark name value).documentedExample? = value.documentedExample? := by
  cases value with
  | obj members =>
    have other : Document.markerKey ≠ "example" := by decide
    change exampleAmong? (Entries.insert members Document.markerKey (.str name)) =
      exampleAmong? members
    induction members with
    | nil => simp [Entries.insert, exampleAmong?, other]
    | cons member rest ih =>
      obtain ⟨key, value⟩ := member
      by_cases same : key = Document.markerKey
      · subst same
        rw [Entries.insert, if_pos rfl, exampleAmong?, exampleAmong?, if_neg other, if_neg other]
      · rw [Entries.insert, if_neg same, exampleAmong?, exampleAmong?, ih]
  | _ => rfl

/-- Examples are no schemas, so none is replaced for being a truth value. -/
theorem documentedExample?_normalize (value : Json) :
    value.normalize.documentedExample? = value.documentedExample? := by
  cases value with
  | obj members =>
    rw [normalize]
    change exampleAmong? (normalizeKeywords members) = exampleAmong? members
    induction members with
    | nil => rfl
    | cons member rest ih =>
      obtain ⟨key, value⟩ := member
      rw [normalizeKeywords, exampleAmong?, exampleAmong?, ih]
      by_cases same : key = "example"
      · subst same
        simp
      · rw [if_neg same, if_neg same]
  | _ => rfl

section Substitution

variable {replacement : String → Option Json}

/-- What counts as none counts as none after a substitution. -/
theorem nonNull?_substitute_eq_none {value : Json} (absent : value.nonNull? = none) :
    (value.substitute replacement).nonNull? = none := by
  rw [nonNull?_eq_none_iff.mp absent]
  rfl

/-- What counts before a substitution counts after it as what it became, unless that is null. -/
theorem nonNull?_substitute {value given : Json} (found : value.nonNull? = some given)
    (remains : given.substitute replacement ≠ .null) :
    (value.substitute replacement).nonNull? = some (given.substitute replacement) := by
  obtain ⟨-, rfl⟩ := nonNull?_eq_some_iff.mp found
  exact nonNull?_eq_some_iff.mpr ⟨remains, rfl⟩

/-- Members without an example have none after a substitution. -/
theorem exampleAmong?_substituteMembers_eq_none {members : List (String × Json)}
    (absent : exampleAmong? members = none) :
    exampleAmong? (substituteMembers replacement members) = none := by
  induction members with
  | nil => rfl
  | cons member rest ih =>
    obtain ⟨key, value⟩ := member
    rw [exampleAmong?, Option.or_eq_none_iff] at absent
    rw [substituteMembers, exampleAmong?, ih absent.1, Option.none_or]
    by_cases same : key = "example"
    · rw [if_pos same] at absent ⊢
      exact nonNull?_substitute_eq_none absent.2
    · rw [if_neg same]

/-- Members have after a substitution what their example became, unless that is null. -/
theorem exampleAmong?_substituteMembers {members : List (String × Json)} {given : Json}
    (found : exampleAmong? members = some given)
    (remains : given.substitute replacement ≠ .null) :
    exampleAmong? (substituteMembers replacement members) =
      some (given.substitute replacement) := by
  induction members with
  | nil => cases found
  | cons member rest ih =>
    obtain ⟨key, value⟩ := member
    rw [exampleAmong?, Option.or_eq_some_iff] at found
    rw [substituteMembers, exampleAmong?]
    rcases found with later | ⟨noneLater, here⟩
    · rw [ih later, Option.some_or]
    · rw [exampleAmong?_substituteMembers_eq_none noneLater, Option.none_or]
      by_cases same : key = "example"
      · rw [if_pos same] at here ⊢
        exact nonNull?_substitute here remains
      · rw [if_neg same] at here
        cases here

/-- What is no reference documents no example after a substitution if it documented none before. -/
theorem documentedExample?_substitute_eq_none {value : Json} (plain : value.reference? = none)
    (absent : value.documentedExample? = none) :
    (value.substitute replacement).documentedExample? = none := by
  cases value with
  | obj members =>
    simp only [substitute, plain]
    exact exampleAmong?_substituteMembers_eq_none absent
  | arr items =>
    rw [substitute, substituteItems_eq_map, documentedExample?, List.getElem?_map]
    rw [documentedExample?] at absent
    cases listed : items[3]? with
    | none => rfl
    | some value =>
      rw [listed] at absent
      exact nonNull?_substitute_eq_none absent
  | _ => rfl

/-- What is no reference documents after a substitution what its example became, unless that is
null. -/
theorem documentedExample?_substitute {value given : Json} (plain : value.reference? = none)
    (found : value.documentedExample? = some given)
    (remains : given.substitute replacement ≠ .null) :
    (value.substitute replacement).documentedExample? =
      some (given.substitute replacement) := by
  cases value with
  | obj members =>
    simp only [substitute, plain]
    exact exampleAmong?_substituteMembers found remains
  | arr items =>
    rw [substitute, substituteItems_eq_map, documentedExample?, List.getElem?_map]
    rw [documentedExample?] at found
    cases listed : items[3]? with
    | none =>
      rw [listed] at found
      cases found
    | some value =>
      rw [listed] at found
      exact nonNull?_substitute found remains
  | _ => cases found

end Substitution

end Json

namespace Schema

/-- The example of a schema is the one that its description gives. -/
theorem exampleValue_of_ofJson {value : Json} {schema : Schema} (read : ofJson value = .ok schema) :
    schema.exampleValue = value.documentedExample? := by
  cases value with
  | obj members =>
    have decided := ownField_exampleValue.ofMembers read
    rw [decided, Option.or_none, Json.documentedExample?, Json.exampleAmong?_eq]
    rfl
  | arr items =>
    have decided := ownField_exampleValue.ofItems (by decide) read
    rw [decided, Option.or_none]
    rfl
  | _ => cases read

end Schema

end ApiMock
