import ApiMock.Document.Expand
import ApiMock.Generator.Compile
import ApiMock.Schema.BooleanForm
import ApiMock.Schema.Decode
/-!
# Schemas under a mark

An expanded definition carries the name of its component as a mark, which `Schema.unmarked` takes
off again. A definition that can be read can be read with a mark too, as the same schema but for the
mark (`ofJson_normalize_mark`), and without a registry the mark does not count for what a schema is
compiled to (`generator_unmarked`).
-/
namespace ApiMock

namespace Schema

/-- The schema without the name of the component that it was expanded from. -/
def unmarked (schema : Schema) : Schema := { schema with refName := none }

/-! ### Reading -/

/-- What a keyword is read as does not depend on the mark that is there before. -/
theorem setPlain_unmarked (schema : Schema) (keyword : Keyword) (value : Json) :
    (schema.unmarked.setPlain keyword value).map unmarked =
      (schema.setPlain keyword value).map unmarked := by
  cases keyword with
  | type => simp only [setPlain]; cases TypeKeyword.ofJson value <;> rfl
  | format | reference | refName => simp only [setPlain]; cases value.decodeText <;> rfl
  | enum => simp only [setPlain]; cases value.decodeItems <;> rfl
  | minimum | maximum => simp only [setPlain]; cases value.decodeNumber <;> rfl
  | minLength | maxLength => simp only [setPlain]; cases value.decodeNat <;> rfl
  | additionalProperties => cases value <;> rfl
  | _ => rfl

/-- What further properties are read as does not depend on the mark that is there before. -/
theorem setAdditional_unmarked (schema : Schema) (values : Except DecodeError Schema) :
    (schema.unmarked.setAdditional values).map unmarked =
      (schema.setAdditional values).map unmarked := by
  cases values <;> rfl

/-- What a keyword is read as, with schemas under it or not, does not depend on the mark that is
there before. -/
theorem setKeyword_unmarked (schema : Schema) (keyword : Keyword) (value : Json) :
    (schema.unmarked.setKeyword keyword value).map unmarked =
      (schema.setKeyword keyword value).map unmarked := by
  cases value with
  | null => rfl
  | arr items =>
    cases keyword with
    | additionalProperties => exact setAdditional_unmarked schema _
    | items => simp only [setKeyword]; cases ofItems {} items.length Keyword.all items <;> rfl
    | allOf | oneOf | anyOf => simp only [setKeyword]; cases ofList items <;> rfl
    | _ => simp only [setKeyword]; exact setPlain_unmarked schema _ (.arr items)
  | obj members =>
    cases keyword with
    | additionalProperties => exact setAdditional_unmarked schema _
    | items => simp only [setKeyword]; cases ofMembers {} members <;> rfl
    | properties => simp only [setKeyword]; cases ofProperties members <;> rfl
    | _ => simp only [setKeyword]; exact setPlain_unmarked schema _ (.obj members)
  | _ => exact setPlain_unmarked schema keyword _

/-- Of members, the first is read into a schema before the rest. -/
theorem ofMembers_cons {key : String} {keyword : Keyword}
    (known : Keyword.ofKey? key = some keyword) (schema : Schema) (value : Json)
    (rest : List (String × Json)) :
    ofMembers schema ((key, value) :: rest) =
      (schema.setKeyword keyword value).bind fun next => ofMembers next rest := by
  simp only [ofMembers, known]
  cases schema.setKeyword keyword value <;> rfl

/-- Members that mean nothing are passed over. -/
theorem ofMembers_cons_of_unknown {key : String} (unknown : Keyword.ofKey? key = none)
    (schema : Schema) (value : Json) (rest : List (String × Json)) :
    ofMembers schema ((key, value) :: rest) = ofMembers schema rest := by
  simp only [ofMembers, unknown]

/-- What goes on from a schema has read the schema. -/
theorem exists_of_bind {first : Except DecodeError Schema}
    {next : Schema → Except DecodeError Schema} {result : Schema}
    (read : first.bind next = .ok result) :
    ∃ schema, first = .ok schema ∧ next schema = .ok result := by
  cases first with
  | error cause => cases read
  | ok schema => exact ⟨schema, rfl, read⟩

/-- What goes on alike from schemas that differ in the mark ends alike. -/
theorem bind_unmarked {left right : Except DecodeError Schema}
    (alike : left.map unmarked = right.map unmarked)
    {next : Schema → Except DecodeError Schema}
    (blind : ∀ schema, (next (unmarked schema)).map unmarked = (next schema).map unmarked) :
    (left.bind next).map unmarked = (right.bind next).map unmarked := by
  cases left with
  | error cause =>
    cases right with
    | error other =>
      cases alike
      rfl
    | ok schema => cases alike
  | ok schema =>
    cases right with
    | error cause => cases alike
    | ok other =>
      have same : schema.unmarked = other.unmarked := Except.ok.inj alike
      calc (next schema).map unmarked
          _ = (next schema.unmarked).map unmarked := (blind schema).symm
          _ = (next other.unmarked).map unmarked := by rw [same]
          _ = (next other).map unmarked := blind other

/-- The members of an object are read alike with and without a mark that is there before. -/
theorem ofMembers_unmarked (members : List (String × Json)) (schema : Schema) :
    (ofMembers schema.unmarked members).map unmarked = (ofMembers schema members).map unmarked := by
  induction members generalizing schema with
  | nil => rfl
  | cons member rest ih =>
    obtain ⟨key, value⟩ := member
    cases known : Keyword.ofKey? key with
    | none =>
      rw [ofMembers_cons_of_unknown known, ofMembers_cons_of_unknown known]
      exact ih schema
    | some keyword =>
      rw [ofMembers_cons known, ofMembers_cons known]
      exact bind_unmarked (setKeyword_unmarked schema keyword value) ih

/-- What is read as a mark changes nothing but the mark. -/
theorem unmarked_of_setKeyword_refName {schema marked : Schema} {value : Json}
    (read : schema.setKeyword .refName value = .ok marked) : marked.unmarked = schema.unmarked := by
  cases value <;> cases read <;> rfl

/-- Members that can be read can be read with a mark among them, as the same schema but for the
mark. -/
theorem ofMembers_insert_marker {schema read : Schema} {members : Entries Json}
    (readable : ofMembers schema members = .ok read) (name : String) :
    (ofMembers schema (members.insert Document.markerKey (.str name))).map unmarked =
      .ok read.unmarked := by
  have known : Keyword.ofKey? Document.markerKey = some .refName := by decide
  induction members generalizing schema with
  | nil =>
    rw [Entries.insert, ofMembers_cons known]
    cases readable
    rfl
  | cons member rest ih =>
    obtain ⟨key, value⟩ := member
    by_cases same : key = Document.markerKey
    · subst same
      rw [Entries.insert, if_pos rfl, ofMembers_cons known]
      rw [ofMembers_cons known] at readable
      obtain ⟨next, first, onward⟩ := exists_of_bind readable
      have alike : (schema.setKeyword .refName (.str name)).map unmarked =
          (Except.ok next).map unmarked :=
        congrArg Except.ok (unmarked_of_setKeyword_refName first).symm
      rw [bind_unmarked alike (ofMembers_unmarked rest)]
      exact congrArg (Except.map unmarked) onward
    · rw [Entries.insert, if_neg same]
      cases meant : Keyword.ofKey? key with
      | none =>
        rw [ofMembers_cons_of_unknown meant] at readable ⊢
        exact ih readable
      | some keyword =>
        rw [ofMembers_cons meant] at readable ⊢
        obtain ⟨next, first, onward⟩ := exists_of_bind readable
        rw [first]
        exact ih onward

end Schema

namespace Json

/-- A mark stands where it was written when boolean schemas are replaced. -/
theorem normalizeKeywords_insert_marker (members : Entries Json) (name : String) :
    normalizeKeywords (members.insert Document.markerKey (.str name)) =
      Entries.insert (normalizeKeywords members) Document.markerKey (.str name) := by
  induction members with
  | nil => rfl
  | cons member rest ih =>
    obtain ⟨key, value⟩ := member
    by_cases same : key = Document.markerKey
    · subst same
      simp [Entries.insert, normalizeKeywords, Document.markerKey]
    · simp only [Entries.insert, normalizeKeywords, if_neg same, ih]

end Json

namespace Schema

/-- A definition that can be read can be read with a mark, as the same schema but for the mark. -/
theorem ofJson_normalize_mark {definition : Json} {schema : Schema}
    (readable : ofJson definition.normalize = .ok schema) (name : String) :
    ∃ marked, ofJson (Document.mark name definition).normalize = .ok marked ∧
      marked.unmarked = schema.unmarked := by
  cases definition with
  | obj members =>
    have alike : (ofJson (Document.mark name (.obj members)).normalize).map unmarked =
        .ok schema.unmarked := by
      rw [Document.mark, Json.setMember, Json.normalize, Json.normalizeKeywords_insert_marker]
      exact ofMembers_insert_marker readable name
    cases read : ofJson (Document.mark name (.obj members)).normalize with
    | error cause =>
      rw [read] at alike
      cases alike
    | ok marked =>
      rw [read] at alike
      exact ⟨marked, rfl, Except.ok.inj alike⟩
  | _ => exact ⟨schema, readable, rfl⟩

/-! ### Compilation -/

/-- Without a registry, the rule for a schema does not depend on its mark. -/
theorem rule_unmarked {options : Options} (disabled : options.registryEnabled = false)
    (schema : Schema) : schema.unmarked.rule options = schema.rule options := by
  have unnamed : ∀ other : Schema, other.registryName options = none := fun other => by
    simp [registryName, disabled]
  rw [rule, rule, unnamed, unnamed]
  rfl

/-- Without a registry, the generator of a schema that gives no choice of types does not depend on
its mark. -/
theorem generator_unmarked_of_ne {options : Options} (disabled : options.registryEnabled = false)
    (key : Option String) (schema : Schema)
    (single : ∀ names, schema.rule options ≠ .typeList names) :
    schema.unmarked.generator options key = schema.generator options key := by
  rw [generator_eq, generator_eq, rule_unmarked disabled]
  cases applies : schema.rule options with
  | typeList names => exact absurd applies (single names)
  | _ => rfl

/-- Without a registry, the generator of a schema does not depend on its mark. -/
theorem generator_unmarked {options : Options} (disabled : options.registryEnabled = false)
    (key : Option String) (schema : Schema) :
    schema.unmarked.generator options key = schema.generator options key := by
  cases applies : schema.rule options with
  | typeList names =>
    have each : ∀ name, (schema.unmarked.withType name).generator options key =
        (schema.withType name).generator options key := by
      intro name
      refine generator_unmarked_of_ne disabled key (schema.withType name) ?_
      intro others again
      cases type_of_rule again
    rw [generator_eq, generator_eq, rule_unmarked disabled, applies]
    simp only [each]
  | _ =>
    refine generator_unmarked_of_ne disabled key schema fun names listed => ?_
    cases applies.symm.trans listed

end Schema

end ApiMock
