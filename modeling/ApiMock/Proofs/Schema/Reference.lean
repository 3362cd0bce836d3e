import ApiMock.Proofs.Document.Dangling
import ApiMock.Proofs.Schema.BooleanForm
import ApiMock.Proofs.Schema.Keywords
/-!
# What a schema refers to

A schema that was read off the expansion of a reference can tell of its component in two ways: by a
pointer that expansion left in place, and by the mark of an expanded definition. Both are read off
the expansion as they stand there (`pointers_of_ofJson`), and a pointer wins. So the schema refers to
the component of the reference, unless the expansion carries the pointer of another one, or is no
object and carries nothing (`refers_iff`).
-/
namespace ApiMock

namespace Json

/-- What is no schema keeps its text when boolean schemas are replaced. -/
theorem getText?_normalize {key : String} (data : Role.ofKeyword key = .data)
    (members : List (String × Json)) :
    (obj members).normalize.getText? key = (obj members).getText? key := by
  have read : Entries.get? (normalizeKeywords members) key = Entries.get? members key := by
    rw [Role.normalizeKeywords_eq_map,
      Entries.get?_map members fun name => (Role.ofKeyword name).rewrite, data]
    exact Option.map_id'
  rw [normalize]
  exact congrArg (·.bind text?) read

/-- The replacement of boolean schemas keeps the keys of an object. -/
theorem keys_normalizeKeywords (members : Entries Json) :
    Entries.keys (normalizeKeywords members) = members.keys := by
  rw [Role.normalizeKeywords_eq_map]
  exact Entries.keys_map members fun name => (Role.ofKeyword name).rewrite

end Json

namespace Schema

/-- The pointer and the mark of a schema are those that stand in its description, in which no key is
repeated. -/
theorem pointers_of_ofJson {members : Entries Json} (distinct : members.keys.Nodup)
    {schema : Schema} (read : ofJson (Json.obj members).normalize = .ok schema) :
    schema.reference = (Json.obj members).reference? ∧
      schema.refName = (Json.obj members).getText? Document.markerKey := by
  have keys : (Entries.keys (Json.normalizeKeywords members)).Nodup := by
    rw [Json.keys_normalizeKeywords]
    exact distinct
  constructor
  · rw [ownField_reference.ofMembers read, lastAmong?_eq keys, Option.or_none]
    exact Json.getText?_normalize rfl members
  · rw [ownField_refName.ofMembers read, lastAmong?_eq keys, Option.or_none]
    exact Json.getText?_normalize rfl members

/-- A schema refers to a component: by a pointer that was left in place, or else by the mark of the
expanded definition. -/
inductive Refers (name : String) (schema : Schema) : Prop
  /-- The bare reference was left. -/
  | left (pointed : schema.reference = some (Document.schemaLead ++ name))
  /-- The reference was expanded. -/
  | expanded (bare : schema.reference = none) (marked : schema.refName = some name)

/-- A pointer ends with the segment after its last slash. -/
theorem pointerTail_append {name : List Char} (plain : '/' ∉ name) (before : List Char) :
    pointerTail (before ++ '/' :: name) = name := by
  have each : ∀ c ∈ name.reverse, (c != '/') = true := by
    intro c listed
    have other : c ≠ '/' := fun same => plain (same ▸ List.mem_reverse.mp listed)
    simpa using other
  rw [pointerTail, List.reverse_append, List.reverse_cons, List.append_assoc,
    List.takeWhile_append_of_pos each, List.singleton_append, List.takeWhile_cons_of_neg (by decide),
    List.append_nil, List.reverse_reverse]

/-- A schema that refers to a component names it, whichever way it refers to it. -/
theorem Refers.referenceName_eq {name : String} {schema : Schema} (refers : Refers name schema)
    (nonempty : name ≠ "") (plain : '/' ∉ name.toList) : schema.referenceName = some name := by
  cases refers with
  | left pointed =>
    have lead : Document.schemaLead.toList = "#/components/schemas".toList ++ ['/'] := by decide
    have split : (Document.schemaLead ++ name).toList =
        "#/components/schemas".toList ++ '/' :: name.toList := by
      rw [String.toList_append, lead, List.append_assoc, List.singleton_append]
    have tail : String.ofList (pointerTail (Document.schemaLead ++ name).toList) = name := by
      rw [split, pointerTail_append plain, String.ofList_toList]
    have some : name.isEmpty = false := by simpa using nonempty
    simp only [referenceName, pointed, tail, some]
    rfl
  | expanded bare marked => rw [referenceName, bare, marked]

end Schema

namespace Document

variable {document : Json} {chain : List String} {value : Json} {name : String}

/-- The expansion of a reference is the reference itself, or what is marked with its component. -/
theorem expandWithin_cases (reference : value.reference? = some (schemaLead ++ name)) :
    expandWithin document chain value = value ∨
      ∃ opened, expandWithin document chain value = mark name opened := by
  rw [expandWithin_eq, Json.substitute_of_reference reference]
  cases opening : opening document chain (schemaLead ++ name) with
  | none => exact .inl rfl
  | some opened =>
    obtain ⟨other, definition, named, _, _, rfl⟩ := closed_of_opening opening
    obtain rfl : name = other := (String.append_right_inj _).mp (schemaName?_eq_some_iff.mp named)
    exact .inr ⟨_, rfl⟩

/-- Expansion repeats no key, if neither the document nor the value does. -/
theorem distinctKeys_expandWithin (distinct : document.DistinctKeys) (own : value.DistinctKeys) :
    (expandWithin document chain value).DistinctKeys := by
  induction chain, value using expandWithin.induct document with
  | case1 chain value ih =>
    rw [expandWithin_eq]
    refine Json.distinctKeys_substitute (fun pointer opened opening => ?_) own
    obtain ⟨name, definition, _, closed, defined, rfl⟩ := closed_of_opening opening
    have below : definition.DistinctKeys := distinct.within (within_of_component? defined)
    exact (ih name closed definition defined below).setMember markerKey name

/-- The mark of what is marked can be read, where it can be written. -/
theorem getText?_mark {members : Entries Json} {opened : Json}
    (marked : mark name opened = .obj members) :
    (Json.obj members).getText? markerKey = some name := by
  cases opened with
  | obj before =>
    have written : (mark name (.obj before)).get? markerKey = some (.str name) :=
      Entries.get?_insert_self before markerKey (.str name)
    rw [← marked, Json.getText?, written]
    rfl
  | _ => cases marked

/-- The schema that is read off the expansion of a reference refers to its component exactly when
the expansion carries no pointer but that of the reference. -/
theorem refers_iff (distinct : document.DistinctKeys) (own : value.DistinctKeys)
    (reference : value.reference? = some (schemaLead ++ name)) {members : Entries Json}
    (object : expandWithin document chain value = .obj members) {schema : Schema}
    (read : Schema.ofJson (expandWithin document chain value).normalize = .ok schema) :
    schema.Refers name ↔
      ∀ pointer, (expandWithin document chain value).reference? = some pointer →
        pointer = schemaLead ++ name := by
  have keys : (Json.obj members).DistinctKeys := object ▸ distinctKeys_expandWithin distinct own
  rw [object] at read ⊢
  obtain ⟨pointed, marked⟩ :=
    Schema.pointers_of_ofJson (Json.distinctKeys_obj_iff.mp keys).1 read
  constructor
  · intro refers pointer left
    rw [← pointed] at left
    cases refers with
    | left itself => exact Option.some.inj (left.symm.trans itself)
    | expanded bare => cases left.symm.trans bare
  · intro only
    cases bare : (Json.obj members).reference? with
    | some pointer =>
      obtain rfl := only pointer bare
      exact .left (pointed.trans bare)
    | none =>
      have whole : expandWithin document chain value = value ∨
          ∃ opened, expandWithin document chain value = mark name opened :=
        expandWithin_cases reference
      rcases whole with itself | ⟨opened, opens⟩
      · rw [← object, itself] at bare
        cases bare.symm.trans reference
      · refine .expanded (pointed.trans bare) ?_
        rw [marked, getText?_mark (opens.symm.trans object)]

end Document

end ApiMock
