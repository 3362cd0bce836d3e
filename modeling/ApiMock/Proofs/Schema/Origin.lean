import ApiMock.Proofs.Schema.Compiling
import Mathlib.Logic.Relation
/-!
# Where the parts of compiled generators come from

What stands anywhere in a compiled generator is compiled itself, for a schema that the compiler gets
to by its calls, and for each schema that it gets to something stands there. So a statement about
all arrays of a generator, at whatever depth, is one about the schemas that the compiler makes
arrays for (`holds_array_iff`). Without compositions these are sub-schemas of the schema that is
compiled, but for their types (`exists_held_of_reaches`).
-/
namespace ApiMock

/-- What a part of a generator holds, the generator holds. -/
theorem Generator.Holds.trans {generator middle place : Generator} (outer : generator.Holds middle)
    (inner : middle.Holds place) : generator.Holds place := by
  induction outer with
  | root => exact inner
  | part direct _ ih => exact .part direct (ih inner)

namespace Schema

variable {options : Options} {root : Option String × Schema}

/-- The compiler gets by its calls from one schema to another. -/
def Reaches (options : Options) (root call : Option String × Schema) : Prop :=
  Relation.ReflTransGen (Calls options) call root

/-- What is called for is compiled to a generator that stands in the one it is called for. -/
theorem Calls.holds {inner outer : Option String × Schema} (call : Calls options inner outer) :
    (outer.2.generator options outer.1).Holds (inner.2.generator options inner.1) := by
  cases call with
  | @type key schema names name applies listed =>
    have filled : names.isEmpty = false := List.isEmpty_eq_false_iff.mpr (List.ne_nil_of_mem listed)
    rw [generator_eq options key schema, applies]
    simp only [filled]
    exact .part (.alternative (List.mem_map_of_mem listed)) (.root _)
  | @merge key schema members applies =>
    rw [generator_eq options key schema, applies]
    exact .root _
  | @alternative key schema alternative schemas applies listed =>
    have filled : schemas.isEmpty = false :=
      List.isEmpty_eq_false_iff.mpr (List.ne_nil_of_mem listed)
    rw [generator_eq options key schema, applies]
    simp only [filled]
    exact .part (.alternative (List.mem_map_of_mem listed)) (.root _)
  | @values key schema values applies =>
    rw [generator_eq options key schema, applies]
    exact .part (.values _) (.root _)
  | @property key schema properties name property applies listed =>
    rw [generator_eq options key schema, applies]
    exact .part (.property (List.mem_map.mpr ⟨(name, property), listed, rfl⟩)) (.root _)
  | @items key schema items applies =>
    rw [generator_eq options key schema, applies]
    exact .part (.items _ _ _) (.root _)

/-- What the compiler gets to is compiled to a generator that stands in that of the root. -/
theorem Reaches.holds {call : Option String × Schema} (reached : Reaches options root call) :
    (root.2.generator options root.1).Holds (call.2.generator options call.1) := by
  induction reached using Relation.ReflTransGen.head_induction_on with
  | refl => exact .root _
  | head called _ ih => exact ih.trans called.holds

/-- What stands in a compiled generator is compiled for a schema that the compiler gets to and that
is no composition, or it is the null that stands for items of which nothing is said. -/
theorem exists_reached_of_holds {place : Generator}
    (held : (root.2.generator options root.1).Holds place) :
    place = .null ∨ ∃ call, Reaches options root call ∧
      (∀ members, call.2.rule options ≠ .composition members) ∧
        place = call.2.generator options call.1 := by
  have recursion := recursion_generator options
  induction root using recursion.ends.induction with
  | _ root ih =>
    -- What is found within the generator of a call is found from the root, one call further.
    have later : ∀ {inner}, Calls options inner root →
        (inner.2.generator options inner.1).Holds place →
          place = .null ∨ ∃ call, Reaches options root call ∧
            (∀ members, call.2.rule options ≠ .composition members) ∧
              place = call.2.generator options call.1 := by
      intro inner calls within
      rcases ih inner calls within with null | ⟨call, reached, simple, equal⟩
      · exact .inl null
      · exact .inr ⟨call, reached.tail calls, simple, equal⟩
    by_cases composed : ∃ members, root.2.rule options = .composition members
    · obtain ⟨members, applies⟩ := composed
      have merged : root.2.generator options root.1 =
          (mergeAll members).generator options root.1 := by rw [generator_eq, applies]
      rw [merged] at held
      exact later (Calls.merge applies) held
    · have simple : ∀ members, root.2.rule options ≠ .composition members :=
        fun members applies => composed ⟨members, applies⟩
      cases held with
      | root => exact .inr ⟨root, .refl, simple, rfl⟩
      | part direct inner =>
        rw [recursion.unfolds] at direct
        rcases call_of_part direct simple with rfl | ⟨called, calls, rfl⟩
        · cases inner with
          | root => exact .inl rfl
          | part direct _ => cases direct
        · exact later calls inner

/-! ### Arrays -/

/-- An array is compiled from its own bounds and the options, whatever property holds it. -/
theorem generator_of_array {schema : Schema} {items : Option Schema}
    (applies : schema.rule options = .array items) (key : Option String) :
    schema.generator options key =
      .array (schema.minLength.getD 1) (options.lengthBound schema.maxLength)
        ((items.map (generator options none)).getD .null) := by
  rw [generator_eq, applies]

/-- Only the rule for arrays makes an array, compositions aside. -/
theorem exists_rule_of_generator_array {schema : Schema} {key : Option String} {minimum : Nat}
    {maximum : LengthBound} {items : Generator}
    (simple : ∀ members, schema.rule options ≠ .composition members)
    (compiled : schema.generator options key = .array minimum maximum items) :
    ∃ items, schema.rule options = .array items := by
  rw [generator_eq] at compiled
  cases applies : schema.rule options with
  | array items => exact ⟨items, rfl⟩
  | composition members => exact absurd applies (simple members)
  | typeList names | alternatives names | enum names =>
    simp only [applies] at compiled
    split at compiled <;> cases compiled
  | _ =>
    simp only [applies] at compiled
    cases compiled

/-- The compiler makes an array for a schema that it gets to. -/
structure MakesArray (options : Options) (root : Option String × Schema) (node : Schema) :
    Prop where
  /-- The compiler gets to the schema. -/
  reached : ∃ key, Reaches options root (key, node)
  /-- The schema is one of an array. -/
  applies : ∃ items, node.rule options = .array items

/-- The arrays of a compiled generator, at any depth, are the generators of the schemas that the
compiler makes arrays for. -/
theorem holds_array_iff (root : Option String × Schema) {minimum : Nat} {maximum : LengthBound}
    {items : Generator} :
    (root.2.generator options root.1).Holds (.array minimum maximum items) ↔
      ∃ node, MakesArray options root node ∧
        node.generator options none = .array minimum maximum items := by
  constructor
  · intro held
    rcases exists_reached_of_holds held with null | ⟨⟨key, node⟩, reached, simple, equal⟩
    · cases null
    · obtain ⟨inner, applies⟩ := exists_rule_of_generator_array simple equal.symm
      refine ⟨node, ⟨⟨key, reached⟩, inner, applies⟩, ?_⟩
      rw [equal, generator_of_array applies, generator_of_array applies]
  · rintro ⟨node, ⟨⟨key, reached⟩, inner, applies⟩, equal⟩
    have held := reached.holds
    rwa [generator_of_array applies, ← generator_of_array applies none, equal] at held

/-! ### Sub-schemas -/

/-- What stands anywhere in a schema: the schema itself, and what is in its sub-schemas. -/
inductive Holds : Schema → Schema → Prop
  /-- The schema itself. -/
  | root (schema : Schema) : Holds schema schema
  /-- What a property holds. -/
  | property {schema place : Schema} {property : String × Schema}
      (listed : property ∈ schema.properties.getD []) (inner : Holds property.2 place) :
      Holds schema place
  /-- What the schema of further properties holds. -/
  | additional {schema values place : Schema}
      (found : schema.additionalProperties = some (.schema values)) (inner : Holds values place) :
      Holds schema place
  /-- What the schema of items holds. -/
  | items {schema items place : Schema} (found : schema.items = some items)
      (inner : Holds items place) : Holds schema place
  /-- What a member of a composition holds. -/
  | member {schema member place : Schema} (listed : member ∈ schema.allOf.getD [])
      (inner : Holds member place) : Holds schema place
  /-- What an alternative holds. -/
  | oneOf {schema alternative place : Schema} (listed : alternative ∈ schema.oneOf.getD [])
      (inner : Holds alternative place) : Holds schema place
  /-- What an alternative of the other kind holds. -/
  | anyOf {schema alternative place : Schema} (listed : alternative ∈ schema.anyOf.getD [])
      (inner : Holds alternative place) : Holds schema place

/-- What stands in a sub-schema stands in the schema. -/
theorem Holds.trans {schema middle place : Schema} (outer : schema.Holds middle)
    (inner : middle.Holds place) : schema.Holds place := by
  induction outer with
  | root => exact inner
  | property listed _ ih => exact .property listed (ih inner)
  | additional found _ ih => exact .additional found (ih inner)
  | items found _ ih => exact .items found (ih inner)
  | member listed _ ih => exact .member listed (ih inner)
  | oneOf listed _ ih => exact .oneOf listed (ih inner)
  | anyOf listed _ ih => exact .anyOf listed (ih inner)

/-- The schema with another type, or with none. -/
def retyped (schema : Schema) (type : Option TypeKeyword) : Schema := { schema with type := type }

/-- With its own type a schema is what it was. -/
@[simp]
theorem retyped_self (schema : Schema) : schema.retyped schema.type = schema := by
  cases schema
  rfl

/-- Of two types that take the place of a schema's own, the later stays. -/
@[simp]
theorem retyped_retyped (schema : Schema) (first second : Option TypeKeyword) :
    (schema.retyped first).retyped second = schema.retyped second := rfl

/-- Without a composition, what is called for is the caller with another type, or a sub-schema of
the caller, whatever type that has. -/
theorem Calls.exists_held {inner outer : Option String × Schema} (call : Calls options inner outer)
    (plain : outer.2.allOf = none) :
    (∃ type, inner.2 = outer.2.retyped type) ∨ ∀ type, (outer.2.retyped type).Holds inner.2 := by
  cases call with
  | @type key schema names name applies listed => exact .inl ⟨some (.single name), rfl⟩
  | merge applies =>
    rw [allOf_of_rule applies] at plain
    cases plain
  | @alternative key schema alternative schemas applies listed =>
    have choice := oneOf_of_rule applies
    refine .inr fun type => ?_
    cases one : schema.oneOf with
    | some own =>
      rw [one] at choice
      cases choice
      exact .oneOf (by simpa [retyped, one] using listed) (.root _)
    | none =>
      rw [one, Option.none_or] at choice
      exact .anyOf (by simpa [retyped, choice] using listed) (.root _)
  | @values key schema values applies =>
    have found : schema.additionalProperties = some (.schema values) := additional_of_rule applies
    exact .inr fun type => .additional found (.root _)
  | @property key schema properties name property applies listed =>
    rw [properties_of_rule applies] at listed
    exact .inr fun type => .property listed (.root _)
  | @items key schema items applies =>
    have found : schema.items = some items := (items_of_rule applies).symm
    exact .inr fun type => .items found (.root _)

/-- Where nothing is composed, the compiler gets to nothing but sub-schemas, some of them with one
of their types in place of the list. -/
theorem exists_held_of_reaches {call : Option String × Schema}
    (plain : ∀ node, root.2.Holds node → node.allOf = none) (reached : Reaches options root call) :
    ∃ node type, root.2.Holds node ∧ call.2 = node.retyped type := by
  induction reached using Relation.ReflTransGen.head_induction_on with
  | refl => exact ⟨root.2, root.2.type, .root _, (retyped_self _).symm⟩
  | @head inner outer called _ ih =>
    obtain ⟨node, type, held, equal⟩ := ih
    have composed : outer.2.allOf = none := by
      rw [equal]
      exact plain node held
    rcases called.exists_held composed with ⟨other, same⟩ | within
    · exact ⟨node, other, held, by rw [same, equal, retyped_retyped]⟩
    · have below : node.Holds inner.2 := by
        have own := within node.type
        rwa [equal, retyped_retyped, retyped_self] at own
      exact ⟨inner.2, inner.2.type, held.trans below, (retyped_self _).symm⟩

end Schema

end ApiMock
