import ApiMock.Proofs.Schema.Compiling
/-!
# What the name of a property decides

The name of the property that holds a value is a hint for the kind of a string. It goes along
through the rules that speak of the same value, is replaced below the properties of an object, and
is dropped below arrays and records. So two runs of the compiler on the same schema, with any two
hints, make generators that differ in nothing but the kinds of the strings that the value itself may
be (`maskText_generator`): a choice leads to the same objects, records and arrays in both.
-/
namespace ApiMock

namespace Generator

mutual

/-- Strings of one kind stand for all strings that the value itself may be. What stands in objects,
records and arrays is kept. -/
def maskText (kind : StringKind) : Generator → Generator
  | text _ => text kind
  | oneOf alternatives => oneOf (maskTexts kind alternatives)
  | null => null
  | literal value => literal value
  | registry name => registry name
  | enum values => enum values
  | integer minimum maximum => integer minimum maximum
  | boolean => boolean
  | record values => record values
  | object properties => object properties
  | array minimum maximum items => array minimum maximum items

/-- The same for each generator of a list. -/
def maskTexts (kind : StringKind) : List Generator → List Generator
  | [] => []
  | generator :: rest => maskText kind generator :: maskTexts kind rest

end

/-- The generators of a list are masked one by one. -/
theorem maskTexts_eq_map (kind : StringKind) (generators : List Generator) :
    maskTexts kind generators = generators.map (maskText kind) := by
  induction generators with
  | nil => rfl
  | cons generator rest ih => rw [maskTexts, ih, List.map_cons]

/-- The generator that a sequence of choices comes to. -/
def choose? : List Nat → Generator → Option Generator
  | [], generator => some generator
  | place :: places, oneOf alternatives => alternatives[place]?.bind (choose? places)
  | _ :: _, _ => none

/-- A generator of values that hold others. -/
inductive IsContainer : Generator → Prop
  /-- An object with given keys. -/
  | object (properties : List (String × Generator)) : IsContainer (.object properties)
  /-- An object with made-up keys. -/
  | record (values : Generator) : IsContainer (.record values)
  /-- An array. -/
  | array (minimum : Nat) (maximum : LengthBound) (items : Generator) :
      IsContainer (.array minimum maximum items)

/-- Choices come to the same objects, records and arrays where strings are masked. -/
theorem choose?_maskText {part : Generator} (container : part.IsContainer) (kind : StringKind)
    (places : List Nat) (generator : Generator) :
    choose? places (generator.maskText kind) = some part ↔
      choose? places generator = some part := by
  induction places generalizing generator with
  | nil =>
    simp only [choose?, Option.some.injEq]
    cases generator with
    | text other => cases container <;> simp [maskText]
    | oneOf alternatives => cases container <;> simp [maskText]
    | _ => rfl
  | cons place places ih =>
    cases generator with
    | oneOf alternatives =>
      rw [maskText, maskTexts_eq_map, choose?, choose?, List.getElem?_map]
      cases alternatives[place]? with
      | none => rfl
      | some alternative => exact ih alternative
    | _ => rfl

end Generator

namespace Schema

/-- A choice of something is the same under a mask if all the alternatives are. -/
theorem maskText_choice_congr {α : Type} {items : List α} {kind : StringKind}
    {one other : α → Generator}
    (each : ∀ item ∈ items, (one item).maskText kind = (other item).maskText kind) :
    (if items.isEmpty then Generator.null else .oneOf (items.map one)).maskText kind =
      (if items.isEmpty then Generator.null else .oneOf (items.map other)).maskText kind := by
  split
  · rfl
  · simp only [Generator.maskText, Generator.maskTexts_eq_map, List.map_map, Function.comp_def,
      List.map_congr_left each]

variable {options : Options} {kind : StringKind} {one other : Option String}

/-- One step of the compiler makes the same generator under a mask for two hints, if the calls that
pass the hint on do. The other calls are the same for both. -/
theorem maskText_compileStep {compile : Option String × Schema → Generator} {schema : Schema}
    (same : ∀ inner, Calls options (one, inner) (one, schema) →
      (compile (one, inner)).maskText kind = (compile (other, inner)).maskText kind) :
    (compileStep options compile (one, schema)).maskText kind =
      (compileStep options compile (other, schema)).maskText kind := by
  simp only [compileStep]
  cases applies : schema.rule options with
  | typeList names =>
    exact maskText_choice_congr fun name listed => same _ (.type applies listed)
  | composition members => exact same _ (.merge applies)
  | alternatives schemas =>
    exact maskText_choice_congr fun alternative listed => same _ (.alternative applies listed)
  | string => simp only [Generator.maskText]
  | _ => rfl

/-- Under a mask, the generators of a schema are the same for any two hints. -/
theorem maskText_generator (call : Option String × Schema) (other : Option String) :
    (call.2.generator options call.1).maskText kind =
      (call.2.generator options other).maskText kind := by
  have recursion := recursion_generator options
  induction call using recursion.ends.induction with
  | _ call ih =>
    obtain ⟨one, schema⟩ := call
    have first := recursion.unfolds (one, schema)
    have second := recursion.unfolds (other, schema)
    simp only at first second
    rw [first, second]
    exact maskText_compileStep fun inner called => ih (one, inner) called

end Schema

/-- Two runs of the compiler on one schema, with any two hints, make the same generator, apart from
the kinds of the strings that the value itself may be. In particular each object, record and array
that a choice comes to is the same in both, with everything below. -/
theorem generator_hint (options : Options) (schema? : Option Schema) (one other : Option String) :
    (∀ kind, (Generator.ofSchema options one schema?).maskText kind =
      (Generator.ofSchema options other schema?).maskText kind) ∧
    ∀ (places : List Nat) (part : Generator), part.IsContainer →
      ((Generator.ofSchema options one schema?).choose? places = some part ↔
        (Generator.ofSchema options other schema?).choose? places = some part) := by
  have masked : ∀ kind, (Generator.ofSchema options one schema?).maskText kind =
      (Generator.ofSchema options other schema?).maskText kind := by
    intro kind
    cases schema? with
    | none => rfl
    | some schema => exact Schema.maskText_generator (one, schema) other
  refine ⟨masked, fun places part container => ?_⟩
  rw [← Generator.choose?_maskText container .slug, masked,
    Generator.choose?_maskText container .slug]

namespace Schema

/-- An object with a flag, described with a list of types. -/
def flaggedSchema : Schema :=
  { type := some (.multiple ["object"]), properties := some [("done", ofType "boolean")] }

/-- A string, or an object with a flag. -/
def noteSchema : Schema := { oneOf := some [ofType "string", flaggedSchema] }

/-- A note is compiled to a choice of a string of the hinted kind and an object with a flag. -/
theorem generator_noteSchema (key : Option String) :
    noteSchema.generator {} key =
      .oneOf [.text (StringKind.ofHints none key), .oneOf [.object [("done", .boolean)]]] := by
  have flag (key : Option String) : (ofType "boolean").generator {} key = .boolean := by
    rw [generator_eq]
    rfl
  have text : (ofType "string").generator {} key = .text (StringKind.ofHints none key) := by
    rw [generator_eq]
    rfl
  have object : (flaggedSchema.withType "object").generator {} key =
      .object [("done", .boolean)] := by
    rw [generator_eq, ← flag (some "done")]
    rfl
  have listed : flaggedSchema.generator {} key = .oneOf [.object [("done", .boolean)]] := by
    rw [generator_eq, ← object]
    rfl
  rw [generator_eq, ← text, ← listed]
  rfl

end Schema

/-- A note with a hint and one without are strings of different kinds, or the same object. -/
theorem generator_hint_noteSchema :
    let hinted := Generator.ofSchema {} (some "createdAt") (some Schema.noteSchema)
    let plain := Generator.ofSchema {} none (some Schema.noteSchema)
    let object := Generator.object [("done", .boolean)]
    hinted.choose? [0] = some (.text .pastDate) ∧ plain.choose? [0] = some (.text .slug) ∧
      object.IsContainer ∧ hinted.choose? [1, 0] = some object ∧
      plain.choose? [1, 0] = some object := by
  intro hinted plain object
  have container : object.IsContainer := .object _
  have compiled : ∀ key, Generator.ofSchema {} key (some Schema.noteSchema) =
      .oneOf [.text (StringKind.ofHints none key), .oneOf [object]] := Schema.generator_noteSchema
  have dated : StringKind.ofHints none (some "createdAt") = .pastDate := by decide
  have unhinted : StringKind.ofHints none none = .slug := by decide
  have chosen : hinted.choose? [1, 0] = some object := by
    rw [show hinted = _ from compiled (some "createdAt")]
    rfl
  have same := (generator_hint {} (some Schema.noteSchema) (some "createdAt") none).2 [1, 0] object
  refine ⟨?_, ?_, container, chosen, (same container).mp chosen⟩
  · rw [show hinted = _ from compiled (some "createdAt"), dated]
    rfl
  · rw [show plain = _ from compiled none, unhinted]
    rfl

end ApiMock
