import ApiMock.Mock.Source
import ApiMock.Proofs.Generator.Closed
import ApiMock.Proofs.Mock.Naming
import ApiMock.Proofs.Schema.Origin
/-!
# The constant for array lengths

The configured array length comes into generators as the bound of each array that declares none, and
expressions refer to it by the name of a constant. So expressions do not depend on it, whatever the
way that a schema takes through the compiler (`expression_generator_withLength`); with them the
texts of all functions are the same for every length, and modules differ in the line that defines
the constant. What that line says is what sampling goes by (`carriesLength_generator`).
-/
namespace ApiMock

/-- The options with another array length. -/
def Options.withLength (options : Options) (length : Nat) : Options :=
  { options with maxArrayLength := length }

/-- The line of a module that defines the array length. -/
def lengthLine (length : Nat) : String :=
  "const " ++ arrayLengthName ++ " = " ++ Nat.repr length ++ ";"

/-- Every bound of a generator that is written as the constant, at any depth, has the number of a
length. -/
def CarriesLength (length : Nat) (generator : Generator) : Prop :=
  ∀ minimum maximum items, generator.Holds (.array minimum maximum items) →
    maximum.text = arrayLengthName → maximum.value = length

/-! ### Bounds -/

/-- The text of a bound does not depend on the configured length. -/
@[simp]
theorem text_lengthBound_withLength (options : Options) (length : Nat) (declared : Option Nat) :
    ((options.withLength length).lengthBound declared).text =
      (options.lengthBound declared).text := by
  cases declared <;> rfl

/-- No declared bound is written as the constant. -/
theorem LengthBound.eq_configured_of_text {bound : LengthBound}
    (named : bound.text = arrayLengthName) : ∃ length, bound = .configured length := by
  cases bound with
  | declared length =>
    have first : 'M' ∈ (Nat.repr length).toList := by
      rw [show Nat.repr length = arrayLengthName from named]
      decide
    rw [Nat.toList_repr] at first
    have digit := Nat.isDigit_of_mem_toDigits (by decide) (by decide) first
    exact absurd digit (by decide)
  | configured length => exact ⟨length, rfl⟩

/-- A bound that is written as the constant has the configured length. -/
theorem Schema.carriesLength_generator (options : Options) (key : Option String) (schema : Schema) :
    CarriesLength options.maxArrayLength (schema.generator options key) := by
  intro minimum maximum items held named
  obtain ⟨node, ⟨-, inner, applies⟩, compiled⟩ := (holds_array_iff (key, schema)).mp held
  obtain ⟨length, rfl⟩ := LengthBound.eq_configured_of_text named
  rw [generator_of_array applies] at compiled
  injection compiled with _ bound _
  cases undeclared : node.maxLength with
  | none =>
    rw [undeclared] at bound
    injection bound with same
    exact same.symm
  | some declared =>
    rw [undeclared] at bound
    cases bound

/-! ### Expressions -/

/-- A choice of something has the same expression if all the alternatives have. -/
theorem Generator.expression_choice_congr {α : Type} {items : List α} {first second : α → Generator}
    (each : ∀ item ∈ items, (first item).expression = (second item).expression) :
    (if items.isEmpty then Generator.null else .oneOf (items.map first)).expression =
      (if items.isEmpty then Generator.null else .oneOf (items.map second)).expression := by
  split
  · rfl
  · simp only [expression.eq_def (.oneOf _), expressions_eq_map, List.map_map,
      Function.comp_def, List.map_congr_left each]

namespace Schema

variable {options : Options}

/-- One step of the compiler keeps expressions the same for another array length, if those of its
calls are. -/
theorem expression_compileStep_withLength {length : Nat}
    {first second : Option String × Schema → Generator} {call : Option String × Schema}
    (same : ∀ inner, Calls options inner call →
      (first inner).expression = (second inner).expression) :
    (compileStep (options.withLength length) first call).expression =
      (compileStep options second call).expression := by
  obtain ⟨key, schema⟩ := call
  -- The rules look at the schema and the registry only.
  have sameRule : schema.rule (options.withLength length) = schema.rule options := rfl
  simp only [compileStep, sameRule]
  cases applies : schema.rule options with
  | typeList names =>
    exact Generator.expression_choice_congr fun name listed => same _ (.type applies listed)
  | composition members => exact same _ (.merge applies)
  | alternatives schemas =>
    exact Generator.expression_choice_congr fun alternative listed =>
      same _ (.alternative applies listed)
  | record values =>
    simp only [Generator.expression.eq_def (.record _), same _ (.values applies)]
  | object properties =>
    have each : ∀ property ∈ properties,
        Json.quote property.1 ++ ": " ++ (first (some property.1, property.2)).expression =
          Json.quote property.1 ++ ": " ++ (second (some property.1, property.2)).expression :=
      fun property listed => congrArg _ (same _ (.property applies listed))
    simp only [Generator.expression.eq_def (.object _), Generator.propertyExpressions_eq_map,
      List.map_map, Function.comp_def, List.map_congr_left each, List.isEmpty_map]
  | array items =>
    cases items with
    | none =>
      simp only [Generator.expression.eq_def (.array ..), text_lengthBound_withLength,
        Option.map_none, Option.getD_none]
    | some items =>
      simp only [Generator.expression.eq_def (.array ..), text_lengthBound_withLength,
        Option.map_some, Option.getD_some, same _ (.items applies)]
  | _ => rfl

/-- Expressions do not depend on the configured array length. -/
theorem expression_generator_withLength (length : Nat) (call : Option String × Schema) :
    (call.2.generator (options.withLength length) call.1).expression =
      (call.2.generator options call.1).expression := by
  have recursion := recursion_generator options
  induction call using recursion.ends.induction with
  | _ call ih =>
    rw [recursion.unfolds, (recursion_generator (options.withLength length)).unfolds]
    exact expression_compileStep_withLength ih

end Schema

/-! ### Modules -/

/-- What comes before the array length in a module. -/
def beforeLength (title : String) (options : Options) : String :=
  headerSource title ++ String.join ((importLines options).map (· ++ "\n")) ++ "\nfaker.seed(1);\n"

/-- What comes after the array length in a module. -/
def afterLength (baseUrl : String) (options : Options) (mock : Mock) : String :=
  "\n" ++ counterSource options.isTypeScript ++
    "\nrest.config.API_PREFIX = '" ++ singleQuoted baseUrl ++ "';\n\n" ++
    "export function createHandlers(context" ++
    (if options.isTypeScript then ": MockContext" else "") ++ ") \x7b\n  return [\n    " ++
    mock.handlerSource ++ "\n  ];\n\x7d\n\n" ++
    "export const handlers = createHandlers(createMockContext());\n\n" ++
    startSource options.node ++ "\n\n" ++ mock.accessorSource

/-- The array length has a line of its own in a module. -/
theorem moduleSource_eq (title baseUrl : String) (options : Options) (mock : Mock) :
    moduleSource title baseUrl options mock =
      beforeLength title options ++ "\n" ++ lengthLine options.maxArrayLength ++ "\n" ++
        afterLength baseUrl options mock := by
  unfold moduleSource beforeLength lengthLine afterLength
  generalize headerSource title = header
  generalize String.join ((importLines options).map (· ++ "\n")) = imports
  generalize counterSource options.isTypeScript = counters
  simp only [String.append_assoc]
  generalize counters ++ _ = rest
  apply String.toList_inj.mp
  simp [String.toList_append]

namespace Mock

/-- What the text of a function depends on. -/
def summary (accessor : Accessor) : String × String := (accessor.name, accessor.body.expression)

/-- Functions with the same names and expressions, one by one, have first ones of each name with
the same names and expressions. -/
theorem map_summary_firstOfEach {taken : List String} {first second : List Accessor}
    (same : first.map summary = second.map summary) :
    (firstOfEach taken first).map summary = (firstOfEach taken second).map summary := by
  induction first generalizing second taken with
  | nil =>
    obtain rfl : second = [] := List.map_eq_nil_iff.mp same.symm
    rfl
  | cons accessor rest ih =>
    cases second with
    | nil => cases same
    | cons other others =>
      obtain ⟨head, tail⟩ := List.cons_eq_cons.mp same
      have names : accessor.name = other.name := congrArg Prod.fst head
      rw [firstOfEach, firstOfEach, names]
      split
      · exact ih tail
      · rw [List.map_cons, List.map_cons, head, ih tail]

/-- The text of the functions is made of their names and expressions. -/
theorem accessorSource_congr {first second : Mock}
    (same : first.accessors.map summary = second.accessors.map summary) :
    first.accessorSource = second.accessorSource := by
  have text : ∀ accessors : List Accessor, accessors.map Accessor.source =
      (accessors.map summary).map fun parts =>
        "export function " ++ parts.1 ++ "() \x7b return " ++ parts.2 ++ " \x7d;\n" := by
    intro accessors
    rw [List.map_map]
    rfl
  rw [accessorSource, accessorSource, text, text, same]

/-- The functions of a mock have the same names and expressions for another array length. -/
theorem map_summary_ofOperations_withLength (options : Options) (length : Nat)
    (operations : List Operation) :
    (ofOperations (options.withLength length) operations).accessors.map summary =
      (ofOperations options operations).accessors.map summary := by
  refine map_summary_firstOfEach ?_
  have each : ∀ response, (accessor? (options.withLength length) response).map summary =
      (accessor? options response).map summary := by
    intro response
    have body : (Generator.ofSchema (options.withLength length) none
        response.jsonSchema?).expression =
        (Generator.ofSchema options none response.jsonSchema?).expression := by
      cases response.jsonSchema? with
      | none => rfl
      | some schema => exact Schema.expression_generator_withLength length (none, schema)
    unfold accessor?
    split
    · simp only [Option.map_map, Function.comp_def, summary, body]
    · rfl
  simp only [List.map_flatMap, List.map_filterMap, each]

end Mock

/-- Two runs that differ in the configured array length give the same handlers and functions, and
their modules differ in the line that defines the length. In everything that is compiled for a
length, the components of a registry too, each bound that is written as the constant has for
sampling the number of that line. -/
theorem moduleSource_withLength (options : Options) (operations : List Operation)
    (title baseUrl : String) :
    (∀ length,
      (Mock.ofOperations (options.withLength length) operations).handlerSource =
          (Mock.ofOperations options operations).handlerSource ∧
        (Mock.ofOperations (options.withLength length) operations).accessorSource =
          (Mock.ofOperations options operations).accessorSource) ∧
    (∃ before after, ∀ length,
      moduleSource title baseUrl (options.withLength length)
          (Mock.ofOperations (options.withLength length) operations) =
        before ++ "\n" ++ lengthLine length ++ "\n" ++ after) ∧
    ∀ length,
      (∀ (key : Option String) (schema : Schema),
        CarriesLength length (schema.generator (options.withLength length) key)) ∧
      ∀ components : Entries Schema,
        ∀ entry ∈ Registry.ofComponents (options.withLength length) components,
          CarriesLength length entry.2 := by
  have accessors : ∀ length,
      (Mock.ofOperations (options.withLength length) operations).accessorSource =
        (Mock.ofOperations options operations).accessorSource := fun length =>
    Mock.accessorSource_congr (Mock.map_summary_ofOperations_withLength options length operations)
  have handlers : ∀ length,
      (Mock.ofOperations (options.withLength length) operations).handlerSource =
        (Mock.ofOperations options operations).handlerSource := fun _ => by
    simp only [Mock.handlerSource, Mock.ofOperations]
  refine ⟨fun length => ⟨handlers length, accessors length⟩, ?_, fun length => ⟨fun key schema =>
    Schema.carriesLength_generator (options.withLength length) key schema,
    fun components entry listed => ?_⟩⟩
  · refine ⟨beforeLength title options,
      afterLength baseUrl options (Mock.ofOperations options operations), fun length => ?_⟩
    have before : beforeLength title (options.withLength length) = beforeLength title options := rfl
    have after : afterLength baseUrl (options.withLength length)
        (Mock.ofOperations (options.withLength length) operations) =
        afterLength baseUrl options (Mock.ofOperations options operations) := by
      unfold afterLength
      rw [handlers length, accessors length]
      rfl
    rw [moduleSource_eq, before, after]
    rfl
  · obtain ⟨component, _, rfl⟩ := List.mem_map.mp listed
    exact Schema.carriesLength_generator
      { options.withLength length with registryModule := none } none component.2

/-- Arrays described with a list of types have the configured length as their bound. -/
theorem Schema.holds_generator_listedArrays (options : Options) :
    ((listedArrays none).generator options none).Holds
      (.array 1 (.configured options.maxArrayLength) .null) := by
  have choice : (listedArrays none).rule options = .typeList ["array"] := rfl
  have array : ((listedArrays none).withType "array").rule options = .array none := by
    simp [rule, registryName, referenceName, keywordRule, typeRule, withType, listedArrays]
  have reached : Reaches options (none, listedArrays none)
      (none, (listedArrays none).withType "array") :=
    .single (.type choice List.mem_cons_self)
  have held := reached.holds
  rwa [generator_of_array array] at held

/-- For the length seven, the bound of such arrays is seven, and the functions of a mock have the
same text as for the length twenty. -/
theorem moduleSource_withLength_seven :
    ((Schema.listedArrays none).generator (({} : Options).withLength 7) none).Holds
      (.array 1 (.configured 7) .null) ∧
    (LengthBound.configured 7).text = arrayLengthName ∧ (LengthBound.configured 7).value = 7 ∧
    (Mock.ofOperations (({} : Options).withLength 7) Mock.sharedOperations).accessorSource =
      (Mock.ofOperations {} Mock.sharedOperations).accessorSource := by
  have held := Schema.holds_generator_listedArrays (({} : Options).withLength 7)
  obtain ⟨sameTexts, -, carries⟩ := moduleSource_withLength {} Mock.sharedOperations "pets" "/api"
  exact ⟨held, rfl, (carries 7).1 none _ _ _ _ held rfl, (sameTexts 7).2⟩

end ApiMock
