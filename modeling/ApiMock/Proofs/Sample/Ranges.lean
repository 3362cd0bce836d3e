import ApiMock.Proofs.Sample.Conformance
import ApiMock.Proofs.Schema.Origin
/-!
# Declared bounds beside defaults

A bound that a schema leaves open is filled in without a look at the one that it declares: arrays
have at least one item and at most as many as the options say, and numbers begin at zero. Where the
declared bounds are in order, what is made up is within them unless the default is on the wrong
side, and then the range is empty. For array lengths these are the schemas that allow the empty
array only (`Schema.OnlyEmpty`) and those that ask for more than the options allow; for numbers
those that allow negative ones only (`Schema.OnlyNegative`).
-/
namespace ApiMock

/-- The number of an upper bound is the declared one, or else that of the options. -/
@[simp]
theorem Options.value_lengthBound (options : Options) (declared : Option Nat) :
    (options.lengthBound declared).value = declared.getD options.maxArrayLength := by
  cases declared <;> rfl

/-- A length within bounds is between the capped ones, or it is the lower one of an empty range. -/
theorem Sample.lengthWithin_cases {minimum length : Nat} {maximum : LengthBound}
    (within : LengthWithin minimum maximum length) :
    min minimum maxArrayLength ≤ length ∧ length ≤ min maximum.value maxArrayLength ∨
      min maximum.value maxArrayLength < min minimum maxArrayLength ∧
        length = min minimum maxArrayLength := by
  unfold LengthWithin at within
  split at within
  · exact .inl within
  · exact .inr ⟨by omega, within⟩

/-- A sampled value belongs to its generator, whatever the registry gives for components. -/
theorem Generator.belongs_sample {σ : Type} [WordSource σ] (generator : Generator)
    (registry : Registry) (now : Instant) (state : σ) :
    generator.Belongs (fun _ _ => True) ((generator.sample registry now).run state).1 :=
  sampleWith_belongs (fun name => Random.Always.trivial (registry.sample now name)) now
    generator state

namespace Schema

variable {options : Options} {schema node : Schema} {length : Nat}

/-! ### Lengths of arrays -/

/-- What a schema asks of the length of an array. -/
structure LengthDemands (schema : Schema) (length : Nat) : Prop where
  /-- The length is at least the declared lower bound. -/
  minimum : ∀ least, schema.minLength = some least → least ≤ length
  /-- The length is at most the declared upper bound. -/
  maximum : ∀ greatest, schema.maxLength = some greatest → length ≤ greatest

/-- The declared bounds on lengths are in order. -/
def LengthsOrdered (schema : Schema) : Prop :=
  ∀ least greatest, schema.minLength = some least → schema.maxLength = some greatest →
    least ≤ greatest

/-- No declared bound on lengths exceeds a cap. -/
structure LengthsBelow (schema : Schema) (cap : Nat) : Prop where
  /-- The lower bound does not. -/
  minimum : ∀ least, schema.minLength = some least → least ≤ cap
  /-- The upper bound does not. -/
  maximum : ∀ greatest, schema.maxLength = some greatest → greatest ≤ cap

/-- Only the empty array is short enough, and no lower bound is declared. -/
def OnlyEmpty (schema : Schema) : Prop := schema.minLength = none ∧ schema.maxLength = some 0

/-- Each declared bound is on the right side of the default that stands for the other one. -/
structure HasRoom (options : Options) (schema : Schema) : Prop where
  /-- An upper bound that stands alone admits the length one. -/
  lower : ¬ schema.OnlyEmpty
  /-- A lower bound that stands alone is at most the configured length. -/
  upper : ∀ least, schema.minLength = some least → schema.maxLength = none →
    least ≤ options.maxArrayLength

/-- The range of lengths that is compiled from ordered bounds has a length in it exactly when the
defaults leave room. -/
theorem length_range_iff (ordered : schema.LengthsOrdered) (positive : 1 ≤ options.maxArrayLength) :
    schema.minLength.getD 1 ≤ schema.maxLength.getD options.maxArrayLength ↔
      schema.HasRoom options := by
  constructor
  · intro room
    refine ⟨fun ⟨undeclared, empty⟩ => ?_, fun least declared further => ?_⟩
    · simp [undeclared, empty] at room
    · simpa [declared, further] using room
  · rintro ⟨lower, upper⟩
    cases declared : schema.minLength with
    | none =>
      cases further : schema.maxLength with
      | none => exact positive
      | some greatest =>
        have positive : greatest ≠ 0 := fun zero => lower ⟨declared, zero ▸ further⟩
        exact Nat.pos_of_ne_zero positive
    | some least =>
      cases further : schema.maxLength with
      | none => exact upper least declared further
      | some greatest => exact ordered least greatest declared further

/-- A length within a compiled range is within the declared bounds, which the cap of sampling leaves
alone, unless these admit the empty array only. -/
theorem lengthDemands_iff (ordered : schema.LengthsOrdered)
    (uncapped : schema.LengthsBelow Sample.maxArrayLength)
    (within : Sample.LengthWithin (schema.minLength.getD 1) (options.lengthBound schema.maxLength)
      length) :
    schema.LengthDemands length ↔ ¬ schema.OnlyEmpty := by
  have cap : Sample.maxArrayLength = 1000 := rfl
  have drawn := Sample.lengthWithin_cases within
  rw [Options.value_lengthBound, cap] at drawn
  rw [cap] at uncapped
  constructor
  · rintro demands ⟨undeclared, empty⟩
    have atMost := demands.maximum 0 empty
    simp only [undeclared, empty, Option.getD_none, Option.getD_some] at drawn
    omega
  · intro room
    refine ⟨fun least declared => ?_, fun greatest declared => ?_⟩
    · have small := uncapped.minimum least declared
      simp only [declared, Option.getD_some] at drawn
      omega
    · have small := uncapped.maximum greatest declared
      cases further : schema.minLength with
      | none =>
        have positive : greatest ≠ 0 := fun zero => room ⟨further, zero ▸ declared⟩
        simp only [declared, further, Option.getD_none, Option.getD_some] at drawn
        omega
      | some least =>
        have order := ordered least greatest further declared
        simp only [declared, further, Option.getD_some] at drawn
        omega

/-- A schema that the compiler makes an array for has the bounds of a sub-schema, where nothing is
composed. -/
theorem MakesArray.lengthsOrdered {root : Option String × Schema}
    (makes : MakesArray options root node)
    (plain : ∀ held, root.2.Holds held → held.allOf = none)
    (ordered : ∀ held, root.2.Holds held → held.LengthsOrdered) : node.LengthsOrdered := by
  obtain ⟨key, reached⟩ := makes.reached
  obtain ⟨held, type, holds, equal⟩ := exists_held_of_reaches plain reached
  simp only at equal
  rw [equal]
  exact ordered held holds

/-- A sampled array has a length within its range. -/
theorem exists_sample_array {σ : Type} [WordSource σ] (minimum : Nat) (maximum : LengthBound)
    (items : Generator) (registry : Registry) (now : Instant) (state : σ) :
    ∃ values,
      (((Generator.array minimum maximum items).sample registry now).run state).1 = .arr values ∧
        Sample.LengthWithin minimum maximum values.length := by
  have belongs := (Generator.array minimum maximum items).belongs_sample registry now state
  generalize (((Generator.array minimum maximum items).sample registry now).run state).1 = value
    at belongs
  cases belongs with
  | array within belong => exact ⟨_, rfl, within⟩

/-- Where nothing is composed and the declared bounds on lengths are in order, the arrays of a
compiled generator are those of the schemas that the compiler makes arrays for. The emitted range of
lengths is empty exactly for the schemas whose bounds the defaults leave no room. A sampled length
is within declared bounds that are not capped unless these allow the empty array only. -/
theorem array_ranges (options : Options) (σ : Type) [WordSource σ] (key : Option String)
    (plain : ∀ node, schema.Holds node → node.allOf = none)
    (ordered : ∀ node, schema.Holds node → node.LengthsOrdered)
    (positive : 1 ≤ options.maxArrayLength) :
    (∀ minimum maximum items,
      (schema.generator options key).Holds (.array minimum maximum items) ↔
        ∃ node, MakesArray options (key, schema) node ∧
          node.generator options none = .array minimum maximum items) ∧
    ∀ node, MakesArray options (key, schema) node → ∃ minimum maximum items,
      node.generator options none = .array minimum maximum items ∧
      (minimum ≤ maximum.value ↔ node.HasRoom options) ∧
      (node.LengthsBelow Sample.maxArrayLength →
        ∀ (registry : Registry) (now : Instant) (state : σ), ∃ values,
          (((Generator.array minimum maximum items).sample registry now).run state).1 =
              .arr values ∧
            (node.LengthDemands values.length ↔ ¬ node.OnlyEmpty)) := by
  refine ⟨fun _ _ _ => holds_array_iff (key, schema), fun node makes => ?_⟩
  have inOrder : node.LengthsOrdered := makes.lengthsOrdered plain ordered
  obtain ⟨items, applies⟩ := makes.applies
  refine ⟨_, _, _, generator_of_array applies none, ?_, fun uncapped registry now state => ?_⟩
  · rw [Options.value_lengthBound]
    exact length_range_iff inOrder positive
  · obtain ⟨values, sampled, within⟩ := exists_sample_array _ _ _ registry now state
    exact ⟨values, sampled, lengthDemands_iff inOrder uncapped within⟩

/-- Arrays with bounds on their lengths. -/
def boundedArrays (least greatest : Option Nat) (items : Option Schema) : Schema where
  type := some (.single "array")
  minLength := least
  maxLength := greatest
  items := items

/-- Bounded arrays hold themselves and what their items hold. -/
theorem holds_boundedArrays {least greatest : Option Nat} {items : Option Schema}
    (held : (boundedArrays least greatest items).Holds node) :
    node = boundedArrays least greatest items ∨ ∃ inner, items = some inner ∧ inner.Holds node := by
  cases held with
  | root => exact .inl rfl
  | items found inner => exact .inr ⟨_, found, inner⟩
  | property listed => cases listed
  | additional found => cases found
  | member listed => cases listed
  | oneOf listed => cases listed
  | anyOf listed => cases listed

/-- The compiler makes an array for bounded arrays. -/
theorem rule_boundedArrays (options : Options) (least greatest : Option Nat)
    (items : Option Schema) : (boundedArrays least greatest items).rule options = .array items := by
  simp [rule, registryName, referenceName, keywordRule, typeRule, boundedArrays]

/-- Arrays of at least three arrays of at most two, without a bound on the other side. -/
def gridSchema : Schema := boundedArrays (some 3) none (some (boundedArrays none (some 2) none))

/-- In the schema of a grid nothing is composed, the bounds are in order, and the compiler makes an
array for the items, whose lengths are in range. -/
theorem array_ranges_gridSchema :
    (∀ node, gridSchema.Holds node → node.allOf = none) ∧
    (∀ node, gridSchema.Holds node → node.LengthsOrdered) ∧
    MakesArray {} (none, gridSchema) (boundedArrays none (some 2) none) ∧
    ∃ minimum maximum items, (gridSchema.generator {} none).Holds (.array minimum maximum items) ∧
      minimum ≤ maximum.value ∧
      ∃ values, (((Generator.array minimum maximum items).sample [] 0).run (ChaCha.ofSeed 7)).1 =
        .arr values ∧ (boundedArrays none (some 2) none).LengthDemands values.length := by
  have places : ∀ node, gridSchema.Holds node →
      node = gridSchema ∨ node = boundedArrays none (some 2) none := by
    intro node held
    rcases holds_boundedArrays held with rfl | ⟨inner, found, below⟩
    · exact .inl rfl
    · cases found
      rcases holds_boundedArrays below with rfl | ⟨_, found, _⟩
      · exact .inr rfl
      · cases found
  have plain : ∀ node, gridSchema.Holds node → node.allOf = none := by
    intro node held
    rcases places node held with rfl | rfl <;> rfl
  have ordered : ∀ node, gridSchema.Holds node → node.LengthsOrdered := by
    intro node held
    rcases places node held with rfl | rfl <;> nofun
  have makes : MakesArray {} (none, gridSchema) (boundedArrays none (some 2) none) :=
    ⟨⟨none, .single (.items (rule_boundedArrays {} _ _ _))⟩, _, rule_boundedArrays {} _ _ _⟩
  have room : (boundedArrays none (some 2) none).HasRoom {} := ⟨nofun, nofun⟩
  obtain ⟨arrays, ranges⟩ := array_ranges {} ChaCha none plain ordered (by decide)
  obtain ⟨minimum, maximum, items, compiled, range, sampled⟩ := ranges _ makes
  obtain ⟨values, drawn, demands⟩ := sampled ⟨nofun, by rintro _ ⟨⟩; decide⟩ [] 0 (ChaCha.ofSeed 7)
  exact ⟨plain, ordered, makes, minimum, maximum, items,
    (arrays minimum maximum items).mpr ⟨_, makes, compiled⟩, range.mpr room, values, drawn,
    demands.mpr nofun⟩

/-- An upper bound of zero that stands alone gives an empty range and an array that is too long, and
so does a lower bound beyond the configured length give an empty range. -/
theorem empty_ranges :
    (∀ node, (boundedArrays none (some 0) none).Holds node →
      node.allOf = none ∧ node.LengthsOrdered ∧ node.LengthsBelow Sample.maxArrayLength) ∧
    ((boundedArrays none (some 0) none).generator {} none).Holds
      (.array 1 (.declared 0) .null) ∧
    ¬ 1 ≤ (LengthBound.declared 0).value ∧
    (((Generator.array 1 (.declared 0) .null).sample [] 0).run (ChaCha.ofSeed 0)).1 =
      .arr [.null] ∧
    ¬ (boundedArrays none (some 0) none).LengthDemands [Json.null].length ∧
    (∀ node, (boundedArrays (some 25) none none).Holds node →
      node.allOf = none ∧ node.LengthsOrdered) ∧
    ((boundedArrays (some 25) none none).generator {} none).Holds
      (.array 25 (.configured 20) .null) ∧
    ¬ 25 ≤ (LengthBound.configured 20).value := by
  refine ⟨fun node held => ?_, ?_, by decide, rfl, fun demands => ?_, fun node held => ?_, ?_,
    by decide⟩
  · rcases holds_boundedArrays held with rfl | ⟨_, found, _⟩
    · exact ⟨rfl, nofun, nofun, by rintro _ ⟨⟩; decide⟩
    · cases found
  · rw [generator_of_array (rule_boundedArrays _ _ _ _)]
    exact .root _
  · exact absurd (demands.maximum 0 rfl) (by decide)
  · rcases holds_boundedArrays held with rfl | ⟨_, found, _⟩
    · exact ⟨rfl, nofun⟩
    · cases found
  · rw [generator_of_array (rule_boundedArrays _ _ _ _)]
    exact .root _

/-! ### Numbers -/

/-- Only negative numbers are small enough, and no lower bound is declared. -/
def OnlyNegative (schema : Schema) : Prop :=
  schema.minimum = none ∧ ∃ bound, schema.maximum = some bound ∧ ¬ bound.AtLeast 0

/-- Bounds that admit a safe integer leave one to draw, unless they admit negative ones only. -/
theorem exists_leaves (room : ∃ n : Int, n.natAbs ≤ Sample.maxInteger ∧ schema.NumberDemands n)
    (mixed : ¬ schema.OnlyNegative) :
    ∃ n : Int, n.natAbs ≤ Sample.maxInteger ∧ schema.Leaves n := by
  obtain ⟨known, safe, demands⟩ := room
  have small : known ≤ Sample.maxInteger := by omega
  cases undeclared : schema.minimum with
  | some least =>
    have bounded : schema.minimum = none → 0 ≤ known := by
      rw [undeclared]
      nofun
    exact ⟨known, safe, demands, bounded, fun _ => small⟩
  | none =>
    -- Nothing but the upper bound can be against zero, and that is what `mixed` rules out.
    have zero : schema.NumberDemands ((0 : Int) : ℚ) := by
      refine ⟨fun bound declared => ?_, fun bound declared => ?_⟩
      · rw [undeclared] at declared
        cases declared
      · by_contra above
        exact mixed ⟨undeclared, bound, declared, by simpa using above⟩
    exact ⟨0, by decide, zero, fun _ => Int.le_refl 0, fun _ => by decide⟩

/-- Where only negative numbers are admitted, the least integer is drawn all the same: zero. -/
theorem eq_zero_of_onlyNegative {n : Int} (negative : schema.OnlyNegative)
    (room : ∃ n : Int, n.natAbs ≤ Sample.maxInteger ∧ schema.NumberDemands n)
    (within : Sample.IntegerWithin schema.minimum schema.maximum n) : n = 0 := by
  obtain ⟨undeclared, bound, declared, below⟩ := negative
  obtain ⟨known, safe, demands⟩ := room
  have least : Sample.leastInteger schema.minimum = 0 := by
    rw [undeclared]
    rfl
  have greatest : Sample.greatestInteger schema.maximum < 0 := by
    rw [declared]
    by_contra above
    have admitted := Binary64.atLeast_of_le_floorWithin (by omega) (demands.maximum bound declared)
      (Int.not_lt.mp above)
    exact below (by simpa using admitted)
  rw [Sample.IntegerWithin, least, if_neg (by omega)] at within
  exact within

/-- A number sampled from a schema is an integer within the compiled range. -/
theorem exists_sample_number {σ : Type} [WordSource σ] (numeric : schema.rule options = .number)
    (key : Option String) (registry : Registry) (now : Instant) (state : σ) :
    ∃ n : Int,
      (((schema.generator options key).sample registry now).run state).1 = .num (.integer n) ∧
        Sample.IntegerWithin schema.minimum schema.maximum n := by
  have compiled : schema.generator options key = .integer schema.minimum schema.maximum := by
    rw [generator_eq, numeric]
  have belongs := (schema.generator options key).belongs_sample registry now state
  rw [compiled] at belongs ⊢
  generalize (((Generator.integer schema.minimum schema.maximum).sample registry now).run state).1 =
    value at belongs
  cases belongs with
  | integer within => exact ⟨_, rfl, within⟩

/-- Whatever words the source gives, a number is within the declared bounds if these admit any safe
integer, unless they admit negative ones only without saying where these begin. Then it is zero. -/
theorem number_ranges {σ : Type} [WordSource σ] (numeric : schema.rule options = .number)
    (room : ∃ n : Int, n.natAbs ≤ Sample.maxInteger ∧ schema.NumberDemands n)
    (key : Option String) (registry : Registry) (now : Instant) (state : σ) :
    ∃ n : Int,
      (((schema.generator options key).sample registry now).run state).1 = .num (.integer n) ∧
        (schema.NumberDemands n ↔ ¬ schema.OnlyNegative) ∧ (schema.OnlyNegative → n = 0) := by
  obtain ⟨n, sampled, within⟩ := exists_sample_number numeric key registry now state
  refine ⟨n, sampled, ⟨fun demands negative => ?_, fun mixed => ?_⟩,
    fun negative => eq_zero_of_onlyNegative negative room within⟩
  · have zero := eq_zero_of_onlyNegative negative room within
    obtain ⟨_, bound, declared, below⟩ := negative
    have admitted := demands.maximum bound declared
    rw [zero] at admitted
    exact below (by simpa using admitted)
  · obtain ⟨known, safe, leaves⟩ := exists_leaves room mixed
    exact numberDemands_of_within safe leaves within

/-- Integers with bounds. -/
def boundedIntegers (least greatest : Option Binary64) : Schema where
  type := some (.single "integer")
  minimum := least
  maximum := greatest

/-- The compiler makes a number for bounded integers. -/
theorem rule_boundedIntegers (options : Options) (least greatest : Option Binary64) :
    (boundedIntegers least greatest).rule options = .number := by
  simp [rule, registryName, referenceName, keywordRule, typeRule, boundedIntegers]

/-- The integers from one half to two. -/
def oneOrTwo : Schema :=
  boundedIntegers (some ⟨0x3FE0000000000000⟩) (some ⟨0x4000000000000000⟩)

/-- From one half to two there are integers, and a seed draws one of them. -/
theorem number_ranges_oneOrTwo :
    oneOrTwo.rule {} = .number ∧
    (∃ n : Int, n.natAbs ≤ Sample.maxInteger ∧ oneOrTwo.NumberDemands n) ∧
    ∃ n : Int, (((oneOrTwo.generator {} none).sample [] 0).run (ChaCha.ofSeed 7)).1 =
        .num (.integer n) ∧ oneOrTwo.NumberDemands n := by
  have half : (⟨0x3FE0000000000000⟩ : Binary64).meaning = .finite false (2 ^ 52) (-53) := by decide
  have two : (⟨0x4000000000000000⟩ : Binary64).meaning = .finite false (2 ^ 52) (-51) := by decide
  have room : ∃ n : Int, n.natAbs ≤ Sample.maxInteger ∧ oneOrTwo.NumberDemands n := by
    refine ⟨1, by decide, ?_, ?_⟩
    · rintro bound ⟨⟩
      norm_num [Binary64.AtMost, half, Binary64.signed]
    · rintro bound ⟨⟩
      norm_num [Binary64.AtLeast, two, Binary64.signed]
  have numeric : oneOrTwo.rule {} = .number := rule_boundedIntegers {} _ _
  obtain ⟨n, sampled, demands, _⟩ := number_ranges numeric room none [] 0 (ChaCha.ofSeed 7)
  exact ⟨numeric, room, n, sampled, demands.mpr fun negative => Option.some_ne_none _ negative.1⟩

/-- The integers up to the least safe one. -/
def leastSafe : Schema := boundedIntegers none (some ⟨0xC33FFFFFFFFFFFFF⟩)

/-- Where only the least safe integer is small enough, zero is drawn. -/
theorem zero_above_leastSafe :
    leastSafe.rule {} = .number ∧
    (∃ n : Int, n.natAbs ≤ Sample.maxInteger ∧ leastSafe.NumberDemands n) ∧
    (((leastSafe.generator {} none).sample [] 0).run (ChaCha.ofSeed 0)).1 = .num (.integer 0) ∧
    ¬ leastSafe.NumberDemands ((0 : Int) : ℚ) := by
  have least : (⟨0xC33FFFFFFFFFFFFF⟩ : Binary64).meaning = .finite true (2 ^ 53 - 1) 0 := by decide
  have numeric : leastSafe.rule {} = .number := rule_boundedIntegers {} _ _
  refine ⟨numeric, ⟨-(2 ^ 53 - 1), by decide, nofun, ?_⟩, ?_, fun demands => ?_⟩
  · rintro bound ⟨⟩
    norm_num [Binary64.AtLeast, least, Binary64.signed]
  · rw [generator_eq, numeric]
    rfl
  · have admitted := demands.maximum _ rfl
    norm_num [Binary64.AtLeast, least, Binary64.signed] at admitted

end Schema

end ApiMock
