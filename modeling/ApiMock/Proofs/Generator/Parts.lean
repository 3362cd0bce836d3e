import ApiMock.Generator.Basic
/-!
# Parts of generators

The generators that another one is directly made of, those that stand anywhere in it, and how
deeply it nests. A generator without parts counts one.
-/
namespace ApiMock.Generator

/-- A generator is directly made of another. -/
inductive Part : Generator → Generator → Prop
  /-- The alternatives of a choice. -/
  | alternative {alternatives : List Generator} {generator : Generator}
      (listed : generator ∈ alternatives) : Part generator (.oneOf alternatives)
  /-- The values of made-up keys. -/
  | values (values : Generator) : Part values (.record values)
  /-- The values of given keys. -/
  | property {properties : List (String × Generator)} {name : String} {generator : Generator}
      (listed : (name, generator) ∈ properties) : Part generator (.object properties)
  /-- The items of an array. -/
  | items (minimum : Nat) (maximum : LengthBound) (items : Generator) :
      Part items (.array minimum maximum items)

/-- What stands anywhere in a generator: the generator itself, and what is in its parts. -/
inductive Holds : Generator → Generator → Prop
  /-- The generator itself. -/
  | root (generator : Generator) : Holds generator generator
  /-- What a part holds. -/
  | part {generator part place : Generator} (direct : Part part generator)
      (inner : Holds part place) : Holds generator place

mutual

/-- The depth of a generator: one more than the deepest of its parts. -/
def depth : Generator → Nat
  | null | literal _ | registry _ | enum _ | text _ | integer _ _ | boolean => 1
  | oneOf alternatives => 1 + depthAll alternatives
  | record values => 1 + depth values
  | object properties => 1 + depthProperties properties
  | array _ _ items => 1 + depth items

/-- The depth of the deepest generator of a list. -/
def depthAll : List Generator → Nat
  | [] => 0
  | generator :: rest => max (depth generator) (depthAll rest)

/-- The depth of the deepest property. -/
def depthProperties : List (String × Generator) → Nat
  | [] => 0
  | (_, generator) :: rest => max (depth generator) (depthProperties rest)

end

/-- The deepest generator of a list is within a bound exactly when all of them are. -/
theorem depthAll_le_iff {generators : List Generator} {bound : Nat} :
    depthAll generators ≤ bound ↔ ∀ generator ∈ generators, generator.depth ≤ bound := by
  induction generators with
  | nil => simp [depthAll]
  | cons generator rest ih => rw [depthAll, Nat.max_le, ih, List.forall_mem_cons]

/-- The deepest property is within a bound exactly when all of them are. -/
theorem depthProperties_le_iff {properties : List (String × Generator)} {bound : Nat} :
    depthProperties properties ≤ bound ↔
      ∀ property ∈ properties, property.2.depth ≤ bound := by
  induction properties with
  | nil => simp [depthProperties]
  | cons property rest ih => rw [depthProperties, Nat.max_le, ih, List.forall_mem_cons]

/-- A generator nests one level more than its parts. -/
theorem depth_le_succ_iff {generator : Generator} {bound : Nat} :
    generator.depth ≤ bound + 1 ↔ ∀ part, Part part generator → part.depth ≤ bound := by
  cases generator with
  | oneOf alternatives =>
    rw [depth, Nat.add_comm, Nat.add_le_add_iff_right, depthAll_le_iff]
    constructor
    · intro below part direct
      cases direct with
      | alternative listed => exact below part listed
    · exact fun below generator listed => below generator (.alternative listed)
  | record values =>
    rw [depth, Nat.add_comm, Nat.add_le_add_iff_right]
    constructor
    · rintro below part ⟨⟩
      exact below
    · exact fun below => below values (.values values)
  | object properties =>
    rw [depth, Nat.add_comm, Nat.add_le_add_iff_right, depthProperties_le_iff]
    constructor
    · intro below part direct
      cases direct with
      | property listed => exact below _ listed
    · exact fun below property listed => below property.2 (.property listed)
  | array minimum maximum items =>
    rw [depth, Nat.add_comm, Nat.add_le_add_iff_right]
    constructor
    · rintro below part ⟨⟩
      exact below
    · exact fun below => below items (.items minimum maximum items)
  | _ =>
    simp only [depth, Nat.le_add_left, true_iff]
    rintro part ⟨⟩

/-- A part nests less deeply than what it is a part of. -/
theorem Part.depth_lt {part generator : Generator} (direct : Part part generator) :
    part.depth < generator.depth := by
  have positive : 1 ≤ generator.depth := by cases generator <;> simp [depth]
  have split : generator.depth ≤ (generator.depth - 1) + 1 := by omega
  have below : part.depth ≤ generator.depth - 1 := depth_le_succ_iff.mp split part direct
  omega

end ApiMock.Generator
