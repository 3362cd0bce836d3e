import ApiMock.Proofs.Entries
import ApiMock.Proofs.Random.Draw
import ApiMock.Sample.Value
/-!
# Values that belong to generators

`Generator.Belongs` says which values a generator stands for, one rule for each kind of generator,
without drawing any. Sampling stays within it: whatever words the source gives, a sampled value
belongs to its generator, once the values of registry components belong to what is expected of
them.
-/
namespace ApiMock

namespace Sample

/-- The integers that bounds leave: those between the least and the greatest one, or the least
one where there is none. -/
def IntegerWithin (minimum maximum : Option Binary64) (n : Int) : Prop :=
  if leastInteger minimum ≤ greatestInteger maximum then
    leastInteger minimum ≤ n ∧ n ≤ greatestInteger maximum
  else n = leastInteger minimum

/-- The lengths that bounds leave: those between the capped bounds, or the capped lower one where
there is none. -/
def LengthWithin (minimum : Nat) (maximum : LengthBound) (length : Nat) : Prop :=
  if min minimum maxArrayLength ≤ min maximum.value maxArrayLength then
    min minimum maxArrayLength ≤ length ∧ length ≤ min maximum.value maxArrayLength
  else length = min minimum maxArrayLength

end Sample

/-- The values of a generator; `component` says which values the registry components have. -/
inductive Generator.Belongs (component : String → Json → Prop) : Generator → Json → Prop
  /-- Only null. -/
  | null : Belongs component .null .null
  /-- Only the given value. -/
  | literal (value : Json) : Belongs component (.literal value) value
  /-- A value of one of the alternatives. -/
  | oneOf {alternatives : List Generator} {generator : Generator} {value : Json}
      (member : generator ∈ alternatives) (belongs : Belongs component generator value) :
      Belongs component (.oneOf alternatives) value
  /-- Null where there is no alternative. -/
  | oneOfNone : Belongs component (.oneOf []) .null
  /-- A value of the component. -/
  | registry {name : String} {value : Json} (belongs : component name value) :
      Belongs component (.registry name) value
  /-- One of the values. -/
  | enum {values : List Json} {value : Json} (member : value ∈ values) :
      Belongs component (.enum values) value
  /-- Null where there is no value. -/
  | enumNone : Belongs component (.enum []) .null
  /-- A string. -/
  | text (kind : StringKind) (text : String) : Belongs component (.text kind) (.str text)
  /-- An integer within the bounds. -/
  | integer {minimum maximum : Option Binary64} {n : Int}
      (within : Sample.IntegerWithin minimum maximum n) :
      Belongs component (.integer minimum maximum) (.num (.integer n))
  /-- A truth value. -/
  | boolean (truth : Bool) : Belongs component .boolean (.bool truth)
  /-- An object with distinct words as keys and a value of the generator under each of them. -/
  | record {values : Generator} {members : Entries Json} (size : members.length = recordSize)
      (distinct : members.keys.Nodup) (words : ∀ key ∈ members.keys, key ∈ Sample.vocabulary)
      (belong : ∀ key value, (key, value) ∈ members → Belongs component values value) :
      Belongs component (.record values) (.obj members)
  /-- An object with the given keys in the order in which each first occurs, and under each of them
  a value of the last generator given for it. -/
  | object {properties : List (String × Generator)} {members : Entries Json}
      (names : members.keys = (properties.map Prod.fst).eraseDups)
      (belong : ∀ key value generator, (key, value) ∈ members →
        Entries.get? properties.reverse key = some generator → Belongs component generator value) :
      Belongs component (.object properties) (.obj members)
  /-- An array with a length within the bounds and values of the generator. -/
  | array {minimum : Nat} {maximum : LengthBound} {items : Generator} {values : List Json}
      (within : Sample.LengthWithin minimum maximum values.length)
      (belong : ∀ value ∈ values, Belongs component items value) :
      Belongs component (.array minimum maximum items) (.arr values)

open ApiMock.Random (Always)

namespace Sample

/-- Values drawn under keys keep the keys, each with an outcome of the draw. -/
theorem underKeys_always {σ : Type} {draw : StateM σ Json} {property : Json → Prop}
    (always : Always draw property) (keys : List String) :
    Always (underKeys draw keys) fun members =>
      Entries.keys members = keys ∧ ∀ key value, (key, value) ∈ members → property value := by
  induction keys with
  | nil => exact Always.pure ⟨rfl, by simp⟩
  | cons key rest ih =>
    refine always.bind fun value holds => ih.bind fun members settled => Always.pure ⟨?_, ?_⟩
    · rw [Entries.keys, List.map_cons]
      exact congrArg (key :: ·) settled.1
    · intro other later member
      rcases List.mem_cons.mp member with equal | inRest
      · cases equal
        exact holds
      · exact settled.2 other later inRest

variable {σ : Type} [WordSource σ]

/-- A drawn integer is within its bounds. -/
theorem integer_within (minimum maximum : Option Binary64) :
    Always (integer minimum maximum : StateM σ Int) (IntegerWithin minimum maximum) := by
  unfold integer IntegerWithin
  by_cases least : greatestInteger maximum ≤ leastInteger minimum
  · simp only [least, if_true]
    refine Always.pure ?_
    split <;> omega
  · simp only [least, if_false]
    have ordered : leastInteger minimum ≤ greatestInteger maximum := by omega
    refine (Random.between_mem ordered).imp fun n inside => ?_
    rw [if_pos ordered]
    exact inside

/-- A drawn array length is within its bounds. -/
theorem arrayLength_within (minimum : Nat) (maximum : LengthBound) :
    Always (arrayLength minimum maximum : StateM σ Nat) (LengthWithin minimum maximum) := by
  unfold arrayLength LengthWithin
  by_cases least : min maximum.value maxArrayLength ≤ min minimum maxArrayLength
  · simp only [least, if_true]
    refine Always.pure ?_
    split <;> omega
  · simp only [least, if_false]
    refine (Random.belowWide_lt (Nat.succ_pos _)).map fun offset inside => ?_
    rw [if_pos (by omega)]
    omega

/-- The keys of a made-up object are as many distinct words as it has members. -/
theorem recordKeys_nodup :
    Always (recordKeys : StateM σ (List String)) fun keys =>
      keys.Nodup ∧ keys.length = recordSize ∧ ∀ key ∈ keys, key ∈ vocabulary := by
  refine (Random.positions_nodup (by decide)).map fun places settled => ?_
  obtain ⟨distinct, size, inside⟩ := settled
  have reads : ∀ place ∈ places, ∃ h : place < vocabulary.length,
      vocabulary.getD place "" = vocabulary[place] := fun place member =>
    ⟨inside place member, by simp [List.getD_eq_getElem?_getD, inside place member]⟩
  refine ⟨distinct.map_on ?_, by rw [List.length_map, size], ?_⟩
  · intro left inLeft right inRight same
    obtain ⟨leftInside, leftReads⟩ := reads left inLeft
    obtain ⟨rightInside, rightReads⟩ := reads right inRight
    rw [leftReads, rightReads] at same
    exact (List.Nodup.getElem_inj_iff (by decide)).mp same
  · intro key member
    obtain ⟨place, inPlaces, rfl⟩ := List.mem_map.mp member
    obtain ⟨_, reads⟩ := reads place inPlaces
    rw [reads]
    exact List.getElem_mem _

end Sample

namespace Generator

/-- Named values match named generators, name by name and in order. -/
def Matching (component : String → Json → Prop) :
    List (String × Generator) → List (String × Json) → Prop :=
  List.Forall₂ fun property write =>
    write.1 = property.1 ∧ Belongs component property.2 write.2

namespace Matching

variable {component : String → Json → Prop} {properties : List (String × Generator)}
  {writes : List (String × Json)}

/-- Matching values have the names of the generators. -/
theorem names_eq (matching : Matching component properties writes) :
    writes.map Prod.fst = properties.map Prod.fst := by
  induction matching with
  | nil => rfl
  | cons head _ ih => rw [List.map_cons, List.map_cons, head.1, ih]

/-- The value and the generator that are found first under a name belong together. -/
theorem belongs_of_get? (matching : Matching component properties writes) {key : String}
    {value : Json} {generator : Generator} (read : Entries.get? writes key = some value)
    (listed : Entries.get? properties key = some generator) :
    Belongs component generator value := by
  induction matching with
  | nil => simp [Entries.get?] at read
  | @cons property write _ _ head _ ih =>
    obtain ⟨same, belongs⟩ := head
    simp only [Entries.get?, same] at read listed
    split at read
    · rename_i equal
      rw [if_pos equal] at listed
      cases read
      cases listed
      exact belongs
    · rename_i different
      rw [if_neg different] at listed
      exact ih read listed

/-- Matching values leave, when written one after another, a value of the object. -/
theorem belongs_object (matching : Matching component properties writes) :
    Belongs component (.object properties) (.obj (Entries.ofWrites writes)) := by
  have backwards : Matching component properties.reverse writes.reverse :=
    List.rel_reverse matching
  refine .object (by rw [Entries.keys_ofWrites, matching.names_eq]) ?_
  intro key value generator member listed
  have read := Entries.get?_of_mem (Entries.nodup_keys_ofWrites writes) member
  rw [Entries.get?_ofWrites] at read
  exact backwards.belongs_of_get? read listed

end Matching

variable {σ : Type} [WordSource σ]

mutual

/-- A sampled value belongs to its generator. -/
theorem sampleWith_belongs {draw : String → StateM σ Json} {component : String → Json → Prop}
    (known : ∀ name, Always (draw name) (component name)) (now : Instant) :
    (generator : Generator) → Always (generator.sampleWith draw now) (Belongs component generator)
  | .null => Always.pure .null
  | .literal value => Always.pure (.literal value)
  | .oneOf alternatives => by
    rw [sampleWith]
    by_cases empty : alternatives = []
    · subst empty
      exact Always.pure .oneOfNone
    · rw [if_neg (by simpa using empty)]
      refine (Random.below_lt (List.length_pos_iff.mpr empty)).bind fun place inside => ?_
      refine (sampleAt_belongs known now alternatives place inside).imp fun value belongs => ?_
      obtain ⟨generator, member, belongs⟩ := belongs
      exact .oneOf member belongs
  | .registry name => (known name).imp fun _ belongs => .registry belongs
  | .enum values => by
    rw [sampleWith]
    refine (Random.choose?_mem values).map fun chosen settled => ?_
    rcases settled with ⟨value, member, rfl⟩ | ⟨rfl, rfl⟩
    · exact .enum member
    · exact .enumNone
  | .text kind => (Always.trivial (Sample.text now kind)).map fun text _ => .text kind text
  | .integer minimum maximum =>
    (Sample.integer_within minimum maximum).map fun _ within => .integer within
  | .boolean => (Always.trivial Random.truth).map fun truth _ => .boolean truth
  | .record values => by
    rw [sampleWith]
    refine Sample.recordKeys_nodup.bind fun keys settled => ?_
    refine (Sample.underKeys_always (sampleWith_belongs known now values) keys).map
      fun members drawn => ?_
    obtain ⟨distinct, size, words⟩ := settled
    obtain ⟨rfl, belong⟩ := drawn
    exact .record (by simpa [Entries.keys] using size) distinct words belong
  | .object properties => by
    rw [sampleWith]
    exact (sampleProperties_belong known now properties).map fun _ (matching : Matching ..) =>
      matching.belongs_object
  | .array minimum maximum items => by
    rw [sampleWith]
    refine (Sample.arrayLength_within minimum maximum).bind fun length within => ?_
    refine (Random.repeated_always (sampleWith_belongs known now items) length).map
      fun values drawn => ?_
    obtain ⟨rfl, belong⟩ := drawn
    exact .array within belong

/-- A value sampled at a place of a list belongs to one of the generators. -/
theorem sampleAt_belongs {draw : String → StateM σ Json} {component : String → Json → Prop}
    (known : ∀ name, Always (draw name) (component name)) (now : Instant) :
    (alternatives : List Generator) → (place : Nat) → place < alternatives.length →
      Always (sampleAt draw now alternatives place) fun value =>
        ∃ generator ∈ alternatives, Belongs component generator value
  | [], place, inside => absurd inside (Nat.not_lt_zero place)
  | generator :: _, 0, _ => (sampleWith_belongs known now generator).imp fun _ belongs =>
    ⟨generator, List.mem_cons_self, belongs⟩
  | _ :: rest, place + 1, inside =>
    (sampleAt_belongs known now rest place (Nat.lt_of_succ_lt_succ inside)).imp
      fun _ ⟨generator, member, belongs⟩ => ⟨generator, List.mem_cons_of_mem _ member, belongs⟩

/-- Sampled properties match their generators in order. -/
theorem sampleProperties_belong {draw : String → StateM σ Json} {component : String → Json → Prop}
    (known : ∀ name, Always (draw name) (component name)) (now : Instant) :
    (properties : List (String × Generator)) →
      Always (sampleProperties draw now properties) (Matching component properties)
  | [] => Always.pure .nil
  | (_, generator) :: rest =>
    (sampleWith_belongs known now generator).bind fun _ belongs =>
      (sampleProperties_belong known now rest).map fun _ matching =>
        .cons ⟨rfl, belongs⟩ matching

end

end Generator

end ApiMock
