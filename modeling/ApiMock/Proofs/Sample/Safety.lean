import ApiMock.Proofs.Number.Rounding
import ApiMock.Proofs.Random.Panic
import ApiMock.Proofs.Sample.Component
import ApiMock.Random.ChaCha
/-!
# Sampling every generator

Generators that no schema is compiled to can be sampled too: without alternatives, with a property
twice, with bounds that cross, are infinite or not a number. `Generator.guardedWith` samples with
draws that panic on an empty range, which a program asks for in three places: integers, array
lengths and past dates. (Choosing from a list never panics, it gives nothing from none.) No such
range is ever empty, so guarded sampling settles to sampling, and `sample_belongs` says that every
generator always gives one of its values, those of the given components wherever it refers to them.
-/
namespace ApiMock

open ApiMock.Random (Guarded Settles fromRange)

namespace Sample

/-- The bounds of an integer are the rounded ones, zero and the greatest safe integer where there is
none. -/
theorem bounds_eq (minimum maximum : Option Binary64) :
    leastInteger minimum =
        minimum.elim 0 (fun bound => bound.roundedWithin maxInteger Int.ceil) ∧
      greatestInteger maximum =
        maximum.elim (maxInteger : Int) fun bound => bound.roundedWithin maxInteger Int.floor := by
  constructor
  · cases minimum with
    | none => rfl
    | some bound => exact Binary64.ceilWithin_eq _ bound
  · cases maximum with
    | none => rfl
    | some bound => exact Binary64.floorWithin_eq _ bound

/-- Values under keys are drawn without a panic if one value is. -/
theorem underKeys_settles {σ : Type} {guarded : Guarded σ Json}
    {draw : StateM σ Json} (settles : Settles guarded draw) (keys : List String) :
    Settles (keys.mapM fun key => do return (key, ← guarded)) (underKeys draw keys) := by
  induction keys with
  | nil => exact .pure []
  | cons key rest ih =>
    have shape : underKeys draw (key :: rest) =
        (do return (key, ← draw)) >>= fun member => do return member :: (← underKeys draw rest) :=
      rfl
    rw [List.mapM_cons, shape]
    exact (settles.map (key, ·)).bind fun member => ih.map (member :: ·)

variable {σ : Type} [WordSource σ]

/-- An integer between bounds, drawn from a range that must not be empty. -/
def guardedInteger (minimum maximum : Option Binary64) : Guarded σ Int :=
  let low := leastInteger minimum
  let high := greatestInteger maximum
  if high ≤ low then return low else fromRange (low ≤ high) (Random.between low high)

/-- The length of an array between capped bounds, drawn from a range that must not be empty. -/
def guardedLength (minimum : Nat) (maximum : LengthBound) : Guarded σ Nat :=
  let low := min minimum maxArrayLength
  let high := min maximum.value maxArrayLength
  if high ≤ low then return low
  else fromRange (low ≤ high) do return low + (← Random.belowWide (high - low + 1))

/-- A string of a kind. Only a date is drawn from a range. -/
def guardedText (now : Instant) : StringKind → Guarded σ String
  | .pastDate => fromRange (1 ≤ yearLength) (pastDate now)
  | kind => ExceptT.lift (text now kind)

/-- Integers are drawn from no empty range. -/
theorem guardedInteger_settles (minimum maximum : Option Binary64) :
    Settles (guardedInteger minimum maximum : Guarded σ Int) (integer minimum maximum) := by
  unfold guardedInteger integer
  by_cases least : greatestInteger maximum ≤ leastInteger minimum
  · simp only [least, if_true]
    exact .pure _
  · simp only [least, if_false]
    exact .fromRange (by omega) _

/-- Array lengths are drawn from no empty range. -/
theorem guardedLength_settles (minimum : Nat) (maximum : LengthBound) :
    Settles (guardedLength minimum maximum : Guarded σ Nat) (arrayLength minimum maximum) := by
  unfold guardedLength arrayLength
  by_cases least : min maximum.value maxArrayLength ≤ min minimum maxArrayLength
  · simp only [least, if_true]
    exact .pure _
  · simp only [least, if_false]
    exact .fromRange (by omega) _

/-- Dates are drawn from no empty range. -/
theorem guardedText_settles (now : Instant) (kind : StringKind) :
    Settles (guardedText now kind : Guarded σ String) (text now kind) := by
  cases kind with
  | pastDate => exact .fromRange (by decide) _
  | _ => exact .lift _

end Sample

namespace Generator

variable {σ : Type} [WordSource σ]

mutual

/-- A value of a generator, with a panic where a range to draw from is empty; `component` supplies
the values of registry components. -/
def guardedWith (component : String → Guarded σ Json) (now : Instant) : Generator → Guarded σ Json
  | null => return .null
  | literal value => return value
  | oneOf alternatives =>
    if alternatives.isEmpty then return .null
    else do
      let place ← ExceptT.lift (Random.below alternatives.length)
      guardedAt component now alternatives place
  | registry name => component name
  | enum values => do return (← ExceptT.lift (Random.choose? values)).getD .null
  | text kind => do return .str (← Sample.guardedText now kind)
  | integer minimum maximum => do
    return .num (.integer (← Sample.guardedInteger minimum maximum))
  | boolean => do return .bool (← ExceptT.lift Random.truth)
  | record values => do
    let keys ← ExceptT.lift Sample.recordKeys
    return .obj (← keys.mapM fun key => do return (key, ← guardedWith component now values))
  | object properties => do
    return .obj (Entries.ofWrites (← guardedProperties component now properties))
  | array minimum maximum items => do
    let length ← Sample.guardedLength minimum maximum
    return .arr (← (List.replicate length ()).mapM fun _ => guardedWith component now items)

/-- A value of the generator at a place of a list. -/
def guardedAt (component : String → Guarded σ Json) (now : Instant) :
    List Generator → Nat → Guarded σ Json
  | [], _ => return .null
  | generator :: _, 0 => guardedWith component now generator
  | _ :: rest, place + 1 => guardedAt component now rest place

/-- Values of named generators, in order. -/
def guardedProperties (component : String → Guarded σ Json) (now : Instant) :
    List (String × Generator) → Guarded σ (List (String × Json))
  | [] => return []
  | (name, generator) :: rest => do
    let value ← guardedWith component now generator
    let members ← guardedProperties component now rest
    return (name, value) :: members

end

mutual

/-- No sampled value needs a draw from an empty range. -/
theorem guardedWith_settles {guardedComponent : String → Guarded σ Json}
    {component : String → StateM σ Json}
    (settles : ∀ name, Settles (guardedComponent name) (component name)) (now : Instant) :
    (generator : Generator) →
      Settles (generator.guardedWith guardedComponent now) (generator.sampleWith component now)
  | .null => by
    rw [guardedWith, sampleWith]
    exact .pure _
  | .literal value => by
    rw [guardedWith, sampleWith]
    exact .pure value
  | .oneOf alternatives => by
    rw [guardedWith, sampleWith]
    by_cases none : alternatives.isEmpty = true
    · rw [if_pos none, if_pos none]
      exact .pure _
    · rw [if_neg none, if_neg none]
      exact (Settles.lift _).bind fun place => guardedAt_settles settles now alternatives place
  | .registry name => by
    rw [guardedWith, sampleWith]
    exact settles name
  | .enum values => by
    rw [guardedWith, sampleWith]
    exact (Settles.lift (Random.choose? values)).map fun chosen => chosen.getD Json.null
  | .text kind => by
    rw [guardedWith, sampleWith]
    exact (Sample.guardedText_settles now kind).map Json.str
  | .integer minimum maximum => by
    rw [guardedWith, sampleWith]
    exact (Sample.guardedInteger_settles minimum maximum).map fun n => Json.num (.integer n)
  | .boolean => by
    rw [guardedWith, sampleWith]
    exact (Settles.lift Random.truth).map Json.bool
  | .record values => by
    rw [guardedWith, sampleWith]
    have value := guardedWith_settles settles now values
    exact (Settles.lift _).bind fun keys => (Sample.underKeys_settles value keys).map Json.obj
  | .object properties => by
    rw [guardedWith, sampleWith]
    exact (guardedProperties_settles settles now properties).map
      fun written => Json.obj (Entries.ofWrites written)
  | .array minimum maximum items => by
    rw [guardedWith, sampleWith]
    have item := guardedWith_settles settles now items
    exact (Sample.guardedLength_settles minimum maximum).bind
      fun length => (item.repeated length).map Json.arr

/-- No value sampled at a place of a list needs a draw from an empty range. -/
theorem guardedAt_settles {guardedComponent : String → Guarded σ Json}
    {component : String → StateM σ Json}
    (settles : ∀ name, Settles (guardedComponent name) (component name)) (now : Instant) :
    (alternatives : List Generator) → (place : Nat) →
      Settles (guardedAt guardedComponent now alternatives place)
        (sampleAt component now alternatives place)
  | [], place => by
    rw [guardedAt, sampleAt]
    exact .pure _
  | generator :: rest, 0 => by
    rw [guardedAt, sampleAt]
    exact guardedWith_settles settles now generator
  | generator :: rest, place + 1 => by
    rw [guardedAt, sampleAt]
    exact guardedAt_settles settles now rest place

/-- No value sampled for a property needs a draw from an empty range. -/
theorem guardedProperties_settles {guardedComponent : String → Guarded σ Json}
    {component : String → StateM σ Json}
    (settles : ∀ name, Settles (guardedComponent name) (component name)) (now : Instant) :
    (properties : List (String × Generator)) →
      Settles (guardedProperties guardedComponent now properties)
        (sampleProperties component now properties)
  | [] => by
    rw [guardedProperties, sampleProperties]
    exact .pure []
  | (name, generator) :: rest => by
    rw [guardedProperties, sampleProperties]
    exact (guardedWith_settles settles now generator).bind fun value =>
      (guardedProperties_settles settles now rest).map ((name, value) :: ·)

end

end Generator

variable {σ : Type} [WordSource σ]

/-- A value of a registry component, with a panic where a range to draw from is empty. -/
def Registry.guarded (registry : Registry) (now : Instant) (name : String) : Guarded σ Json :=
  match Entries.get? registry name with
  | some generator => generator.guardedWith (fun _ => return .null) now
  | none => return .null

/-- No value sampled for a registry component needs a draw from an empty range. -/
theorem Registry.guarded_settles (registry : Registry) (now : Instant) (name : String) :
    Settles (registry.guarded now name : Guarded σ Json) (registry.sample now name) := by
  unfold guarded sample
  cases Entries.get? registry name with
  | none => exact .pure _
  | some generator => exact generator.guardedWith_settles (fun _ => .pure _) now

/-- A value of a generator, with a panic where a range to draw from is empty. -/
def Generator.guarded (registry : Registry) (now : Instant) (generator : Generator) :
    Guarded σ Json :=
  generator.guardedWith (registry.guarded now) now

/-- Every generator always gives one of its values. Sampling it panics from no state of the source,
whatever components it is sampled with, and the sampled value belongs to it, where a reference
stands for the values of the generator of its component, with the references in that followed too,
and for null if the component is not known. The known components are the given ones, each with the
generator of its schema without a registry. The bounds of integers are the rounded ones. -/
theorem Generator.sample_belongs (options : Options) (components : Entries Schema)
    (now : Instant) :
    let registry := Registry.ofComponents options components
    (∀ minimum maximum : Option Binary64,
      Sample.leastInteger minimum =
          minimum.elim 0 (fun bound => bound.roundedWithin Sample.maxInteger Int.ceil) ∧
        Sample.greatestInteger maximum = maximum.elim (Sample.maxInteger : Int)
          fun bound => bound.roundedWithin Sample.maxInteger Int.floor) ∧
    (∀ name, Entries.get? registry name = (Entries.get? components name).map fun schema =>
      schema.generator { options with registryModule := none } none) ∧
    (∀ name, (registry.sample now name : StateM σ Json) =
      match Entries.get? registry name with
      | some generator => generator.sample registry now
      | none => return .null) ∧
    ∀ (generator : Generator) (state : σ), ∃ value rest,
      (generator.guarded registry now).run.run state = (.ok value, rest) ∧
      (generator.sample registry now).run state = (value, rest) ∧
      Generator.Belongs registry.Supplies generator value := by
  intro registry
  refine ⟨Sample.bounds_eq, Registry.get?_ofComponents options components,
    Registry.sample_ofComponents options components now, ?_⟩
  intro generator state
  have settled : Settles (generator.guarded registry now : Guarded σ Json)
      (generator.sample registry now) :=
    generator.guardedWith_settles (registry.guarded_settles now) now
  have belongs : Random.Always (generator.sample registry now : StateM σ Json)
      (Generator.Belongs registry.Supplies generator) :=
    generator.sampleWith_belongs (Registry.sample_supplies options components now) now
  exact ⟨_, _, settled state, rfl, belongs state⟩

/-- The state of a ticket, marked as what it is expanded from. -/
def ticketState : Schema := { enum := some [.str "open", .str "closed"], refName := some "State" }

/-- The components of tickets, among them no owner. -/
def ticketComponents : Entries Schema :=
  [("State", { ticketState with refName := none }),
    ("Ticket", { Schema.ofType "object" with properties := some [("state", ticketState)] })]

/-- A ticket and its owner. -/
def ownedTicket : Generator :=
  .object [("ticket", .registry "Ticket"), ("owner", .registry "Owner")]

/-- With a registry the ticket is of the generator that its schema has without one, in which the
state is not looked up. The owner is not known and so is null. -/
theorem Generator.sample_belongs_ownedTicket :
    let options : Options := { registryModule := some "./registry.ts" }
    let registry := Registry.ofComponents options ticketComponents
    let ticket : Generator := .object [("state", .enum [.str "open", .str "closed"])]
    Entries.get? registry "Ticket" = some ticket ∧ Entries.get? registry "Owner" = none ∧
      ∃ members, ((ownedTicket.sample registry 0).run (ChaCha.ofSeed 7)).1 = .obj members ∧
        Entries.keys members = ["ticket", "owner"] ∧
        (∀ value, ("ticket", value) ∈ members → Belongs registry.Supplies ticket value) ∧
        ∀ value, ("owner", value) ∈ members → value = .null := by
  intro options registry ticket
  obtain ⟨-, stored, -, samples⟩ := Generator.sample_belongs (σ := ChaCha) options ticketComponents 0
  have state : ticketState.generator {} (some "state") = .enum [.str "open", .str "closed"] :=
    Schema.generator_eq ..
  have known : Entries.get? registry "Ticket" = some ticket := by
    rw [stored]
    change some (Schema.generator {} none _) = _
    rw [Schema.generator_eq]
    exact congrArg (fun state => some (object [("state", state)])) state
  have unknown : Entries.get? registry "Owner" = none := by
    rw [stored]
    rfl
  obtain ⟨value, rest, -, sampled, belongs⟩ := samples ownedTicket (ChaCha.ofSeed 7)
  rw [sampled]
  refine ⟨known, unknown, ?_⟩
  cases belongs with
  | @object _ members names belong =>
    refine ⟨members, rfl, names, fun value member => ?_, fun value member => ?_⟩
    · cases belong "ticket" value (.registry "Ticket") member rfl with
      | registry supplied => exact supplied.belongs known
    · cases belong "owner" value (.registry "Owner") member rfl with
      | registry supplied => exact supplied.eq_null unknown

end ApiMock
