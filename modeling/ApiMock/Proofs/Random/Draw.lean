import ApiMock.Random.Source
import Mathlib.Data.List.Nodup
/-!
# Where draws end up

A law of a draw has to hold whatever words the source gives, so it speaks of every state that the
draw may start from. `Always` says that a property holds of every outcome; it goes through
sequencing, and each draw of the library has one law that names the range of its outcomes. A draw
below a bound stays below it because the high half of a product of a word and the bound does.
-/
namespace ApiMock.Random

variable {σ α β : Type}

/-- Every outcome of a draw has a property, whatever state the draw starts from. -/
def Always (draw : StateM σ α) (property : α → Prop) : Prop :=
  ∀ state, property (draw state).1

/-- A value that is not drawn has the properties that it has. -/
theorem Always.pure {property : α → Prop} {value : α} (holds : property value) :
    Always (pure value : StateM σ α) property := fun _ => holds

/-- A draw that is followed by another: the second may rely on what holds of the first. -/
theorem Always.bind {draw : StateM σ α} {next : α → StateM σ β} {first : α → Prop}
    {second : β → Prop} (before : Always draw first)
    (after : ∀ value, first value → Always (next value) second) :
    Always (draw >>= next) second := fun state =>
  after (draw state).1 (before state) (draw state).2

/-- A weaker property holds as well. -/
theorem Always.imp {draw : StateM σ α} {strong weak : α → Prop} (always : Always draw strong)
    (weaken : ∀ value, strong value → weak value) : Always draw weak := fun state =>
  weaken _ (always state)

/-- What is always true is true of every draw. -/
theorem Always.trivial (draw : StateM σ α) : Always draw fun _ => True := fun _ => True.intro

/-- A draw that is changed on its way out. -/
theorem Always.map {draw : StateM σ α} {change : α → β} {first : α → Prop} {second : β → Prop}
    (always : Always draw first) (changed : ∀ value, first value → second (change value)) :
    Always (do return change (← draw)) second :=
  always.bind fun value holds => Always.pure (changed value holds)

/-- Repeated draws give as many results as there were draws, each with the property of one. -/
theorem repeated_always {draw : StateM σ α} {property : α → Prop} (always : Always draw property)
    (times : Nat) :
    Always (repeated draw times) fun results =>
      results.length = times ∧ ∀ result ∈ results, property result := by
  induction times with
  | zero => exact Always.pure ⟨rfl, by simp⟩
  | succ times ih =>
    refine always.bind fun first holds => ih.bind fun rest settled => Always.pure ⟨?_, ?_⟩
    · rw [List.length_cons, settled.1]
    · intro result member
      rcases List.mem_cons.mp member with rfl | later
      · exact holds
      · exact settled.2 result later

/-- Attempts at a draw below a positive bound end below it, the last one included. -/
theorem attempt_lt {width bound : Nat} {draw : StateM σ Nat} (fits : Always draw (· < 2 ^ width))
    (positive : 0 < bound) (attempts : Nat) :
    Always (attempt width draw bound attempts) (· < bound) := by
  induction attempts with
  | zero => exact Always.pure positive
  | succ attempts ih =>
    refine fits.bind fun value small => ?_
    by_cases kept : value * bound % 2 ^ width ≤ lastKept width bound
    · simp only [kept, if_true]
      refine Always.pure ((Nat.div_lt_iff_lt_mul (Nat.two_pow_pos width)).mpr ?_)
      rw [Nat.mul_comm bound]
      exact Nat.mul_lt_mul_of_pos_right small positive
    · simp only [kept, if_false]
      exact ih

variable [WordSource σ]

/-- A narrow draw fits a word. -/
theorem narrow_lt : Always (narrow : StateM σ Nat) (· < 2 ^ 32) :=
  (Always.trivial word).map fun value _ => value.toNat_lt

/-- A wide draw fits two words. -/
theorem wide_lt : Always (wide : StateM σ Nat) (· < 2 ^ 64) := by
  refine narrow_lt.bind fun low lowFits => narrow_lt.bind fun high highFits => Always.pure ?_
  omega

/-- A draw below a positive bound is below it. -/
theorem below_lt {bound : Nat} (positive : 0 < bound) :
    Always (below bound : StateM σ Nat) (· < bound) := attempt_lt narrow_lt positive patience

/-- A wide draw below a positive bound is below it. -/
theorem belowWide_lt {bound : Nat} (positive : 0 < bound) :
    Always (belowWide bound : StateM σ Nat) (· < bound) := attempt_lt wide_lt positive patience

/-- A draw between ordered bounds is between them. -/
theorem between_mem {low high : Int} (ordered : low ≤ high) :
    Always (between low high : StateM σ Int) fun n => low ≤ n ∧ n ≤ high := by
  have some : 0 < (high - low + 1).toNat := by omega
  refine (belowWide_lt some).bind fun offset inside => Always.pure ?_
  omega

/-- A draw of one of some values gives one of them, and nothing only where there is none. -/
theorem choose?_mem (values : List α) :
    Always (choose? values : StateM σ (Option α)) fun chosen =>
      (∃ value ∈ values, chosen = some value) ∨ values = [] ∧ chosen = none := by
  unfold choose?
  by_cases empty : values = []
  · rw [if_pos (by simpa using empty)]
    exact Always.pure (.inr ⟨empty, rfl⟩)
  · rw [if_neg (by simpa using empty)]
    refine (below_lt (List.length_pos_iff.mpr empty)).map fun place inside => .inl ?_
    exact ⟨values[place], List.getElem_mem inside, List.getElem?_eq_getElem inside⟩

/-- One more distinct position: a fresh one is appended, and one drawn before gives way to the
newest, which is beyond all positions drawn so far. -/
private theorem extend_nodup {newest position : Nat} {drawn : List Nat} (distinct : drawn.Nodup)
    (older : ∀ place ∈ drawn, place < newest) (inside : position < newest + 1) :
    let place := drawn.idxOf position
    let extended :=
      if place < drawn.length then drawn.take place ++ newest :: drawn.drop place
      else drawn ++ [position]
    extended.Nodup ∧ extended.length = drawn.length + 1 ∧
      ∀ place ∈ extended, place < newest + 1 := by
  intro place extended
  have unseen : newest ∉ drawn := fun member => Nat.lt_irrefl _ (older newest member)
  by_cases seen : place < drawn.length
  · have shape : extended = drawn.take place ++ newest :: drawn.drop place := if_pos seen
    have shuffled : extended.Perm (newest :: drawn) := by
      rw [shape]
      exact List.perm_middle.trans (by rw [List.take_append_drop])
    refine ⟨shuffled.nodup_iff.mpr (List.nodup_cons.mpr ⟨unseen, distinct⟩),
      by rw [shuffled.length_eq, List.length_cons], ?_⟩
    intro other member
    rcases List.mem_cons.mp (shuffled.mem_iff.mp member) with rfl | before
    · exact Nat.lt_succ_self _
    · exact Nat.lt_succ_of_lt (older other before)
  · have shape : extended = drawn ++ [position] := if_neg seen
    have fresh : position ∉ drawn := fun member => seen (List.idxOf_lt_length_of_mem member)
    rw [shape]
    refine ⟨List.concat_eq_append ▸ distinct.concat fresh, by simp, ?_⟩
    intro other member
    rcases List.mem_append.mp member with before | last
    · exact Nat.lt_succ_of_lt (older other before)
    · rw [List.mem_singleton.mp last]
      exact inside

/-- Positions drawn one by one stay distinct. -/
private theorem positionsFrom_nodup (count : Nat) {newest : Nat} {drawn : List Nat}
    (distinct : drawn.Nodup) (older : ∀ place ∈ drawn, place < newest) :
    Always (positionsFrom newest count drawn : StateM σ (List Nat)) fun places =>
      places.Nodup ∧ places.length = drawn.length + count ∧
        ∀ place ∈ places, place < newest + count := by
  induction count generalizing newest drawn with
  | zero => exact Always.pure ⟨distinct, rfl, older⟩
  | succ count ih =>
    refine (below_lt (Nat.succ_pos newest)).bind fun position inside => ?_
    obtain ⟨still, longer, bounded⟩ := extend_nodup distinct older inside
    refine (ih still bounded).imp fun places settled => ?_
    rw [longer] at settled
    refine ⟨settled.1, by omega, fun place member => ?_⟩
    have := settled.2.2 place member
    omega

/-- Drawn positions are distinct, as many as asked for, and positions of the list. -/
theorem positions_nodup {length count : Nat} (enough : count ≤ length) :
    Always (positions length count : StateM σ (List Nat)) fun places =>
      places.Nodup ∧ places.length = count ∧ ∀ place ∈ places, place < length := by
  refine (positionsFrom_nodup count List.nodup_nil (by simp)).imp fun places settled => ?_
  refine ⟨settled.1, by simpa using settled.2.1, fun place member => ?_⟩
  have := settled.2.2 place member
  omega

end ApiMock.Random
